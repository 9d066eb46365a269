import Mathlib
import RemoteSigner.Proofs.Json.ReadBack

/-!
# Float text is read as a number

The text of a finite float is a number with a fraction or an exponent, whatever its digits are
(`FloatStyle.exists_parts`), and such text is read as some float (`exists_reads_number`). So a value that
holds floats is read back up to them (`exists_readText_compact`).
-/

namespace RemoteSigner

namespace Json

/-! ## Numbers as text -/

/-- At least one digit, and nothing else. -/
def IsDigits (cs : List Char) : Prop := cs ≠ [] ∧ ∀ c ∈ cs, c.isDigit

/-- What stands before a point: a zero, or digits that do not start with one and leave room for a sign. -/
inductive IsWholePart : List Char → Prop
  | zero : IsWholePart ['0']
  | digits {c : Char} {cs : List Char} (hc : c.isDigit) (hzero : c ≠ '0') (hcs : ∀ d ∈ cs, d.isDigit)
      (hlength : cs.length + 1 < maxDigits) : IsWholePart (c :: cs)

/-- What follows the whole part of a float: a fraction or an exponent, or one after the other. -/
inductive IsTail : List Char → Prop
  | fraction {cs : List Char} (h : IsDigits cs) : IsTail ('.' :: cs)
  | exponent {sign : Char} {cs : List Char} (hsign : sign = '+' ∨ sign = '-') (h : IsDigits cs) :
      IsTail ('e' :: sign :: cs)
  | both {sign : Char} {cs ds : List Char} (h : IsDigits cs) (hsign : sign = '+' ∨ sign = '-')
      (h' : IsDigits ds) : IsTail ('.' :: cs ++ 'e' :: sign :: ds)

theorem mark_of_isDigit {c : Char} (h : c.isDigit) :
    ∃ d < 10, c = d.digitChar ∧ mark c.toNat = .digit d := by
  simp only [Char.isDigit, Bool.and_eq_true, decide_eq_true_eq, UInt32.le_iff_toNat_le] at h
  obtain ⟨hlow, hhigh⟩ : 48 ≤ c.toNat ∧ c.toNat ≤ 57 := h
  have hdigit : c = (c.toNat - 48).digitChar := by
    apply Char.toNat_inj.mp
    generalize c.toNat = n at *
    interval_cases n <;> rfl
  have hlt : c.toNat - 48 < 10 := by omega
  have hmark : mark c.toNat = mark (c.toNat - 48).digitChar.toNat := congrArg (mark ·.toNat) hdigit
  exact ⟨_, hlt, hdigit, hmark.trans (mark_digitChar hlt)⟩

variable {σ α : Type} {D : Dialect σ α} {name : String → σ} {build : Json → α}

/-! ## Growing numbers -/

/-- The number `n` becomes the number `n'` with these characters. -/
def Numeral.Grows (D : Dialect σ α) (n : Numeral) (cs : List Char) (n' : Numeral) : Prop :=
  ∀ stack : List (Frame σ α), feed D ⟨stack, .number n⟩ (cs.map Char.toNat) = .ok ⟨stack, .number n'⟩

/-- The number is in this phase, and it has few enough digits before its point to have room for its sign. -/
structure Numeral.At (phase : Numeral.Phase) (n : Numeral) : Prop where
  phase : n.phase = phase
  wholeCount : n.wholeCount < maxDigits

/-- The number is before its point, with room for so many digits and its sign. -/
def Numeral.HasRoom (room : Nat) (n : Numeral) : Prop :=
  n.phase = .whole ∧ n.wholeCount + room < maxDigits

namespace Numeral

variable {n n' n'' : Numeral} {cs ds : List Char} {p q : Phase}

theorem Grows.nil : n.Grows D [] n := fun _ => rfl

theorem Grows.append (h : n.Grows D cs n') (h' : n'.Grows D ds n'') : n.Grows D (cs ++ ds) n'' := by
  intro stack
  rw [List.map_append]
  exact feed_trans (h stack) (h' stack)

theorem fits_of_lt (hn : n.wholeCount < maxDigits) : n.fits D = true := by
  have hsign : (D.countsSign && n.neg).toNat ≤ 1 := Bool.toNat_le _
  refine fits_of_le ?_
  unfold places
  omega

theorem Grows.cons {c : Char} (hc : n.push (mark c.toNat) = .more n') (hn' : n'.wholeCount < maxDigits)
    (h : n'.Grows D cs n'') : n.Grows D (c :: cs) n'' := by
  intro stack
  have hstep : State.step? D ⟨stack, .number n⟩ c.toNat = some ⟨stack, .number n'⟩ := by
    simp only [State.step?, hc]
    rw [if_pos (fits_of_lt hn')]
  rw [List.map_cons, feed_cons hstep]
  exact h stack

theorem push_of_phase (hn : n.phase = p) (m : Mark) :
    n.push m = ({ n with phase := p } : Numeral).push m := by
  rw [← hn]

theorem exists_grows {P : Nat → Numeral → Prop} (hP : ∀ k n, P (k + 1) n → ∀ d, ∃ n',
      n.push (.digit d) = .more n' ∧ n'.wholeCount < maxDigits ∧ P k n')
    (hn : P cs.length n) (hcs : ∀ c ∈ cs, c.isDigit) : ∃ n', n.Grows D cs n' ∧ P 0 n' := by
  induction cs generalizing n with
  | nil => exact ⟨n, .nil, hn⟩
  | cons c cs ih =>
    obtain ⟨hc, hcs⟩ := List.forall_mem_cons.mp hcs
    obtain ⟨d, -, -, hmark⟩ := mark_of_isDigit hc
    obtain ⟨n₁, hpush, hcount, hn₁⟩ := hP _ n hn d
    obtain ⟨n', hgrows, hn'⟩ := ih hn₁ hcs
    exact ⟨n', .cons (hmark ▸ hpush) hcount hgrows, hn'⟩

theorem exists_grows_whole (hn : n.HasRoom cs.length) (hcs : ∀ c ∈ cs, c.isDigit) :
    ∃ n', n.Grows D cs n' ∧ n'.At .whole := by
  have hpush : ∀ k (n : Numeral), n.HasRoom (k + 1) → ∀ d, ∃ n',
      n.push (.digit d) = .more n' ∧ n'.wholeCount < maxDigits ∧ n'.HasRoom k := by
    rintro k n ⟨hn, hk⟩ d
    have hless : n.wholeCount + 1 + k < maxDigits := by omega
    exact ⟨_, (push_of_phase hn _).trans rfl, (Nat.le_add_right _ k).trans_lt hless, rfl, hless⟩
  obtain ⟨n', hgrows, hphase, hcount⟩ := exists_grows (D := D) hpush hn hcs
  exact ⟨n', hgrows, hphase, hcount⟩

theorem exists_grows_fraction (hn : n.At .fraction) (hcs : ∀ c ∈ cs, c.isDigit) :
    ∃ n', n.Grows D cs n' ∧ n'.At .fraction := by
  refine exists_grows (P := fun _ n => n.At .fraction) ?_ hn hcs
  rintro - n ⟨hn, hcount⟩ d
  exact ⟨_, (push_of_phase hn _).trans rfl, hcount, rfl, hcount⟩

theorem exists_grows_exponent (hn : n.At .exponentDigits) (hcs : ∀ c ∈ cs, c.isDigit) :
    ∃ n', n.Grows D cs n' ∧ n'.At .exponentDigits := by
  refine exists_grows (P := fun _ n => n.At .exponentDigits) ?_ hn hcs
  rintro - n ⟨hn, hcount⟩ d
  exact ⟨_, (push_of_phase hn _).trans rfl, hcount, rfl, hcount⟩

theorem exists_grows_point (hn : n.At .zero ∨ n.At .whole) (hcs : IsDigits cs) :
    ∃ n', n.Grows D ('.' :: cs) n' ∧ n'.At .fraction := by
  obtain ⟨hne, hcs⟩ := hcs
  obtain ⟨c, cs, rfl⟩ := List.exists_cons_of_ne_nil hne
  obtain ⟨hc, hcs⟩ := List.forall_mem_cons.mp hcs
  obtain ⟨d, -, -, hmark⟩ := mark_of_isDigit hc
  have hcount : n.wholeCount < maxDigits := hn.elim At.wholeCount At.wholeCount
  have hpoint : n.push (mark '.'.toNat) = .more { n with phase := .point } := by
    obtain hn | hn := hn <;> exact push_of_phase hn.phase _
  have hdigit : ({ n with phase := .point } : Numeral).push (mark c.toNat) =
      .more { n with phase := .fraction, digits := n.digits * 10 + d, fractionCount := 1 } := by
    rw [hmark]
    rfl
  obtain ⟨n', hgrows, hn'⟩ := exists_grows_fraction (D := D)
    (n := { n with phase := .fraction, digits := n.digits * 10 + d, fractionCount := 1 })
    ⟨rfl, hcount⟩ hcs
  exact ⟨n', .cons hpoint hcount (.cons hdigit hcount hgrows), hn'⟩

theorem exists_grows_letter {sign : Char} (hn : n.At .zero ∨ n.At .whole ∨ n.At .fraction)
    (hsign : sign = '+' ∨ sign = '-') (hcs : IsDigits cs) :
    ∃ n', n.Grows D ('e' :: sign :: cs) n' ∧ n'.At .exponentDigits := by
  obtain ⟨hne, hcs⟩ := hcs
  obtain ⟨c, cs, rfl⟩ := List.exists_cons_of_ne_nil hne
  obtain ⟨hc, hcs⟩ := List.forall_mem_cons.mp hcs
  obtain ⟨d, -, -, hmark⟩ := mark_of_isDigit hc
  have hcount : n.wholeCount < maxDigits := by
    obtain h | h | h := hn <;> exact h.wholeCount
  have hletter : n.push (mark 'e'.toNat) = .more { n with phase := .exponent } := by
    obtain hn | hn | hn := hn <;> exact push_of_phase hn.phase _
  obtain ⟨n₁, hpush, hn₁⟩ : ∃ n₁, ({ n with phase := .exponent } : Numeral).push (mark sign.toNat) =
      .more n₁ ∧ n₁.At .exponentSign := by
    rcases hsign with rfl | rfl
    · exact ⟨{ n with phase := .exponentSign }, rfl, rfl, hcount⟩
    · exact ⟨{ n with phase := .exponentSign, exponentNeg := true }, rfl, rfl, hcount⟩
  have hdigit : n₁.push (mark c.toNat) = .more { n₁ with phase := .exponentDigits, exponent := d } := by
    rw [hmark]
    exact push_of_phase hn₁.phase _
  obtain ⟨n', hgrows, hn'⟩ := exists_grows_exponent (D := D)
    (n := { n₁ with phase := .exponentDigits, exponent := d }) ⟨rfl, hn₁.wholeCount⟩ hcs
  exact ⟨n', .cons hletter hcount (.cons hpush hn₁.wholeCount (.cons hdigit hn₁.wholeCount hgrows)), hn'⟩

/-- After the whole part, a tail makes a number a float. -/
theorem exists_grows_tail (hn : n.At .zero ∨ n.At .whole) (hcs : IsTail cs) :
    ∃ n', n.Grows D cs n' ∧ (n'.At .fraction ∨ n'.At .exponentDigits) := by
  obtain h | ⟨hsign, h⟩ | ⟨h, hsign, h'⟩ := hcs
  · obtain ⟨n', hgrows, hn'⟩ := exists_grows_point (D := D) hn h
    exact ⟨n', hgrows, .inl hn'⟩
  · obtain ⟨n', hgrows, hn'⟩ := exists_grows_letter (D := D) (or_assoc.mp (.inl hn)) hsign h
    exact ⟨n', hgrows, .inr hn'⟩
  · obtain ⟨n₁, hfraction, hn₁⟩ := exists_grows_point (D := D) hn h
    obtain ⟨n', hexponent, hn'⟩ := exists_grows_letter (D := D) (.inr (.inr hn₁)) hsign h'
    exact ⟨n', hfraction.append hexponent, .inr hn'⟩

theorem exists_grows_wholePart {whole : List Char} (h : IsWholePart whole) (neg : Bool) :
    ∃ d cs n', d < 10 ∧ whole = d.digitChar :: cs ∧ (ofDigit neg d).Grows D cs n' ∧
      (n'.At .zero ∨ n'.At .whole) := by
  obtain _ | ⟨hc, hzero, hcs, hlength⟩ := h
  · exact ⟨0, [], _, by decide, rfl, .nil, .inl ⟨rfl, one_lt_maxDigits⟩⟩
  · obtain ⟨d, hd, rfl, -⟩ := mark_of_isDigit hc
    have hphase : (ofDigit neg d).phase = .whole := if_neg fun h : d = 0 => hzero (h ▸ rfl)
    obtain ⟨n', hgrows, hn'⟩ := exists_grows_whole (D := D) (n := ofDigit neg d)
      ⟨hphase, (Nat.add_comm _ _).trans_lt hlength⟩ hcs
    exact ⟨d, _, n', hd, rfl, hgrows, .inr hn'⟩

/-- A number with a fraction or an exponent stands for a float. -/
theorem exists_value_eq (hn : n.At .fraction ∨ n.At .exponentDigits) :
    ∃ x, n.value? D = some (D.float x) := by
  unfold value?
  obtain hn | hn := hn
  · rw [hn.phase]
    exact ⟨_, rfl⟩
  · rw [hn.phase]
    exact ⟨_, rfl⟩

end Numeral

/-- A number with a fraction or an exponent is read as some float. -/
theorem exists_reads_number {neg : Bool} {whole tail : List Char} (hwhole : IsWholePart whole)
    (htail : IsTail tail) : ∃ x, Reads D 1
      (((if neg then ['-'] else []) ++ whole ++ tail).map Char.toNat) (D.float x) := by
  obtain ⟨d, cs, n₁, hd, rfl, hgrows, hn₁⟩ := Numeral.exists_grows_wholePart (D := D) hwhole neg
  obtain ⟨n', htail, hn'⟩ := Numeral.exists_grows_tail (D := D) hn₁ htail
  obtain ⟨x, hx⟩ := Numeral.exists_value_eq (D := D) hn'
  refine ⟨x, ?_⟩
  intro stack f hs hf
  have hroom : stack.length < D.depthLimit := hs
  have hrest : feed D ⟨stack, .number (.ofDigit neg d)⟩ ((cs ++ tail).map Char.toNat) =
      .ok ⟨stack, .number n'⟩ := hgrows.append htail stack
  refine ⟨_, ?_, .number n' hx⟩
  match neg with
  | false => exact (feed_cons (step?_digit hf hroom hd) _).trans hrest
  | true =>
    have hminus : State.step? D ⟨stack, f⟩ '-'.toNat = some ⟨stack, .number .ofMinus⟩ := by
      rw [step?_start hf (m := .minus) rfl (by decide) (by decide), State.start?,
        if_pos (admits_of_lt hroom _)]
    exact (feed_cons hminus _).trans ((feed_cons (step?_ofMinus hd) _).trans hrest)

end Json

/-! ## Digits of floats -/

namespace Shortest

theorem low_span_pos {m : Nat} (hm : m ≠ 0) (q : Int) : 0 < (span m q).low := by
  have hlow : 0 < if m = Nat.pow 2 52 ∧ q ≠ -1074 then 4 * m - 1 else 4 * m - 2 := by
    split_ifs <;> omega
  unfold span
  refine Nat.mul_pos hlow ?_
  split_ifs
  · exact Nat.pow_pos (by decide)
  · exact Nat.one_pos

theorem contains_zero {s : Span} (hs : 0 < s.low) {scale : Nat} (hscale : 0 < scale) :
    s.contains 0 scale = false := by
  have hlow : 0 < s.low * scale := Nat.mul_pos hs hscale
  unfold Span.contains
  simp only [Nat.zero_mul]
  split_ifs
  · simp only [Bool.and_eq_false_iff, decide_eq_false_iff_not]
    omega
  · simp only [Bool.and_eq_false_iff, decide_eq_false_iff_not]
    omega

theorem digits_of_onGrid {s : Span} (hs : 0 < s.low) {first : Int} {n : Nat} {d : Decimal}
    (h : onGrid s first n = some d) : d.digits ≠ 0 := by
  unfold onGrid at h
  extract_lets power at h
  revert h
  generalize hparts : (if 0 ≤ power then (s.value * Nat.pow 10 power.toNat, s.den, Nat.pow 10 power.toNat, 1)
      else (s.value, s.den * Nat.pow 10 (-power).toNat, 1, Nat.pow 10 (-power).toNat)) = parts
  obtain ⟨num, den, scale, shrink⟩ := parts
  have hscale : 0 < scale := by
    split_ifs at hparts
    · cases hparts
      exact Nat.pow_pos (by decide)
    · cases hparts
      exact Nat.one_pos
  have hbelow : s.contains (num / den * shrink) scale = true → num / den ≠ 0 := by
    intro hreads hzero
    rw [hzero, Nat.zero_mul, contains_zero hs hscale] at hreads
    cases hreads
  dsimp only
  intro h
  split at h
  · rename_i hreads _
    cases h
    dsimp only
    split_ifs
    · exact hbelow hreads
    · exact Nat.succ_ne_zero _
  · rename_i hreads _
    cases h
    exact hbelow hreads
  · cases h
    exact Nat.succ_ne_zero _
  · cases h

theorem digits_decimal_ne_zero {m : Nat} (hm : m ≠ 0) (q : Int) : (decimal m q).digits ≠ 0 := by
  unfold decimal
  extract_lets s first
  match hfound : (List.range 17).findSome? fun i => onGrid s first (i + 1) with
  | none => exact hm
  | some d =>
    obtain ⟨i, -, hi⟩ := List.exists_of_findSome?_eq_some hfound
    exact digits_of_onGrid (low_span_pos hm q) hi

end Shortest

namespace FloatStyle

open Json

theorem toDigits_head {n : Nat} (hn : n ≠ 0) : ∃ c cs, Nat.toDigits 10 n = c :: cs ∧ c ≠ '0' := by
  induction n using Nat.strong_induction_on with
  | _ n ih =>
    by_cases h : n < 10
    · refine ⟨_, [], Nat.toDigits_of_lt_base h, ?_⟩
      have hpos : 1 ≤ n := Nat.one_le_iff_ne_zero.mpr hn
      interval_cases n <;> decide
    · obtain ⟨c, cs, hcs, hc⟩ := ih (n / 10) (by omega) (by omega)
      refine ⟨c, cs ++ [(n % 10).digitChar], ?_, hc⟩
      rw [Nat.toDigits_of_base_le (by decide) (by omega), hcs, List.cons_append]

theorem isDigits_toDigits (n : Nat) : IsDigits (Nat.toDigits 10 n) :=
  ⟨Nat.toDigits_ne_nil, fun _ hc => Nat.isDigit_of_mem_toDigits (by decide) (by decide) hc⟩

theorem trimZeros_cons {c : Char} (hc : c ≠ '0') (cs : List Char) :
    ∃ rest, trimZeros (c :: cs) = c :: rest ∧ rest <+: cs := by
  have hstart := List.rdropWhile_prefix (· == '0') (c :: cs)
  have hkept : List.rdropWhile (· == '0') (c :: cs) ≠ [] := by
    intro hnil
    have := List.rdropWhile_eq_nil_iff.mp hnil c List.mem_cons_self
    exact hc (eq_of_beq this)
  obtain ⟨k, rest, hrest⟩ := List.exists_cons_of_ne_nil hkept
  rw [hrest, List.cons_prefix_cons] at hstart
  obtain ⟨rfl, hstart⟩ := hstart
  refine ⟨rest, ?_, hstart⟩
  unfold List.rdropWhile at hrest
  rw [trimZeros, hrest]

theorem exists_significant {m : Nat} (hm : m ≠ 0) (q : Int) :
    ∃ c cs, trimZeros (decimalDigits (Shortest.decimal m q).digits) = c :: cs ∧ c ≠ '0' ∧
      ∀ d ∈ c :: cs, d.isDigit := by
  obtain ⟨c, cs, hcs, hc⟩ := toDigits_head (Shortest.digits_decimal_ne_zero hm q)
  obtain ⟨-, hdigits⟩ := isDigits_toDigits (Shortest.decimal m q).digits
  obtain ⟨rest, hrest, hstart⟩ := trimZeros_cons hc cs
  refine ⟨c, rest, by rw [decimalDigits, hcs, hrest], hc, ?_⟩
  rw [hcs] at hdigits
  exact fun d hd => hdigits d (List.mem_cons.mpr ((List.mem_cons.mp hd).imp_right (hstart.subset ·)))

theorem isDigit_replicate (n : Nat) : ∀ c ∈ List.replicate n '0', c.isDigit := by
  intro c hc
  rw [(List.mem_replicate.mp hc).2]
  rfl

section Parts

variable {c : Char} {cs : List Char} (hc : c ≠ '0') (hcs : ∀ d ∈ c :: cs, d.isDigit) {first : Int}

include hc hcs

theorem exists_parts_positional (hfirst : first.toNat + 1 < maxDigits) :
    ∃ whole tail, positional (c :: cs) first = whole ++ tail ∧ IsWholePart whole ∧ IsTail tail := by
  unfold positional
  split_ifs with hneg
  · refine ⟨['0'], _, rfl, .zero, .fraction ⟨by simp, ?_⟩⟩
    exact List.forall_mem_append.mpr ⟨isDigit_replicate _, hcs⟩
  · extract_lets n whole
    refine ⟨whole, _, rfl, ?_, .fraction ?_⟩
    · -- the first digit stands in front, and those that are missing are zeros
      have hwhole : whole = c :: (cs.take first.toNat ++ List.replicate (n - (cs.length + 1)) '0') := rfl
      obtain ⟨hdigit, hrest⟩ := List.forall_mem_cons.mp hcs
      rw [hwhole]
      refine .digits hdigit hc ?_ ?_
      · exact List.forall_mem_append.mpr
          ⟨fun d hd => hrest d (List.mem_of_mem_take hd), isDigit_replicate _⟩
      · rw [List.length_append, List.length_take, List.length_replicate]
        omega
    · split_ifs with hlength
      · exact ⟨List.cons_ne_nil _ _, List.forall_mem_singleton.mpr rfl⟩
      · refine ⟨?_, fun d hd => hcs d (List.mem_of_mem_drop hd)⟩
        rw [Ne, List.drop_eq_nil_iff]
        exact hlength

theorem exists_parts_exponential (style : FloatStyle) :
    ∃ whole tail, exponential style (c :: cs) first = whole ++ tail ∧ IsWholePart whole ∧ IsTail tail := by
  obtain ⟨hdigit, hrest⟩ := List.forall_mem_cons.mp hcs
  have hwhole : IsWholePart [c] := .digits hdigit hc (List.forall_mem_nil _) (by decide)
  have hsign : (if first < 0 then '-' else '+') = '+' ∨ (if first < 0 then '-' else '+') = '-' := by
    split_ifs
    · exact .inr rfl
    · exact .inl rfl
  have hexponent : IsDigits (List.replicate (style.exponentWidth - (decimalDigits first.natAbs).length) '0' ++
      decimalDigits first.natAbs) := by
    obtain ⟨hne, hsize⟩ := isDigits_toDigits first.natAbs
    exact ⟨List.append_ne_nil_of_right_ne_nil _ hne, List.forall_mem_append.mpr ⟨isDigit_replicate _, hsize⟩⟩
  match cs with
  | [] => exact ⟨[c], _, rfl, hwhole, .exponent hsign hexponent⟩
  | d :: ds => exact ⟨[c], _, rfl, hwhole, .both ⟨List.cons_ne_nil _ _, hrest⟩ hsign hexponent⟩

end Parts

/-- The text of a positive float has a whole part and a tail. -/
theorem exists_parts_magnitudeChars {m : Nat} (hm : m ≠ 0) (q : Int) :
    ∃ whole tail, json.magnitudeChars m q = whole ++ tail ∧ IsWholePart whole ∧ IsTail tail := by
  obtain ⟨c, cs, hdigits, hc, hcs⟩ := exists_significant hm q
  unfold magnitudeChars
  extract_lets d all first ds
  have hds : ds = c :: cs := hdigits
  rw [hds]
  split_ifs with hfirst
  · refine exists_parts_positional hc hcs ?_
    have hgreatest : first ≤ 15 := hfirst.2
    unfold maxDigits
    omega
  · exact exists_parts_exponential hc hcs json

/-- The text of a finite float has a whole part and a tail, after a sign. -/
theorem exists_parts {x : Float} (hx : Binary64.isFinite x = true) : ∃ neg whole tail,
    json.chars x = (if neg = true then ['-'] else []) ++ whole ++ tail ∧ IsWholePart whole ∧ IsTail tail := by
  unfold Binary64.isFinite at hx
  unfold chars
  split at hx
  · rename_i neg m q hanatomy
    have hbody : ∃ whole tail, (if m = 0 then ['0', '.', '0'] else json.magnitudeChars m q) = whole ++ tail ∧
        IsWholePart whole ∧ IsTail tail := by
      split_ifs with hm
      · exact ⟨['0'], ['.', '0'], rfl, .zero, .fraction ⟨List.cons_ne_nil _ _, List.forall_mem_singleton.mpr rfl⟩⟩
      · exact exists_parts_magnitudeChars hm q
    obtain ⟨whole, tail, hparts, hwhole, htail⟩ := hbody
    refine ⟨neg, whole, tail, ?_, hwhole, htail⟩
    rw [hanatomy]
    dsimp only
    rw [hparts]
    cases neg <;> rfl
  · cases hx

end FloatStyle

namespace Json

/-! ## Reading floats -/

theorem IsDigits.ascii {cs : List Char} (h : IsDigits cs) : ∀ c ∈ cs, c.toNat < 0x80 :=
  fun c hc => ascii_of_isDigit (h.2 c hc)

theorem IsWholePart.ascii {cs : List Char} (h : IsWholePart cs) : ∀ c ∈ cs, c.toNat < 0x80 := by
  obtain _ | ⟨hc, -, hcs, -⟩ := h
  · exact List.forall_mem_singleton.mpr (by decide)
  · exact List.forall_mem_cons.mpr ⟨ascii_of_isDigit hc, fun d hd => ascii_of_isDigit (hcs d hd)⟩

theorem IsTail.ascii {cs : List Char} (h : IsTail cs) : ∀ c ∈ cs, c.toNat < 0x80 := by
  have hexponent : ∀ {sign : Char} {ds : List Char}, sign = '+' ∨ sign = '-' → IsDigits ds →
      ∀ c ∈ 'e' :: sign :: ds, c.toNat < 0x80 := by
    intro sign ds hsign h
    refine List.forall_mem_cons.mpr ⟨by decide, List.forall_mem_cons.mpr ⟨?_, h.ascii⟩⟩
    rcases hsign with rfl | rfl <;> decide
  obtain h | ⟨hsign, h⟩ | ⟨h, hsign, h'⟩ := h
  · exact List.forall_mem_cons.mpr ⟨by decide, h.ascii⟩
  · exact hexponent hsign h
  · exact List.forall_mem_append.mpr
      ⟨List.forall_mem_cons.mpr ⟨by decide, h.ascii⟩, hexponent hsign h'⟩

variable {σ α : Type} {D : Dialect σ α} {name : String → σ} {build : Json → α}

/-- The text of a finite float is read as some float. -/
theorem exists_reads_finite (hD : D.Faithful name build) {x : Float} (hx : Binary64.isFinite x = true) :
    ∃ y, Reads D 1 (D.units (floatChars .asNull x)) (D.float y) := by
  obtain ⟨neg, whole, tail, hchars, hwhole, htail⟩ := FloatStyle.exists_parts hx
  have hfloat : floatChars .asNull x = (if neg = true then ['-'] else []) ++ whole ++ tail := by
    rw [floatChars, if_neg fun h => h.2 hx, hchars]
  have hsign : ∀ c ∈ if neg = true then ['-'] else [], c.toNat < 0x80 := by
    split_ifs
    · exact List.forall_mem_singleton.mpr (by decide)
    · exact List.forall_mem_nil _
  rw [hfloat, units_ascii hD (List.forall_mem_append.mpr
    ⟨List.forall_mem_append.mpr ⟨hsign, hwhole.ascii⟩, htail.ascii⟩)]
  exact exists_reads_number hwhole htail

theorem reads_notFinite (hD : D.Faithful name build) {x : Float} (hx : ¬ Binary64.isFinite x = true) :
    Reads D 1 (D.units (floatChars .asNull x)) D.null := by
  rw [floatChars, if_pos ⟨rfl, hx⟩]
  exact reads_nullChars hD

mutual

/-- The value with `f` in the place of floats. -/
def withFloats (f : Float → Json) : Json → Json
  | .float x => f x
  | .list items => .list (itemsWithFloats f items)
  | .object entries => .object (entriesWithFloats f entries)
  | j => j

def itemsWithFloats (f : Float → Json) : List Json → List Json
  | [] => []
  | j :: rest => withFloats f j :: itemsWithFloats f rest

def entriesWithFloats (f : Float → Json) : List (String × Json) → List (String × Json)
  | [] => []
  | (k, j) :: rest => (k, withFloats f j) :: entriesWithFloats f rest

end

theorem itemsWithFloats_eq_map (f : Float → Json) (items : List Json) :
    itemsWithFloats f items = items.map (withFloats f) := by
  induction items with
  | nil => rfl
  | cons j rest ih => rw [itemsWithFloats, ih, List.map_cons]

theorem entriesWithFloats_eq_map (f : Float → Json) (entries : List (String × Json)) :
    entriesWithFloats f entries = entries.map fun e => (e.1, withFloats f e.2) := by
  induction entries with
  | nil => rfl
  | cons e rest ih => rw [entriesWithFloats, ih, List.map_cons]

theorem keys_entriesWithFloats (f : Float → Json) (entries : List (String × Json)) :
    Entries.keys (entriesWithFloats f entries) = Entries.keys entries := by
  simp [entriesWithFloats_eq_map, Entries.keys, Function.comp_def]

mutual

theorem everywhere_withFloats {f : Float → Json} (hf : ∀ x, (f x).Everywhere HasDistinctKeys) {j : Json}
    (h : j.Everywhere HasDistinctKeys) :
    (j.withFloats f).Everywhere HasDistinctKeys := by
  cases j with
  | null | bool _ | int _ | str _ => trivial
  | float x => exact hf x
  | list items => exact ⟨trivial, everywhere_itemsWithFloats hf h.2⟩
  | object entries =>
    have hkeys : (Entries.keys entries).Nodup := h.1
    rw [← keys_entriesWithFloats f] at hkeys
    exact ⟨hkeys, everywhere_entriesWithFloats hf h.2⟩

theorem everywhere_itemsWithFloats {f : Float → Json} (hf : ∀ x, (f x).Everywhere HasDistinctKeys)
    {items : List Json} (h : EverywhereItems HasDistinctKeys items) :
    EverywhereItems HasDistinctKeys (itemsWithFloats f items) := by
  cases items with
  | nil => trivial
  | cons j rest => exact ⟨everywhere_withFloats hf h.1, everywhere_itemsWithFloats hf h.2⟩

theorem everywhere_entriesWithFloats {f : Float → Json} (hf : ∀ x, (f x).Everywhere HasDistinctKeys)
    {entries : List (String × Json)}
    (h : EverywhereEntries HasDistinctKeys entries) :
    EverywhereEntries HasDistinctKeys (entriesWithFloats f entries) := by
  cases entries with
  | nil => trivial
  | cons e rest => exact ⟨everywhere_withFloats hf h.1, everywhere_entriesWithFloats hf h.2⟩

end

/-- What becomes of floats on their way through text: numbers come back as floats, and what is no number as
null. -/
def CarriesFloats (f : Float → Json) : Prop :=
  ∀ x, if Binary64.isFinite x = true then ∃ y, f x = .float y else f x = .null

theorem CarriesFloats.joined_withFloats {f : Float → Json} (hf : CarriesFloats f) {j : Json}
    (h : j.Everywhere HasDistinctKeys) : (j.withFloats f).joined = j.withFloats f := by
  refine joined_of_hasDistinctKeys (everywhere_withFloats (fun x => ?_) h)
  have hx := hf x
  split_ifs at hx
  · obtain ⟨y, hy⟩ := hx
    rw [hy]
    trivial
  · rw [hx]
    trivial

variable [Readers]

/-- The strict reader may read floats as it will. -/
theorem strict_faithful_withFloats (f : Float → Json) : strict.Faithful id (withFloats f) where
  spell_ascii := strict_faithful.spell_ascii
  eq_or_le_of_mem_spell := strict_faithful.eq_or_le_of_mem_spell
  complete_units := strict_faithful.complete_units
  name_inj := strict_faithful.name_inj
  null := rfl
  bool _ := rfl
  int _ := rfl
  text _ := rfl
  list items := congrArg Json.list (itemsWithFloats_eq_map f items).symm
  object es hkeys := by
    have hes : (es.map fun e => (id e.1, withFloats f e.2)) = entriesWithFloats f es :=
      (entriesWithFloats_eq_map f es).symm
    rw [hes]
    exact strict_object (keys_entriesWithFloats f es ▸ hkeys)

/-- The strict reader gives back a value that is not too deep from its compact text, up to floats. -/
theorem exists_readText_compact : ∃ f, CarriesFloats f ∧ ∀ j : Json, j.Everywhere IsOrderly →
    j.depth ≤ strict.depthLimit → readText (j.compact .asNull) = .ok (j.withFloats f) := by
  have hread : ∀ x, ∃ v, Reads strict 1 (strict.units (floatChars .asNull x)) v ∧
      if Binary64.isFinite x = true then ∃ y, v = .float y else v = .null := by
    intro x
    split_ifs with hx
    · obtain ⟨y, hy⟩ := exists_reads_finite strict_faithful hx
      exact ⟨_, hy, y, rfl⟩
    · exact ⟨_, reads_notFinite strict_faithful hx, rfl⟩
  choose f hreads hcarries using hread
  refine ⟨f, hcarries, fun j hj hdepth => ?_⟩
  have hparse : parse strict (Utf8.encode (compactChars .asNull j)) = .ok (j.withFloats f) :=
    (reads_compactWhere (strict_faithful_withFloats f) .asNull (fun _ => strict_takes) (fun _ h => h)
      (fun x _ => hreads x) j hj).parse hdepth
  rw [readText, read, compact, String.toList_ofList, hparse]

end Json

end RemoteSigner
