import Mathlib
import RemoteSigner.Json.Printer
import RemoteSigner.Proofs.Json.Everywhere

/-!
# Reading what was written

A reader gives back the value whose text it gets. `Reads D room us v` says that the units `us` are read as
`v` wherever a value may start, if `room` more values may stand inside one another there. The end of a
number shows only in the unit after it, so what holds after `us` is `Holds`: the value has been delivered,
or the number is still open. `reads_compact` is the main statement, by induction on the value; lists and
objects are read item by item with any blanks between them (`feed_items`, `feed_entries`).
-/

namespace RemoteSigner.Json

variable {σ α : Type}

/-- The units of characters. -/
def Dialect.units (D : Dialect σ α) (cs : List Char) : List Nat := cs.flatMap fun c => D.spell c.toNat

/-- A dialect that reads strings as `name` and values as `build` say. -/
structure Dialect.Faithful (D : Dialect σ α) (name : String → σ) (build : Json → α) : Prop where
  spell_ascii : ∀ n < 0x80, D.spell n = [n]
  eq_or_le_of_mem_spell : ∀ n, ∀ u ∈ D.spell n, u = n ∨ 0x80 ≤ u
  complete_units : ∀ s : String, D.complete (D.units s.toList) = .ok (name s)
  name_inj : Function.Injective name
  null : D.null = build .null
  bool : ∀ b, D.bool b = build (.bool b)
  int : ∀ n, D.int n = build (.int n)
  text : ∀ s, D.text (name s) = build (.str s)
  list : ∀ items, D.list (items.map build) = build (.list items)
  object : ∀ es : List (String × Json), (Entries.keys es).Nodup →
    D.object (es.map fun e => (name e.1, build e.2)) = build (.object es)

section Units

variable {D : Dialect σ α} {name : String → σ} {build : Json → α}

@[simp] theorem units_nil : D.units [] = [] := rfl

@[simp] theorem units_append (cs ds : List Char) : D.units (cs ++ ds) = D.units cs ++ D.units ds := by
  simp [Dialect.units]

theorem units_cons (c : Char) (cs : List Char) :
    D.units (c :: cs) = D.spell c.toNat ++ D.units cs := rfl

theorem units_ascii (hD : D.Faithful name build) {cs : List Char} (h : ∀ c ∈ cs, c.toNat < 0x80) :
    D.units cs = cs.map Char.toNat := by
  induction cs with
  | nil => rfl
  | cons c cs ih =>
    rw [units_cons, hD.spell_ascii _ (h c (by simp)), ih fun d hd => h d (by simp [hd])]
    rfl

theorem units_cons_ascii (hD : D.Faithful name build) {c : Char} (h : c.toNat < 0x80)
    (cs : List Char) : D.units (c :: cs) = c.toNat :: D.units cs := by
  rw [units_cons, hD.spell_ascii _ h, List.singleton_append]

end Units

variable {D : Dialect σ α} {name : String → σ} {build : Json → α}

/-! ## Runs of the reader -/

theorem feed_cons {s t : State σ α} {u : Nat} (h : s.step? D u = some t) (us : List Nat) :
    feed D s (u :: us) = feed D t us := by
  rw [feed, h]

theorem feed_one {s t : State σ α} {u : Nat} (h : s.step? D u = some t) :
    feed D s [u] = .ok t := feed_cons h []

theorem feed_trans {s t : State σ α} {us vs : List Nat} {r : Except (Stuck σ α) (State σ α)}
    (h : feed D s us = .ok t) (h' : feed D t vs = r) : feed D s (us ++ vs) = r := by
  rw [feed_append vs h, h']

/-- Where a value may start. -/
inductive TakesValue : Focus σ α → Prop
  | value : TakesValue .value
  | firstItem : TakesValue .firstItem
  | nextItem : TakesValue .nextItem

/-- Wherever a value may start, its first unit has the same effect. -/
theorem step?_start {f : Focus σ α} (hf : TakesValue f) {stack : List (Frame σ α)} {u : Nat}
    {m : Mark} (hm : mark u = m) (hb : m ≠ .blank) (hc : m ≠ .closeList) :
    State.step? D ⟨stack, f⟩ u = State.start? D stack m := by
  subst hm
  cases hf <;> simp only [State.step?, if_neg hb, if_neg hc]

theorem admits_of_lt {stack : List (Frame σ α)} (h : stack.length < D.depthLimit) (m : Mark) :
    State.admits D stack m = true := by
  simp [State.admits, State.hasRoom, h]

/-! ## The end of a value -/

/-- What may follow a value inside a text. -/
inductive Mark.Ends : Mark → Prop
  | blank : Ends .blank
  | comma : Ends .comma
  | closeList : Ends .closeList
  | closeObject : Ends .closeObject

/-- The value `v` has been read in the open containers; a number may be waiting for its end. -/
inductive Holds (D : Dialect σ α) (v : α) (stack : List (Frame σ α)) : State σ α → Prop
  | delivered : Holds D v stack (State.deliver v stack)
  | number (n : Numeral) (hn : n.value? D = some v) : Holds D v stack ⟨stack, .number n⟩

theorem push_ended {n : Numeral} {v : α} (hn : n.value? D = some v) {m : Mark} (hm : m.Ends) :
    n.push m = .ended := by
  obtain ⟨neg, phase, ds, k, l, eneg, e⟩ := n
  cases phase with
  | zero | whole | fraction | exponentDigits => cases hm <;> rfl
  | sign | point | exponent | exponentSign => cases hn

theorem deliver_step? (v : α) (stack : List (Frame σ α)) (u : Nat) :
    (State.deliver v stack).step? D u = (State.deliver v stack).follow? D (mark u) := by
  rcases stack with _ | ⟨_ | _ | _, _⟩ <;> rfl

theorem Holds.step? {v : α} {stack : List (Frame σ α)} {t : State σ α} (h : Holds D v stack t)
    {u : Nat} (hm : (mark u).Ends) :
    t.step? D u = (State.deliver v stack).follow? D (mark u) := by
  cases h with
  | delivered => exact deliver_step? v stack u
  | number n hn =>
    simp only [State.step?, push_ended hn hm, hn]
    rfl

theorem Holds.value? {v : α} {t : State σ α} (h : Holds D v [] t) : t.value? D = some v := by
  cases h with
  | delivered => rfl
  | number n hn => exact hn

/-- The units are read as the value wherever one may start and `room` values may stand inside one
another. -/
def Reads (D : Dialect σ α) (room : Nat) (us : List Nat) (v : α) : Prop :=
  ∀ (stack : List (Frame σ α)) (f : Focus σ α), stack.length + room ≤ D.depthLimit → TakesValue f →
    ∃ t, feed D ⟨stack, f⟩ us = .ok t ∧ Holds D v stack t

theorem Reads.mono {room room' : Nat} {us : List Nat} {v : α} (h : Reads D room us v)
    (hr : room ≤ room') : Reads D room' us v :=
  fun stack f hs hf => h stack f (by omega) hf

/-! ## Words and numbers -/

theorem feed_word {stack : List (Frame σ α)} {v : α} (spelt : Nat) (c : Char) (cs : List Char) :
    feed D ⟨stack, .word spelt (c :: cs) v⟩ ((c :: cs).map Char.toNat) =
      .ok (State.deliver v stack) := by
  induction cs generalizing spelt c with
  | nil =>
    refine feed_one ?_
    simp [State.step?]
  | cons d ds ih =>
    rw [List.map_cons, feed_cons (t := ⟨stack, .word (spelt + 1) (d :: ds) v⟩)]
    · exact ih (spelt + 1) d
    · simp [State.step?]

theorem reads_word {c d : Char} {cs : List Char} {v : α} (hm : mark c.toNat = .letter c)
    (hw : State.wordOf? D c = some (d :: cs, v)) :
    Reads D 1 ((c :: d :: cs).map Char.toNat) v := by
  intro stack f hs hf
  refine ⟨_, ?_, .delivered⟩
  rw [List.map_cons, feed_cons (t := ⟨stack, .word 1 (d :: cs) v⟩)]
  · exact feed_word 1 d cs
  · rw [step?_start hf hm (by simp) (by simp), State.start?, if_pos (admits_of_lt (by omega) _)]
    simp [hw]

theorem mark_digitChar {d : Nat} (h : d < 10) : mark d.digitChar.toNat = .digit d := by
  interval_cases d <;> rfl

theorem fits_of_le {n : Numeral} (h : n.places D ≤ maxDigits) : n.fits D = true := by
  simp [Numeral.fits, h]

/-- The first digit fits, after a sign too. -/
theorem places_ofDigit_le (neg : Bool) (d : Nat) : (Numeral.ofDigit neg d).places D ≤ maxDigits := by
  have hsign : (D.countsSign && neg).toNat ≤ 1 := Bool.toNat_le _
  simp only [Numeral.places, Numeral.ofDigit, maxDigits]
  omega

/-- The integer has few enough digits for the dialect, with its sign if that counts. -/
def Dialect.Takes (D : Dialect σ α) (n : Int) : Prop :=
  (Nat.toDigits 10 n.natAbs).length + (D.countsSign && decide (n < 0)).toNat ≤ maxDigits

theorem push_whole (neg : Bool) (n k d : Nat) :
    Numeral.push ⟨neg, .whole, n, k, 0, false, 0⟩ (.digit d) =
      .more ⟨neg, .whole, n * 10 + d, k + 1, 0, false, 0⟩ := rfl

/-- The digits of a number that is not zero, from wherever its first digit opens the number. -/
theorem feed_digits {stack : List (Frame σ α)} {s : State σ α} {neg : Bool}
    (hs : ∀ d, 0 < d → d < 10 →
      s.step? D d.digitChar.toNat = some ⟨stack, .number (.ofDigit neg d)⟩)
    {n : Nat} (hn : 0 < n)
    (hl : (Nat.toDigits 10 n).length + (D.countsSign && neg).toNat ≤ maxDigits) :
    feed D s ((Nat.toDigits 10 n).map Char.toNat) =
      .ok ⟨stack, .number ⟨neg, .whole, n, (Nat.toDigits 10 n).length, 0, false, 0⟩⟩ := by
  induction n using Nat.strong_induction_on with
  | _ n ih =>
    by_cases h : n < 10
    · rw [Nat.toDigits_of_lt_base h]
      refine feed_one ((hs n hn h).trans ?_)
      simp [Numeral.ofDigit, hn.ne']
    · -- all digits but the last, and then the last
      rw [Nat.toDigits_of_base_le (by decide) (by omega)] at hl ⊢
      rw [List.length_append, List.length_singleton] at hl ⊢
      rw [List.map_append]
      have hl' : (Nat.toDigits 10 (n / 10)).length + (D.countsSign && neg).toNat ≤ maxDigits := by omega
      refine feed_trans (ih (n / 10) (by omega) (by omega) hl') (feed_one ?_)
      have hd : n / 10 * 10 + n % 10 = n := by omega
      have hfit : Numeral.fits D ⟨neg, .whole, n, (Nat.toDigits 10 (n / 10)).length + 1, 0, false, 0⟩ :=
        fits_of_le hl
      simp only [State.step?, mark_digitChar (Nat.mod_lt n (by decide)), push_whole, hd]
      rw [if_pos hfit]

theorem step?_ofMinus {stack : List (Frame σ α)} {d : Nat} (h : d < 10) :
    State.step? D ⟨stack, .number .ofMinus⟩ d.digitChar.toNat =
      some ⟨stack, .number (.ofDigit true d)⟩ := by
  have hfit : (Numeral.ofDigit true d).fits D := fits_of_le (places_ofDigit_le true d)
  have hpush : Numeral.ofMinus.push (.digit d) = .more (.ofDigit true d) := rfl
  simp only [State.step?, mark_digitChar h, hpush]
  rw [if_pos hfit]

theorem start?_digit {stack : List (Frame σ α)} (h : stack.length < D.depthLimit) (d : Nat) :
    State.start? D stack (.digit d) = some ⟨stack, .number (.ofDigit false d)⟩ := by
  rw [State.start?, if_pos (admits_of_lt h _)]

theorem step?_digit {stack : List (Frame σ α)} {f : Focus σ α} (hf : TakesValue f)
    (h : stack.length < D.depthLimit) {d : Nat} (hd : d < 10) :
    State.step? D ⟨stack, f⟩ d.digitChar.toNat = some ⟨stack, .number (.ofDigit false d)⟩ := by
  rw [step?_start hf (mark_digitChar hd) (by simp) (by simp), start?_digit h]

theorem value?_whole {neg : Bool} {n k : Nat} (hk : k + (D.countsSign && neg).toNat ≤ maxDigits) :
    Numeral.value? D ⟨neg, .whole, n, k, 0, false, 0⟩ =
      some (D.int (if neg then -(n : Int) else n)) := by
  simp [Numeral.value?, Numeral.isOversized, Numeral.places, hk]

theorem value?_zero : Numeral.value? D (.ofDigit false 0) = some (D.int 0) := by
  simp [Numeral.value?, Numeral.isOversized, Numeral.places, Numeral.ofDigit, maxDigits]

/-- An integer of few digits is read as itself. -/
theorem reads_int {n : Int} (h : D.Takes n) :
    Reads D 1 ((intChars n).map Char.toNat) (D.int n) := by
  intro stack f hs hf
  have hroom : stack.length < D.depthLimit := by omega
  unfold Dialect.Takes at h
  unfold intChars
  split_ifs with hn
  · rw [decide_eq_true hn] at h
    refine ⟨⟨stack, .number ⟨true, .whole, n.natAbs, _, 0, false, 0⟩⟩, ?_,
      .number _ ((value?_whole h).trans ?_)⟩
    · rw [List.map_cons, feed_cons (t := ⟨stack, .number .ofMinus⟩)]
      · exact feed_digits (fun d _ hd => step?_ofMinus hd) (by omega) h
      · rw [step?_start hf rfl (by decide) (by decide), show mark '-'.toNat = .minus from rfl,
          State.start?, if_pos (admits_of_lt hroom _)]
    · rw [if_pos rfl, show -((n.natAbs : Nat) : Int) = n by omega]
  · rw [decide_eq_false hn] at h
    by_cases h0 : n = 0
    · -- a single zero is no digit that others could follow
      subst h0
      exact ⟨_, feed_one (step?_digit (d := 0) hf hroom (by decide)), .number _ value?_zero⟩
    · refine ⟨_, feed_digits (fun d _ hd => step?_digit hf hroom hd) (by omega) h,
        .number _ ((value?_whole h).trans ?_)⟩
      rw [if_neg (by simp), show ((n.natAbs : Nat) : Int) = n by omega]

/-! ## Strings -/

/-- Between two characters of a string: the units so far stand for `bs`, last first. -/
inductive Between (bs : List Nat) : Quotation → Prop
  | mk (size : Nat) (afterHex : Bool) : Between bs ⟨bs, size, none, afterHex, .plain⟩

theorem feed_push {stack : List (Frame σ α)} {k : Bool} {q q' : Quotation} {u : Nat}
    (hu : q.phase ≠ .plain ∨ u ≠ 34) (hq : q.push? D u = some q') (us : List Nat) :
    feed D ⟨stack, .quoted k q⟩ (u :: us) = feed D ⟨stack, .quoted k q'⟩ us := by
  refine feed_cons ?_ us
  simp only [State.step?]
  rw [if_neg (fun h => hu.elim (fun hp => hp h.1) fun hne => hne h.2), hq]
  rfl

theorem push?_backslash (bs : List Nat) (size : Nat) (afterHex : Bool) :
    Quotation.push? D ⟨bs, size, none, afterHex, .plain⟩ 92 =
      some ⟨bs, size + 1, none, false, .escape⟩ := rfl

theorem push?_openHex (bs : List Nat) (size : Nat) (afterHex : Bool) :
    Quotation.push? D ⟨bs, size, none, afterHex, .escape⟩ 117 =
      some ⟨bs, size + 1, none, false, .hex []⟩ := rfl

theorem push?_plain {bs : List Nat} {size u : Nat} {afterHex : Bool} (hu : 0x20 ≤ u) (h : u ≠ 92) :
    Quotation.push? D ⟨bs, size, none, afterHex, .plain⟩ u =
      some ⟨u :: bs, size + 1, none, false, .plain⟩ := by
  simp only [Quotation.push?]
  rw [if_neg h, if_neg (by omega)]
  rfl

theorem feed_plain {stack : List (Frame σ α)} {k : Bool} {q : Quotation} {bs us : List Nat}
    (hq : Between bs q) (hus : ∀ u ∈ us, 0x20 ≤ u ∧ u ≠ 34 ∧ u ≠ 92) :
    ∃ q', Between (us.reverse ++ bs) q' ∧
      feed D ⟨stack, .quoted k q⟩ us = .ok ⟨stack, .quoted k q'⟩ := by
  induction us generalizing q bs with
  | nil => exact ⟨q, hq, rfl⟩
  | cons u us ih =>
    obtain ⟨size, afterHex⟩ := hq
    obtain ⟨hlow, hquote, hslash⟩ := hus u (by simp)
    have hnext : Between (u :: bs) ⟨u :: bs, size + 1, none, false, .plain⟩ := .mk _ _
    obtain ⟨q', hq', hf⟩ := ih hnext fun v hv => hus v (by simp [hv])
    refine ⟨q', by simpa using hq', ?_⟩
    rw [feed_push (.inr hquote) (push?_plain hlow hslash), hf]

theorem feed_short {stack : List (Frame σ α)} {k : Bool} {q : Quotation} {bs : List Nat}
    (hq : Between bs q) {u code : Nat} (hu : u ≠ 117)
    (hs : Quotation.shortEscape? u = some code) :
    ∃ q', Between ((D.spell code).reverse ++ bs) q' ∧
      feed D ⟨stack, .quoted k q⟩ [92, u] = .ok ⟨stack, .quoted k q'⟩ := by
  obtain ⟨size, afterHex⟩ := hq
  refine ⟨_, .mk (size + 2) false, ?_⟩
  rw [feed_push (.inr (by decide)) (push?_backslash ..), feed_push (.inl (by simp))]
  · rfl
  · simp only [Quotation.push?]
    rw [if_neg hu, hs]
    rfl

theorem hexDigit?_digitChar {d : Nat} (h : d < 16) : hexDigit? d.digitChar.toNat = some d := by
  interval_cases d <;> rfl

theorem hexPadded_control {n : Nat} (h : n < 32) :
    hexPadded 4 n = ['0', '0', (n / 16).digitChar, (n % 16).digitChar] := by
  interval_cases n <;> rfl

theorem ascii_hexPadded {n : Nat} (h : n < 32) :
    ∀ c ∈ '\\' :: 'u' :: hexPadded 4 n, c.toNat < 0x80 := by
  have hdigit {d : Nat} (hd : d < 16) : d.digitChar.toNat < 0x80 := by
    interval_cases d <;> decide
  intro c hc
  rw [hexPadded_control h] at hc
  simp only [List.mem_cons, List.not_mem_nil, or_false] at hc
  rcases hc with rfl | rfl | rfl | rfl | rfl | rfl
  · decide
  · decide
  · decide
  · decide
  · exact hdigit (by omega)
  · exact hdigit (by omega)

theorem push?_hex {bs ds : List Nat} {size d : Nat} {high : Option Nat} {afterHex : Bool}
    (hd : d < 16) (hds : ds.length < 3) {ds' : List Nat} (hds' : ds ++ [d] = ds') :
    Quotation.push? D ⟨bs, size, high, afterHex, .hex ds⟩ d.digitChar.toNat =
      some ⟨bs, size + 1, high, false, .hex ds'⟩ := by
  subst hds'
  simp only [Quotation.push?, hexDigit?_digitChar hd]
  match ds, hds with
  | [], _ | [_], _ | [_, _], _ => rfl

theorem push?_lastHex {bs : List Nat} {size a b c d code : Nat} {afterHex : Bool} (hd : d < 16)
    (hcode : ((a * 16 + b) * 16 + c) * 16 + d = code) (hlow : code < 0xD800) :
    Quotation.push? D ⟨bs, size, none, afterHex, .hex [a, b, c]⟩ d.digitChar.toNat =
      some ⟨(D.spell code).reverse ++ bs, size + 1, none, true, .plain⟩ := by
  have hh : isHighSurrogate code = false := by
    simp only [isHighSurrogate, Bool.and_eq_false_iff, decide_eq_false_iff_not]; omega
  have hl : isLowSurrogate code = false := by
    simp only [isLowSurrogate, Bool.and_eq_false_iff, decide_eq_false_iff_not]; omega
  simp only [Quotation.push?, hexDigit?_digitChar hd, Option.bind_eq_bind, Option.bind_some, hcode,
    Quotation.pushEscaped?, Quotation.pushFresh?, hh, hl]
  rfl

theorem feed_hex {stack : List (Frame σ α)} {k : Bool} {q : Quotation} {bs : List Nat}
    (hq : Between bs q) {n : Nat} (hn : n < 32) :
    ∃ q', Between ((D.spell n).reverse ++ bs) q' ∧
      feed D ⟨stack, .quoted k q⟩ (92 :: 117 :: (hexPadded 4 n).map Char.toNat) =
        .ok ⟨stack, .quoted k q'⟩ := by
  obtain ⟨size, afterHex⟩ := hq
  refine ⟨_, .mk (size + 6) true, ?_⟩
  have h0 : '0' = Nat.digitChar 0 := rfl
  rw [hexPadded_control hn, h0]
  simp only [List.map_cons, List.map_nil]
  have hthird : Quotation.push? D ⟨bs, size + 4, none, false, .hex [0, 0]⟩
      (n / 16).digitChar.toNat = some ⟨bs, size + 5, none, false, .hex [0, 0, n / 16]⟩ :=
    push?_hex (by omega) (by decide) rfl
  have hfourth : Quotation.push? D ⟨bs, size + 5, none, false, .hex [0, 0, n / 16]⟩
      (n % 16).digitChar.toNat =
        some ⟨(D.spell n).reverse ++ bs, size + 6, none, true, .plain⟩ :=
    push?_lastHex (by omega) (by omega) (by omega)
  rw [feed_push (.inr (by decide)) (push?_backslash ..),
    feed_push (.inl (by simp)) (push?_openHex ..),
    feed_push (.inl (by simp)) (push?_hex (by decide) (by decide) (List.nil_append _)),
    feed_push (.inl (by simp)) (push?_hex (by decide) (by decide) List.singleton_append),
    feed_push (.inl (by simp)) hthird, feed_push (.inl (by simp)) hfourth]
  rfl

/-- One written character is read as that character. -/
theorem feed_escape (hD : D.Faithful name build) {stack : List (Frame σ α)} {k : Bool}
    {q : Quotation} {bs : List Nat} (hq : Between bs q) (c : Char) :
    ∃ q', Between ((D.spell c.toNat).reverse ++ bs) q' ∧
      feed D ⟨stack, .quoted k q⟩ (D.units (escape c)) = .ok ⟨stack, .quoted k q'⟩ := by
  have hshort {c' : Char} (hc' : c'.toNat < 0x80) (hu : c'.toNat ≠ 117)
      (hs : Quotation.shortEscape? c'.toNat = some c.toNat) :
      ∃ q', Between ((D.spell c.toNat).reverse ++ bs) q' ∧
        feed D ⟨stack, .quoted k q⟩ (D.units ['\\', c']) = .ok ⟨stack, .quoted k q'⟩ := by
    rw [units_ascii hD (by simpa using hc')]
    exact feed_short hq hu hs
  unfold escape
  split_ifs with h1 h2 h3 h4 h5 h6 h7 h8
  · exact hshort (by decide) (by decide) (by rw [h1]; rfl)
  · exact hshort (by decide) (by decide) (by rw [h2]; rfl)
  · exact hshort (by decide) (by decide) (by rw [h3]; rfl)
  · exact hshort (by decide) (by decide) (by rw [h4]; rfl)
  · exact hshort (by decide) (by decide) (by rw [h5]; rfl)
  · exact hshort (by decide) (by decide) (by rw [h6]; rfl)
  · exact hshort (by decide) (by decide) (by rw [h7]; rfl)
  · -- a control character without a short form
    rw [units_ascii hD (ascii_hexPadded h8)]
    exact feed_hex hq h8
  · -- any other character is its own units
    have hne {d : Char} (h : c ≠ d) : c.toNat ≠ d.toNat := fun he => h (Char.toNat_inj.mp he)
    rw [show D.units [c] = D.spell c.toNat by rw [units_cons, units_nil, List.append_nil]]
    refine feed_plain hq fun u hu => ?_
    rcases hD.eq_or_le_of_mem_spell _ u hu with rfl | hu
    · exact ⟨by omega, hne h1, hne h2⟩
    · omega

/-- A written string is read as itself up to its closing quote. -/
theorem feed_escaped (hD : D.Faithful name build) {stack : List (Frame σ α)} {k : Bool}
    {q : Quotation} {bs : List Nat} (hq : Between bs q) (cs : List Char) :
    ∃ q', Between ((D.units cs).reverse ++ bs) q' ∧
      feed D ⟨stack, .quoted k q⟩ (D.units (cs.flatMap escape)) = .ok ⟨stack, .quoted k q'⟩ := by
  induction cs generalizing q bs with
  | nil => exact ⟨q, hq, rfl⟩
  | cons c cs ih =>
    obtain ⟨q', hq', hf⟩ := feed_escape hD hq c
    obtain ⟨q'', hq'', hf'⟩ := ih hq'
    refine ⟨q'', by simpa [units_cons] using hq'', ?_⟩
    rw [List.flatMap_cons, units_append]
    exact feed_trans hf hf'

theorem close_of_between (hD : D.Faithful name build) {s : String} {q : Quotation}
    (hq : Between (D.units s.toList).reverse q) : q.close D = some (.ok (name s)) := by
  obtain ⟨size, afterHex⟩ := hq
  have := hD.complete_units s
  simp [Quotation.close, Quotation.settle?, this]

end RemoteSigner.Json
