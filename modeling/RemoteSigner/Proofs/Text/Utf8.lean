import Mathlib
import RemoteSigner.Text.Utf8

/-!
# Reading back what was spelt

`decode_eq_ok`: the strict decoder gives the characters back whose bytes it gets, and refuses all bytes but
these. The bytes of one character are taken one range of code points at a time (`decodeFrom_spell`,
`exists_spell`); the bounds on the second byte are what keeps the ranges apart.
-/

namespace RemoteSigner.Utf8

/-! ## First bytes -/

theorem begin?_one {b : Nat} (h : b < 0x80) : begin? b = some ⟨b, 1, b, 0, 0, 0⟩ := by
  unfold begin?; rw [if_pos h]

theorem begin?_two {b : Nat} (h : 0xC2 ≤ b) (h' : b < 0xE0) :
    begin? b = some ⟨b, 1, b - 0xC0, 1, 0x80, 0xBF⟩ := by
  unfold begin?; rw [if_neg (by omega), if_neg (by omega), if_pos h']

/-- The second byte of three is bounded from below after `E0` and from above after `ED`. -/
theorem begin?_three {b : Nat} (h : 0xE0 ≤ b) (h' : b < 0xF0) :
    begin? b = some ⟨b, 1, b - 0xE0, 2, if b = 0xE0 then 0xA0 else 0x80,
      if b = 0xED then 0x9F else 0xBF⟩ := by
  unfold begin?
  rw [if_neg (by omega), if_neg (by omega), if_neg (by omega)]
  by_cases h0 : b = 0xE0
  · subst h0; rfl
  · by_cases hd : b = 0xED
    · subst hd; rfl
    · rw [if_neg h0, if_neg hd, if_pos h', if_neg h0, if_neg hd]

/-- The second byte of four is bounded from below after `F0` and from above after `F4`. -/
theorem begin?_four {b : Nat} (h : 0xF0 ≤ b) (h' : b ≤ 0xF4) :
    begin? b = some ⟨b, 1, b - 0xF0, 3, if b = 0xF0 then 0x90 else 0x80,
      if b = 0xF4 then 0x8F else 0xBF⟩ := by
  unfold begin?
  rw [if_neg (by omega), if_neg (by omega), if_neg (by omega), if_neg (by omega),
    if_neg (by omega), if_neg (by omega)]
  by_cases h0 : b = 0xF0
  · subst h0; rfl
  · by_cases h4 : b = 0xF4
    · subst h4; rfl
    · rw [if_neg h0, if_pos (by omega), if_neg h0, if_neg h4]

/-! ## One character -/

theorem push?_eq {p : Pending} {b : Nat} (h : p.low ≤ b) (h' : b ≤ p.high) :
    p.push? b = some ⟨p.lead, p.taken + 1, p.value * 64 + (b - 0x80), p.more - 1, 0x80, 0xBF⟩ := by
  unfold Pending.push?; rw [if_pos ⟨h, h'⟩]

theorem decodeFrom_last {start b : Nat} {p : Pending} (hm : p.more = 1) (h : p.low ≤ b)
    (h' : b ≤ p.high) (rest : List Nat) :
    decodeFrom start (some p) (b :: rest) =
      (Char.ofNat (p.value * 64 + (b - 0x80)) :: ·) <$>
        decodeFrom (start + (p.taken + 1)) none rest := by
  rw [decodeFrom, push?_eq h h', hm]
  rfl

theorem decodeFrom_next {start b : Nat} {p : Pending} (hm : 1 < p.more) (h : p.low ≤ b)
    (h' : b ≤ p.high) (rest : List Nat) :
    decodeFrom start (some p) (b :: rest) =
      decodeFrom start
        (some ⟨p.lead, p.taken + 1, p.value * 64 + (b - 0x80), p.more - 1, 0x80, 0xBF⟩) rest := by
  rw [decodeFrom, push?_eq h h']
  simp only
  rw [if_neg (by omega)]

theorem decodeFrom_begin {start b : Nat} {p : Pending} (hb : begin? b = some p) (hm : p.more ≠ 0)
    (rest : List Nat) : decodeFrom start none (b :: rest) = decodeFrom start (some p) rest := by
  rw [decodeFrom, hb]
  simp only
  rw [if_neg hm]

/-- The bytes of a character decode to it, wherever they stand. -/
theorem decodeFrom_spell (c : Char) (start : Nat) (rest : List Nat) :
    decodeFrom start none (spell c.toNat ++ rest) =
      (c :: ·) <$> decodeFrom (start + (spell c.toNat).length) none rest := by
  have hc : c.toNat < 0xD800 ∨ 0xDFFF < c.toNat ∧ c.toNat < 0x110000 := c.valid
  have hback : Char.ofNat c.toNat = c := Char.ofNat_toNat c
  generalize c.toNat = n at hc hback
  unfold spell
  split_ifs with h1 h2 h3
  · rw [List.singleton_append, decodeFrom, begin?_one h1]
    simp only [if_true, hback, List.length_singleton]
  · simp only [List.cons_append, List.nil_append, List.length_cons, List.length_nil]
    rw [decodeFrom_begin (begin?_two (by omega) (by omega)) (by simp),
      decodeFrom_last rfl (by simp only; omega) (by simp only; omega)]
    rw [show (0xC0 + n / 64 - 0xC0) * 64 + (0x80 + n % 64 - 0x80) = n by omega, hback]
  · simp only [List.cons_append, List.nil_append, List.length_cons, List.length_nil]
    rw [decodeFrom_begin (begin?_three (by omega) (by omega)) (by simp),
      decodeFrom_next (by simp) (by simp only; split_ifs <;> omega)
        (by simp only; split_ifs <;> omega),
      decodeFrom_last rfl (by simp only; omega) (by simp only; omega)]
    simp only
    rw [show ((0xE0 + n / 4096 - 0xE0) * 64 + (0x80 + n / 64 % 64 - 0x80)) * 64 +
      (0x80 + n % 64 - 0x80) = n by omega, hback]
  · simp only [List.cons_append, List.nil_append, List.length_cons, List.length_nil]
    rw [decodeFrom_begin (begin?_four (by omega) (by omega)) (by simp),
      decodeFrom_next (by simp) (by simp only; split_ifs <;> omega)
        (by simp only; split_ifs <;> omega),
      decodeFrom_next (by simp) (by simp only; omega) (by simp only; omega),
      decodeFrom_last rfl (by simp only; omega) (by simp only; omega)]
    simp only
    rw [show (((0xF0 + n / 262144 - 0xF0) * 64 + (0x80 + n / 4096 % 64 - 0x80)) * 64 +
      (0x80 + n / 64 % 64 - 0x80)) * 64 + (0x80 + n % 64 - 0x80) = n by omega, hback]

/-! ## Whole texts -/

@[simp] theorem encode_cons (c : Char) (cs : List Char) :
    encode (c :: cs) = spell c.toNat ++ encode cs := rfl

theorem decodeFrom_encode (cs : List Char) (start : Nat) :
    decodeFrom start none (encode cs) = .ok cs := by
  induction cs generalizing start with
  | nil => rfl
  | cons c cs ih =>
    rw [encode_cons, decodeFrom_spell, ih]
    rfl

/-- Decoding gives back the characters that were encoded. -/
theorem decode_encode (cs : List Char) : decode (encode cs) = .ok cs := decodeFrom_encode cs 0

theorem spell_ascii {n : Nat} (h : n < 0x80) : spell n = [n] := by
  unfold spell; rw [if_pos h]

/-- Every byte of a character is at least as large as the character, or no ASCII byte. -/
theorem le_of_mem_spell {n b : Nat} (hb : b ∈ spell n) : b = n ∨ 0x80 ≤ b := by
  unfold spell at hb
  split_ifs at hb
  · simp only [List.mem_singleton] at hb
    exact .inl hb
  all_goals
    simp only [List.mem_cons, List.not_mem_nil, or_false] at hb
    omega

/-! ## What is decoded -/

/-- A first byte stands for itself, or it announces two, three or four bytes. -/
theorem begin?_cases {b : Nat} {p : Pending} (h : begin? b = some p) :
    b < 0x80 ∧ p = ⟨b, 1, b, 0, 0, 0⟩ ∨
    (0xC2 ≤ b ∧ b < 0xE0) ∧ p = ⟨b, 1, b - 0xC0, 1, 0x80, 0xBF⟩ ∨
    (0xE0 ≤ b ∧ b < 0xF0) ∧ p = ⟨b, 1, b - 0xE0, 2, if b = 0xE0 then 0xA0 else 0x80,
      if b = 0xED then 0x9F else 0xBF⟩ ∨
    (0xF0 ≤ b ∧ b ≤ 0xF4) ∧ p = ⟨b, 1, b - 0xF0, 3, if b = 0xF0 then 0x90 else 0x80,
      if b = 0xF4 then 0x8F else 0xBF⟩ := by
  rcases Nat.lt_or_ge b 0x80 with h1 | h1
  · exact .inl ⟨h1, Option.some.inj (h.symm.trans (begin?_one h1))⟩
  rcases Nat.lt_or_ge b 0xC2 with h2 | h2
  · unfold begin? at h
    rw [if_neg (by omega), if_pos h2] at h
    cases h
  rcases Nat.lt_or_ge b 0xE0 with h3 | h3
  · exact .inr (.inl ⟨⟨h2, h3⟩, Option.some.inj (h.symm.trans (begin?_two h2 h3))⟩)
  rcases Nat.lt_or_ge b 0xF0 with h4 | h4
  · exact .inr (.inr (.inl ⟨⟨h3, h4⟩, Option.some.inj (h.symm.trans (begin?_three h3 h4))⟩))
  rcases Nat.lt_or_ge 0xF4 b with h5 | h5
  · unfold begin? at h
    rw [if_neg (by omega), if_neg (by omega), if_neg (by omega), if_neg (by omega),
      if_neg (by omega), if_neg (by omega), if_neg (by omega), if_neg (by omega),
      if_neg (by omega)] at h
    cases h
  · exact .inr (.inr (.inr ⟨⟨h4, h5⟩, Option.some.inj (h.symm.trans (begin?_four h4 h5))⟩))

/-- A pending character goes on with a byte that fits. -/
theorem exists_push? {start : Nat} {p : Pending} {bytes : List Nat} {cs : List Char}
    (h : decodeFrom start (some p) bytes = .ok cs) :
    ∃ b rest, bytes = b :: rest ∧ p.low ≤ b ∧ b ≤ p.high := by
  cases bytes with
  | nil => cases h
  | cons b rest =>
    refine ⟨b, rest, rfl, ?_⟩
    by_contra hfit
    have hpush : p.push? b = none := by
      unfold Pending.push?
      rw [if_neg hfit]
    rw [decodeFrom, hpush] at h
    cases h

theorem spell_two {b b₁ : Nat} (hb : 0xC2 ≤ b ∧ b < 0xE0) (h₁ : 0x80 ≤ b₁ ∧ b₁ ≤ 0xBF) :
    spell ((b - 0xC0) * 64 + (b₁ - 0x80)) = [b, b₁] := by
  unfold spell
  rw [if_neg (by omega), if_pos (by omega)]
  simp only [List.cons.injEq, and_true]
  omega

theorem spell_three {b b₁ b₂ : Nat} (hb : 0xE0 ≤ b ∧ b < 0xF0) (h₁ : 0x80 ≤ b₁ ∧ b₁ ≤ 0xBF)
    (h₂ : 0x80 ≤ b₂ ∧ b₂ ≤ 0xBF) (hmin : b = 0xE0 → 0xA0 ≤ b₁) :
    spell (((b - 0xE0) * 64 + (b₁ - 0x80)) * 64 + (b₂ - 0x80)) = [b, b₁, b₂] := by
  unfold spell
  rw [if_neg (by omega), if_neg (by omega), if_pos (by omega)]
  simp only [List.cons.injEq, and_true]
  omega

theorem spell_four {b b₁ b₂ b₃ : Nat} (hb : 0xF0 ≤ b ∧ b ≤ 0xF4) (h₁ : 0x80 ≤ b₁ ∧ b₁ ≤ 0xBF)
    (h₂ : 0x80 ≤ b₂ ∧ b₂ ≤ 0xBF) (h₃ : 0x80 ≤ b₃ ∧ b₃ ≤ 0xBF) (hmin : b = 0xF0 → 0x90 ≤ b₁) :
    spell ((((b - 0xF0) * 64 + (b₁ - 0x80)) * 64 + (b₂ - 0x80)) * 64 + (b₃ - 0x80)) =
      [b, b₁, b₂, b₃] := by
  unfold spell
  rw [if_neg (by omega), if_neg (by omega), if_neg (by omega)]
  simp only [List.cons.injEq, and_true]
  omega

/-- Bytes that spell a code point start with those of a character. -/
theorem exists_char {n : Nat} (h : n.isValidChar) {spelt : List Nat} (hn : spell n = spelt)
    (rest : List Nat) : ∃ (c : Char) (rest' : List Nat), spelt ++ rest = spell c.toNat ++ rest' := by
  refine ⟨Char.ofNat n, rest, ?_⟩
  rw [Char.toNat_ofNat, if_pos h, hn]

/-- What is decoded starts with the bytes of a character. -/
theorem exists_spell {start b : Nat} {bytes : List Nat} {cs : List Char}
    (h : decodeFrom start none (b :: bytes) = .ok cs) :
    ∃ (c : Char) (rest : List Nat), b :: bytes = spell c.toNat ++ rest := by
  cases hb : begin? b with
  | none =>
    rw [decodeFrom, hb] at h
    cases h
  | some p =>
    rcases begin?_cases hb with ⟨hlt, rfl⟩ | ⟨hrange, rfl⟩ | ⟨hrange, rfl⟩ | ⟨hrange, rfl⟩
    · exact exists_char (.inl (by omega)) (spell_ascii hlt) bytes
    · rw [decodeFrom_begin hb (by simp)] at h
      obtain ⟨b₁, rest, rfl, h₁⟩ := exists_push? h
      simp only at h₁
      exact exists_char (.inl (by omega)) (spell_two hrange h₁) rest
    · rw [decodeFrom_begin hb (by simp)] at h
      obtain ⟨b₁, rest, rfl, hlow, hhigh⟩ := exists_push? h
      rw [decodeFrom_next (by simp) hlow hhigh] at h
      obtain ⟨b₂, rest, rfl, h₂⟩ := exists_push? h
      simp only at hlow hhigh h₂
      have hmin : b = 0xE0 → 0xA0 ≤ b₁ := by grind
      have hmax : b = 0xED → b₁ ≤ 0x9F := by grind
      have h₁ : 0x80 ≤ b₁ ∧ b₁ ≤ 0xBF := by grind
      refine exists_char ?_ (spell_three hrange h₁ h₂ hmin) rest
      unfold Nat.isValidChar
      omega
    · rw [decodeFrom_begin hb (by simp)] at h
      obtain ⟨b₁, rest, rfl, hlow, hhigh⟩ := exists_push? h
      rw [decodeFrom_next (by simp) hlow hhigh] at h
      obtain ⟨b₂, rest, rfl, h₂⟩ := exists_push? h
      rw [decodeFrom_next (by simp) h₂.1 h₂.2] at h
      obtain ⟨b₃, rest, rfl, h₃⟩ := exists_push? h
      simp only at hlow hhigh h₂ h₃
      have hmin : b = 0xF0 → 0x90 ≤ b₁ := by grind
      have hmax : b = 0xF4 → b₁ ≤ 0x8F := by grind
      have h₁ : 0x80 ≤ b₁ ∧ b₁ ≤ 0xBF := by grind
      refine exists_char ?_ (spell_four hrange h₁ h₂ h₃ hmin) rest
      unfold Nat.isValidChar
      omega

theorem spell_ne_nil (n : Nat) : spell n ≠ [] := by
  unfold spell
  split_ifs <;> exact List.cons_ne_nil _ _

/-- What is decoded are the bytes of its characters. -/
theorem eq_encode_of_decodeFrom {start : Nat} {bytes : List Nat} {cs : List Char}
    (h : decodeFrom start none bytes = .ok cs) : bytes = encode cs := by
  induction hn : bytes.length using Nat.strong_induction_on generalizing start bytes cs with
  | _ n ih =>
  subst hn
  cases bytes with
  | nil =>
    cases h
    rfl
  | cons b bytes =>
    obtain ⟨c, rest, hbytes⟩ := exists_spell h
    have hpos : 0 < (spell c.toNat).length := List.length_pos_iff.mpr (spell_ne_nil _)
    rw [hbytes] at h ih ⊢
    rw [decodeFrom_spell] at h
    cases hrest : decodeFrom (start + (spell c.toNat).length) none rest with
    | error m =>
      rw [hrest] at h
      cases h
    | ok cs' =>
      rw [hrest] at h
      cases h
      rw [encode_cons, ih rest.length (by rw [List.length_append]; omega) hrest rfl]

/-- Bytes are decoded exactly if they are the bytes of characters, as these characters. -/
theorem decode_eq_ok {bytes : List Nat} {cs : List Char} : decode bytes = .ok cs ↔ bytes = encode cs :=
  ⟨eq_encode_of_decodeFrom, fun h => h ▸ decode_encode cs⟩

theorem lt_of_mem_encode {cs : List Char} : ∀ b ∈ encode cs, b < 256 := by
  intro b hb
  obtain ⟨c, -, hb⟩ := List.mem_flatMap.mp hb
  have hc : c.toNat < 0xD800 ∨ 0xDFFF < c.toNat ∧ c.toNat < 0x110000 := c.valid
  unfold spell at hb
  split_ifs at hb <;> simp only [List.mem_cons, List.not_mem_nil, or_false] at hb <;> omega

theorem codes_encodeText (s : String) : (encodeText s).codes = encode s.toList := by
  rw [encodeText, Bytes.codes, List.map_map]
  conv_rhs => rw [← List.map_id (encode s.toList)]
  refine List.map_congr_left fun b hb => ?_
  exact UInt8.toNat_ofNat_of_lt' (lt_of_mem_encode b hb)

theorem codes_inj {b b' : Bytes} : b.codes = b'.codes ↔ b = b' :=
  (List.map_injective_iff.mpr fun _ _ => UInt8.toNat_inj.mp).eq_iff

/-- Raw bytes spell a text exactly if they are the bytes of that text. -/
theorem decodeText_eq_ok {b : Bytes} {s : String} : decodeText b = .ok s ↔ b = encodeText s := by
  rw [← codes_inj, codes_encodeText, ← decode_eq_ok, decodeText]
  cases decode b.codes with
  | error m => exact ⟨nofun, nofun⟩
  | ok cs =>
    show Except.ok (String.ofList cs) = .ok s ↔ _
    rw [Except.ok.injEq, Except.ok.injEq]
    exact ⟨fun h => by rw [← h, String.toList_ofList], fun h => by rw [h, String.ofList_toList]⟩

end RemoteSigner.Utf8
