import Mathlib
import RemoteSigner.Text.Hex

/-!
# What pairs of hexadecimal digits stand for

Text is made of pairs exactly if it is what is written for some bytes, up to capitals
(`Hex.isPairs_iff`). The reader takes more than that, such as blanks between pairs, but on pairs it gives
those very bytes (`HexText.exists_bytes`).
-/

namespace RemoteSigner

namespace Hex

/-- The characters are the pairs of the bytes, with some of the letters as capitals. -/
def Spells (cs : List Char) (bytes : Bytes) : Prop :=
  List.Forall₂ (fun c d => c = d ∨ c = d.toUpper) cs (encode bytes).toList

/-! ## Digits -/

/-- A digit is one of sixteen, a letter in either case. -/
theorem digit?_eq_some {c : Char} {d : Nat} :
    digit? c = some d ↔ d < 16 ∧ (c = d.digitChar ∨ c = d.digitChar.toUpper) := by
  constructor
  · intro h
    have hc : c = Char.ofNat c.toNat := (Char.ofNat_toNat c).symm
    have hrange : c.toNat ∈ Finset.Icc 48 57 ∧ d = c.toNat - 48 ∨
        c.toNat ∈ Finset.Icc 97 102 ∧ d = c.toNat - 97 + 10 ∨
        c.toNat ∈ Finset.Icc 65 70 ∧ d = c.toNat - 65 + 10 := by
      unfold digit? at h
      simp only [Char.le_def, UInt32.le_iff_toNat_le] at h
      split_ifs at h with h1 h2 h3
      · exact .inl ⟨Finset.mem_Icc.mpr h1, (Option.some.inj h).symm⟩
      · exact .inr (.inl ⟨Finset.mem_Icc.mpr h2, (Option.some.inj h).symm⟩)
      · exact .inr (.inr ⟨Finset.mem_Icc.mpr h3, (Option.some.inj h).symm⟩)
    generalize c.toNat = n at hc hrange
    subst hc
    obtain ⟨hn, rfl⟩ | ⟨hn, rfl⟩ | ⟨hn, rfl⟩ := hrange
    · fin_cases hn <;> decide
    · fin_cases hn <;> decide
    · fin_cases hn <;> decide
  · rintro ⟨hd, rfl | rfl⟩
    · interval_cases d <;> rfl
    · interval_cases d <;> rfl

theorem isSome_digit? {c : Char} :
    (digit? c).isSome ↔ ∃ d < 16, c = d.digitChar ∨ c = d.digitChar.toUpper := by
  simp only [Option.isSome_iff_exists, digit?_eq_some]

theorem ascii_of_digit? {c : Char} (h : (digit? c).isSome) : isBlank c = false ∧ c.toNat < 0x80 := by
  obtain ⟨d, hd, rfl | rfl⟩ := isSome_digit?.mp h
  · interval_cases d <;> decide
  · interval_cases d <;> decide

theorem toLower_of_digit {c : Char} {d : Nat} (hd : d < 16)
    (h : c = d.digitChar ∨ c = d.digitChar.toUpper) : c.toLower = d.digitChar := by
  obtain rfl | rfl := h
  · interval_cases d <;> rfl
  · interval_cases d <;> rfl

/-! ## Pairs -/

theorem toList_encode_cons (b : UInt8) (bytes : Bytes) :
    (encode (b :: bytes)).toList = pair b.toNat ++ (encode bytes).toList := by
  simp [encode]

theorem spells_cons {cs : List Char} {b : UInt8} {bytes : Bytes} :
    Spells cs (b :: bytes) ↔ ∃ high low rest, cs = high :: low :: rest ∧
      digit? high = some (b.toNat / 16) ∧ digit? low = some (b.toNat % 16) ∧ Spells rest bytes := by
  have hb : b.toNat < 256 := b.toNat_lt
  have hhigh : b.toNat / 16 % 16 = b.toNat / 16 := Nat.mod_eq_of_lt (by omega)
  simp only [Spells, toList_encode_cons, pair, hhigh, List.cons_append, List.nil_append,
    List.forall₂_cons_right_iff, digit?_eq_some]
  constructor
  · rintro ⟨high, _, hh, ⟨low, rest, hl, hrest, rfl⟩, rfl⟩
    exact ⟨high, low, rest, rfl, ⟨by omega, hh⟩, ⟨by omega, hl⟩, hrest⟩
  · rintro ⟨high, low, rest, rfl, ⟨-, hh⟩, ⟨-, hl⟩, hrest⟩
    exact ⟨high, low :: rest, hh, ⟨low, rest, hl, hrest, rfl⟩, rfl⟩

theorem spells_nil {cs : List Char} : Spells cs [] ↔ cs = [] := List.forall₂_nil_right_iff

/-- Pairs of digits and nothing else are what is written for bytes, up to capitals. -/
theorem isPairs_iff (cs : List Char) : isPairs cs = true ↔ ∃ bytes, Spells cs bytes := by
  fun_induction isPairs cs with
  | case1 => exact iff_of_true rfl ⟨[], spells_nil.mpr rfl⟩
  | case2 c =>
    refine iff_of_false (by decide) ?_
    rintro ⟨_ | ⟨b, bytes⟩, h⟩
    · exact absurd (spells_nil.mp h) (by simp)
    · obtain ⟨_, _, _, h, -⟩ := spells_cons.mp h
      exact absurd h (by simp)
  | case3 high low rest ih =>
    simp only [Bool.and_eq_true, ih]
    constructor
    · rintro ⟨⟨hh, hl⟩, bytes, hrest⟩
      obtain ⟨h, hh⟩ := Option.isSome_iff_exists.mp hh
      obtain ⟨l, hl⟩ := Option.isSome_iff_exists.mp hl
      obtain ⟨hh16, -⟩ := digit?_eq_some.mp hh
      obtain ⟨hl16, -⟩ := digit?_eq_some.mp hl
      have hbyte : (UInt8.ofNat (h * 16 + l)).toNat = h * 16 + l := by
        rw [UInt8.toNat_ofNat']
        omega
      refine ⟨UInt8.ofNat (h * 16 + l) :: bytes, spells_cons.mpr ⟨high, low, rest, rfl, ?_, ?_, hrest⟩⟩
      · rw [hbyte, hh]
        congr 1
        omega
      · rw [hbyte, hl]
        congr 1
        omega
    · rintro ⟨_ | ⟨b, bytes⟩, h⟩
      · exact absurd (spells_nil.mp h) (by simp)
      · obtain ⟨_, _, _, heq, hh, hl, hrest⟩ := spells_cons.mp h
        cases heq
        exact ⟨⟨by simp [hh], by simp [hl]⟩, bytes, hrest⟩

section

variable {cs : List Char} {bytes : Bytes}

theorem Spells.map_toLower (h : Spells cs bytes) : cs.map Char.toLower = (encode bytes).toList := by
  induction bytes generalizing cs with
  | nil =>
    rw [spells_nil.mp h]
    rfl
  | cons b bytes ih =>
    obtain ⟨high, low, rest, rfl, hh, hl, hrest⟩ := spells_cons.mp h
    obtain ⟨hh16, hh⟩ := digit?_eq_some.mp hh
    obtain ⟨hl16, hl⟩ := digit?_eq_some.mp hl
    rw [toList_encode_cons, pair, Nat.mod_eq_of_lt hh16, List.map_cons, List.map_cons,
      toLower_of_digit hh16 hh, toLower_of_digit hl16 hl, ih hrest]
    rfl

theorem Spells.length_eq (h : Spells cs bytes) : cs.length = 2 * bytes.length := by
  induction bytes generalizing cs with
  | nil =>
    rw [spells_nil.mp h]
    rfl
  | cons b bytes ih =>
    obtain ⟨high, low, rest, rfl, -, -, hrest⟩ := spells_cons.mp h
    simp only [List.length_cons, ih hrest]
    omega

theorem Spells.ascii (h : Spells cs bytes) : ∀ c ∈ cs, c.toNat < 0x80 := by
  induction bytes generalizing cs with
  | nil =>
    rw [spells_nil.mp h]
    exact List.forall_mem_nil _
  | cons b bytes ih =>
    obtain ⟨high, low, rest, rfl, hh, hl, hrest⟩ := spells_cons.mp h
    refine List.forall_mem_cons.mpr ⟨?_, List.forall_mem_cons.mpr ⟨?_, ih hrest⟩⟩
    · exact (ascii_of_digit? (by rw [hh]; rfl)).2
    · exact (ascii_of_digit? (by rw [hl]; rfl)).2

/-! ## Reading -/

theorem readFrom_pair {start high low : Nat} {a b : Char} (ha : digit? a = some high)
    (hb : digit? b = some low) (rest : List Char) :
    readFrom start (a :: b :: rest) = ((high * 16 + low) :: ·) <$> readFrom (start + 2) rest := by
  have hblank : isBlank a = false := (ascii_of_digit? (by rw [ha]; rfl)).1
  rw [readFrom, hblank]
  simp only [ha, hb]
  rfl

theorem Spells.readFrom_eq (h : Spells cs bytes) (start : Nat) :
    readFrom start cs = .ok (bytes.map UInt8.toNat) := by
  induction bytes generalizing cs start with
  | nil =>
    rw [spells_nil.mp h]
    rfl
  | cons b bytes ih =>
    obtain ⟨high, low, rest, rfl, hh, hl, hrest⟩ := spells_cons.mp h
    have hb : b.toNat / 16 * 16 + b.toNat % 16 = b.toNat := by omega
    rw [readFrom_pair hh hl, ih hrest, hb]
    rfl

/-- Pairs are read as the bytes that they are written for. -/
theorem Spells.read_eq (h : Spells cs bytes) : read cs = .ok (bytes.map UInt8.toNat) := by
  have hascii : cs.findIdx? (fun c => 0x80 ≤ c.toNat) = none := by
    rw [List.findIdx?_eq_none_iff]
    intro c hc
    have := h.ascii c hc
    simpa using this
  rw [read, hascii]
  exact h.readFrom_eq 0

end

end Hex

namespace HexText

/-- Text made of pairs has bytes, and they are those that it is written for. -/
theorem exists_bytes (h : HexText) : ∃ bytes, h.bytes = .ok bytes ∧ Hex.Spells h.text.toList bytes := by
  obtain ⟨bytes, hspells⟩ := (Hex.isPairs_iff _).mp h.isPairs
  refine ⟨bytes, ?_, hspells⟩
  rw [HexText.bytes, hspells.read_eq]
  show Except.ok ((bytes.map UInt8.toNat).map UInt8.ofNat) = _
  simp [List.map_map, Function.comp_def]

end HexText

end RemoteSigner
