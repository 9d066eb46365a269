import Mathlib
import RemoteSigner.Wire.Integer
import RemoteSigner.Proofs.Json.Everywhere

/-!
# The size of lenient integers

An integer that is accepted leniently takes at most `Json.maxDigits` places, whether it came from a truth
value, a float or text (`fewDigits_integerOfBool`, `fewDigits_integerOfFloat`,
`fewDigits_integerOfText`).
-/

namespace RemoteSigner

/-! ## Digits -/

theorem asciiDigit?_lt {code d : Nat} (h : asciiDigit? code = some d) : d < 10 := by
  unfold asciiDigit? at h
  split_ifs at h
  cases h
  omega

theorem groupedDigits?_lt {codes ds : List Nat} {afterDigit : Bool}
    (h : groupedDigits? asciiDigit? afterDigit codes = some ds) : ∀ d ∈ ds, d < 10 := by
  induction codes generalizing afterDigit ds with
  | nil =>
    unfold groupedDigits? at h
    split_ifs at h
    cases h
    exact List.forall_mem_nil _
  | cons c rest ih =>
    unfold groupedDigits? at h
    split_ifs at h
    · exact ih h
    · obtain ⟨d, hd, h⟩ := Option.bind_eq_some_iff.mp h
      obtain ⟨ds', hds, h⟩ := Option.bind_eq_some_iff.mp h
      cases h
      exact List.forall_mem_cons.mpr ⟨asciiDigit?_lt hd, ih hds⟩

theorem foldl_digits_lt {ds : List Nat} (h : ∀ d ∈ ds, d < 10) (n : Nat) :
    ds.foldl (fun n d => n * 10 + d) n < (n + 1) * 10 ^ ds.length := by
  induction ds generalizing n with
  | nil => simp
  | cons d ds ih =>
    obtain ⟨hd, hds⟩ := List.forall_mem_cons.mp h
    calc ds.foldl (fun n d => n * 10 + d) (n * 10 + d)
        < (n * 10 + d + 1) * 10 ^ ds.length := ih hds _
      _ ≤ ((n + 1) * 10) * 10 ^ ds.length := Nat.mul_le_mul_right _ (by omega)
      _ = (n + 1) * 10 ^ (d :: ds).length := by rw [List.length_cons, pow_succ]; ring

theorem digitsValue_lt {ds : List Nat} (h : ∀ d ∈ ds, d < 10) :
    digitsValue ds < 10 ^ ds.length := by
  simpa [digitsValue] using foldl_digits_lt h 0

namespace Lenient

open Json

variable [Readers]

theorem fewDigits_wholeDigits? {neg : Bool} {codes ds : List Nat} (h : wholeDigits? neg codes = some ds) :
    FewDigits (signed neg (digitsValue ds)) := by
  unfold wholeDigits? at h
  split at h
  · cases h
  · rename_i hds
    split_ifs at h with hl
    cases h
    exact fewDigits_signed (digitsValue_lt (groupedDigits?_lt hds)) hl
  · cases h

theorem fewDigits_integerOfWhole? {neg : Bool} {codes : List Nat} {n : Int}
    (h : integerOfWhole? neg codes = some n) : FewDigits n := by
  unfold integerOfWhole? at h
  split at h <;>
  · obtain ⟨ds, hds, rfl⟩ := Option.map_eq_some_iff.mp h
    exact fewDigits_wholeDigits? hds

theorem fewDigits_integerOfText {s : String} {n : Int} (h : integerOfText s = .ok n) :
    FewDigits n := by
  unfold integerOfText at h
  simp only at h
  split_ifs at h
  split at h
  · rename_i m hm
    cases h
    unfold integerOfStripped? at hm
    obtain ⟨number, -, hm⟩ := Option.bind_eq_some_iff.mp hm
    simp only at hm
    split_ifs at hm
    exact fewDigits_integerOfWhole? hm
  · cases h

theorem fewDigits_integerOfFloat {x : Float} {n : Int} (h : integerOfFloat x = .ok n) :
    FewDigits n := by
  unfold integerOfFloat at h
  split_ifs at h
  split at h
  · cases h
  · split_ifs at h with hsize
    cases h
    have h19 : Nat.pow 2 63 < 10 ^ 19 := by norm_num
    have hmax : 19 < maxDigits := by unfold maxDigits; omega
    exact fewDigits_of_natAbs_lt (by decide) hmax (hsize.trans h19)

theorem fewDigits_integerOfBool (b : Bool) : FewDigits (integerOfBool b) := by
  cases b with
  | false => exact fewDigits_zero
  | true => exact fewDigits_one

end Lenient

end RemoteSigner
