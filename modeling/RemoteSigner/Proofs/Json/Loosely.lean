import Mathlib
import RemoteSigner.Json.Loose
import RemoteSigner.Proofs.Datum.Written
import RemoteSigner.Proofs.Json.ReadBack

/-!
# Compact text is read back loosely

`readLoose_compact`: the loose reader makes data in memory of what the strict one gives back, a value that
is exact and not too deep, and allows more depth.
-/

namespace RemoteSigner

/-- The code points of a string are no surrogates, so they make up the string. -/
theorem Text.ofCodes_toList (s : String) : ofCodes (s.toList.map Char.toNat) = .whole s := by
  have hwhole : (s.toList.map Char.toNat).any isSurrogate = false := by
    rw [List.any_eq_false]
    intro n hn
    obtain ⟨c, -, rfl⟩ := List.mem_map.mp hn
    have hvalid : c.toNat < 0xD800 ∨ 0xDFFF < c.toNat ∧ c.toNat < 0x110000 := c.valid
    simp only [isSurrogate, Bool.and_eq_true, decide_eq_true_eq]
    omega
  have hback : (s.toList.map Char.toNat).map Char.ofNat = s.toList := by
    rw [List.map_map]
    exact (List.map_congr_left fun c _ => Char.ofNat_toNat c).trans (List.map_id _)
  rw [ofCodes, hwhole, hback, String.ofList_toList]
  rfl

namespace Json

variable [Readers]

theorem units_loose (cs : List Char) : loose.units cs = cs.map Char.toNat := by
  induction cs with
  | nil => rfl
  | cons c cs ih => rw [units_cons, ih]; rfl

theorem loose_faithful : loose.Faithful Text.whole Datum.ofJson where
  spell_ascii _ _ := rfl
  eq_or_le_of_mem_spell _ _ h := .inl (List.mem_singleton.mp h)
  complete_units s := by
    rw [units_loose]
    exact congrArg Except.ok (Text.ofCodes_toList s)
  name_inj _ _ := Text.whole.inj
  null := rfl
  bool _ := rfl
  int _ := rfl
  text _ := rfl
  list items := congrArg Datum.list (Datum.itemsOfJson_eq_map items).symm
  object es hkeys := by
    have hes : (es.map fun e => (Text.whole e.1, Datum.ofJson e.2)) = Datum.entriesOfJson es :=
      (Datum.entriesOfJson_eq_map es).symm
    have hnames : (Entries.keys (Datum.entriesOfJson es)).Nodup := by
      rw [Datum.keys_entriesOfJson]
      exact hkeys.map fun _ _ => Text.whole.inj
    rw [hes]
    exact congrArg Datum.map (Entries.ofPairs_of_nodup hnames)

/-- The sign never counts in loose reading. -/
theorem loose_takes {n : Int} (h : FewDigits n) : loose.Takes n := (Nat.le_add_right _ _).trans h

theorem head?_of_parse {codes : List Nat} {d : Datum} (h : parse loose codes = .ok d) :
    codes.head? ≠ some 0xFEFF := by
  intro hhead
  cases codes with
  | nil => cases hhead
  | cons u rest =>
    cases hhead
    have hmark : mark 0xFEFF = .other := rfl
    have hstep : State.step? loose .initial 0xFEFF = none := by
      simp [State.step?, State.initial, State.start?, hmark]
    rw [parse, feed, hstep] at h
    cases h

/-- The loose reader makes data in memory of an exact value that is not too deep, from its compact text. -/
theorem readLoose_compact (policy : NonFinite) {j : Json} (h : j.Everywhere IsExact)
    (hd : j.depth ≤ Readers.looseDepth) : readLoose (.whole (j.compact policy)) = .ok (.ofJson j) := by
  have hparse : parse loose (Text.codes (.whole (j.compact policy))) = .ok (.ofJson j) := by
    rw [Text.codes_whole, compact, String.toList_ofList, ← units_loose]
    exact (reads_compact loose_faithful (fun _ => loose_takes) policy j h).parse hd
  rw [readLoose]
  simp only [if_neg (head?_of_parse hparse), hparse]

end Json

end RemoteSigner
