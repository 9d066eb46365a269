import Mathlib
import RemoteSigner.Json.Reader
import RemoteSigner.Proofs.Json.Entries

/-!
# Properties of all values inside a value

`Everywhere p` says that `p` holds of a value and of every value inside it. Three such properties matter:
`IsRead` is what a strict reader guarantees of a value, `IsExact` is what a value needs in order to come back
unchanged from its text, and `IsOrderly` is the same for a writer that takes care of floats.
-/

namespace RemoteSigner.Json

theorem one_lt_maxDigits : 1 < maxDigits := by unfold maxDigits; omega

section Digits

variable [Readers]

theorem signPlaces_le (neg : Bool) : Readers.signPlaces neg ≤ 1 := Bool.toNat_le _

theorem signPlaces_mono {b c : Bool} (h : b → c) : Readers.signPlaces b ≤ Readers.signPlaces c := by
  cases b with
  | false => simp [Readers.signPlaces]
  | true => rw [h rfl]

/-- The integer takes at most `maxDigits` places, with its sign if that counts. -/
def FewDigits (n : Int) : Prop :=
  (Nat.toDigits 10 n.natAbs).length + Readers.signPlaces (n < 0) ≤ maxDigits

/-- A number below a smaller power of ten has few digits, whatever its sign. -/
theorem fewDigits_of_natAbs_lt {n : Int} {k : Nat} (hk : 0 < k) (hmax : k < maxDigits)
    (h : n.natAbs < 10 ^ k) : FewDigits n := by
  have hlen : (Nat.toDigits 10 n.natAbs).length ≤ k := (Nat.length_toDigits_le_iff (by decide) hk).mpr h
  have hsign := signPlaces_le (n < 0)
  unfold FewDigits
  omega

theorem fewDigits_of_natAbs_lt_ten {n : Int} (h : n.natAbs < 10) : FewDigits n :=
  fewDigits_of_natAbs_lt one_pos one_lt_maxDigits h

theorem fewDigits_zero : FewDigits 0 := fewDigits_of_natAbs_lt_ten (by decide)

theorem fewDigits_one : FewDigits 1 := fewDigits_of_natAbs_lt_ten (by decide)

/-- A number of so many counted digits is short if they fit with its sign. -/
theorem fewDigits_signed {neg : Bool} {n k : Nat} (hn : n < 10 ^ k)
    (hk : k + Readers.signPlaces neg ≤ maxDigits) : FewDigits (if neg then -(n : Int) else n) := by
  rcases Nat.eq_zero_or_pos k with rfl | hpos
  · obtain rfl : n = 0 := by simpa using hn
    simpa using fewDigits_zero
  · have habs : (if neg then -(n : Int) else n).natAbs = n := by cases neg <;> simp
    have hlen : (Nat.toDigits 10 n).length ≤ k := (Nat.length_toDigits_le_iff (by decide) hpos).mpr hn
    have hsign : Readers.signPlaces ((if neg then -(n : Int) else n) < 0) ≤ Readers.signPlaces neg :=
      signPlaces_mono fun h => by
        cases neg with
        | true => rfl
        | false => exact absurd (of_decide_eq_true h) (by simp)
    rw [FewDigits, habs]
    omega

end Digits

mutual

/-- `p` holds of the value and of every value inside it. -/
def Everywhere (p : Json → Prop) : Json → Prop
  | .list items => p (.list items) ∧ EverywhereItems p items
  | .object entries => p (.object entries) ∧ EverywhereEntries p entries
  | j => p j

def EverywhereItems (p : Json → Prop) : List Json → Prop
  | [] => True
  | j :: rest => Everywhere p j ∧ EverywhereItems p rest

def EverywhereEntries (p : Json → Prop) : List (String × Json) → Prop
  | [] => True
  | (_, j) :: rest => Everywhere p j ∧ EverywhereEntries p rest

end

variable {p q : Json → Prop}

theorem everywhereItems_iff {items : List Json} :
    EverywhereItems p items ↔ ∀ j ∈ items, Everywhere p j := by
  induction items with
  | nil => simp [EverywhereItems]
  | cons j rest ih => simp [EverywhereItems, ih]

theorem everywhereEntries_iff {entries : List (String × Json)} :
    EverywhereEntries p entries ↔ ∀ e ∈ entries, Everywhere p e.2 := by
  induction entries with
  | nil => simp [EverywhereEntries]
  | cons e rest ih => simp [EverywhereEntries, ih]

theorem everywhere_list {items : List Json} :
    Everywhere p (.list items) ↔ p (.list items) ∧ ∀ j ∈ items, Everywhere p j := by
  rw [Everywhere, everywhereItems_iff]

theorem everywhere_object {entries : List (String × Json)} :
    Everywhere p (.object entries) ↔ p (.object entries) ∧ ∀ e ∈ entries, Everywhere p e.2 := by
  rw [Everywhere, everywhereEntries_iff]

mutual

theorem Everywhere.mono (hpq : ∀ j, p j → q j) {j : Json} (h : j.Everywhere p) : j.Everywhere q := by
  cases j with
  | null | bool _ | int _ | float _ | str _ => exact hpq _ h
  | list items => exact ⟨hpq _ h.1, EverywhereItems.mono hpq h.2⟩
  | object entries => exact ⟨hpq _ h.1, EverywhereEntries.mono hpq h.2⟩

theorem EverywhereItems.mono (hpq : ∀ j, p j → q j) {items : List Json} (h : EverywhereItems p items) :
    EverywhereItems q items := by
  cases items with
  | nil => trivial
  | cons j rest => exact ⟨Everywhere.mono hpq h.1, EverywhereItems.mono hpq h.2⟩

theorem EverywhereEntries.mono (hpq : ∀ j, p j → q j) {entries : List (String × Json)}
    (h : EverywhereEntries p entries) : EverywhereEntries q entries := by
  cases entries with
  | nil => trivial
  | cons e rest => exact ⟨Everywhere.mono hpq h.1, EverywhereEntries.mono hpq h.2⟩

end

/-! ## Depth -/

theorem depthOfItems_le {items : List Json} {d : Nat} (h : ∀ j ∈ items, j.depth ≤ d) :
    depthOfItems items ≤ d := by
  induction items with
  | nil => exact Nat.zero_le d
  | cons j rest ih =>
    obtain ⟨hj, hrest⟩ := List.forall_mem_cons.mp h
    exact max_le hj (ih hrest)

theorem depthOfEntries_le {entries : List (String × Json)} {d : Nat} (h : ∀ e ∈ entries, e.2.depth ≤ d) :
    depthOfEntries entries ≤ d := by
  induction entries with
  | nil => exact Nat.zero_le d
  | cons e rest ih =>
    obtain ⟨he, hrest⟩ := List.forall_mem_cons.mp h
    exact max_le he (ih hrest)

theorem depth_le_depthOfEntries {entries : List (String × Json)} {e : String × Json} (h : e ∈ entries) :
    e.2.depth ≤ depthOfEntries entries := by
  induction entries with
  | nil => cases h
  | cons e' rest ih =>
    rcases List.mem_cons.mp h with rfl | h
    · exact le_max_left _ _
    · exact (ih h).trans (le_max_right _ _)

/-! ## Repeated keys -/

/-- No key stands twice in an object. -/
def HasDistinctKeys : Json → Prop
  | .object entries => (Entries.keys entries).Nodup
  | _ => True

theorem joinedItems_eq_map (items : List Json) : joinedItems items = items.map joined := by
  induction items with
  | nil => rfl
  | cons j rest ih => rw [joinedItems, ih, List.map_cons]

theorem joinedEntries_eq_map (entries : List (String × Json)) :
    joinedEntries entries = entries.map fun e => (e.1, joined e.2) := by
  induction entries with
  | nil => rfl
  | cons e rest ih => rw [joinedEntries, ih, List.map_cons]

theorem keys_joinedEntries (entries : List (String × Json)) :
    Entries.keys (joinedEntries entries) = Entries.keys entries := by
  rw [joinedEntries_eq_map, Entries.keys, Entries.keys, List.map_map]
  rfl

mutual

theorem everywhere_joined (j : Json) : j.joined.Everywhere HasDistinctKeys := by
  cases j with
  | null | bool _ | int _ | float _ | str _ => trivial
  | list items => exact everywhere_list.mpr ⟨trivial, everywhere_joinedItems items⟩
  | object entries =>
    refine everywhere_object.mpr ⟨Entries.nodup_keys_ofPairs _, fun e he => ?_⟩
    exact everywhere_joinedEntries entries e (Entries.mem_of_mem_ofPairs he)

theorem everywhere_joinedItems (items : List Json) :
    ∀ j ∈ joinedItems items, j.Everywhere HasDistinctKeys := by
  cases items with
  | nil => exact List.forall_mem_nil _
  | cons j rest => exact List.forall_mem_cons.mpr ⟨everywhere_joined j, everywhere_joinedItems rest⟩

theorem everywhere_joinedEntries (entries : List (String × Json)) :
    ∀ e ∈ joinedEntries entries, e.2.Everywhere HasDistinctKeys := by
  cases entries with
  | nil => exact List.forall_mem_nil _
  | cons e rest =>
    exact List.forall_mem_cons.mpr ⟨everywhere_joined e.2, everywhere_joinedEntries rest⟩

end

mutual

/-- Values that do not count make nothing deeper. -/
theorem depth_joined_le (j : Json) : j.joined.depth ≤ j.depth := by
  cases j with
  | null | bool _ | int _ | float _ | str _ => exact le_rfl
  | list items => exact Nat.succ_le_succ (depth_joinedItems_le items)
  | object entries =>
    refine Nat.succ_le_succ ((depthOfEntries_le fun e he => ?_).trans (depth_joinedEntries_le entries))
    exact depth_le_depthOfEntries (Entries.mem_of_mem_ofPairs he)

theorem depth_joinedItems_le (items : List Json) : depthOfItems (joinedItems items) ≤ depthOfItems items := by
  cases items with
  | nil => exact le_rfl
  | cons j rest => exact max_le_max (depth_joined_le j) (depth_joinedItems_le rest)

theorem depth_joinedEntries_le (entries : List (String × Json)) :
    depthOfEntries (joinedEntries entries) ≤ depthOfEntries entries := by
  cases entries with
  | nil => exact le_rfl
  | cons e rest => exact max_le_max (depth_joined_le e.2) (depth_joinedEntries_le rest)

end

mutual

theorem joined_of_hasDistinctKeys {j : Json} (h : j.Everywhere HasDistinctKeys) : j.joined = j := by
  cases j with
  | null | bool _ | int _ | float _ | str _ => rfl
  | list items => rw [joined, joinedItems_of_hasDistinctKeys h.2]
  | object entries =>
    have hkeys : (Entries.keys entries).Nodup := h.1
    rw [joined, joinedEntries_of_hasDistinctKeys h.2, Entries.ofPairs_of_nodup hkeys]

theorem joinedItems_of_hasDistinctKeys {items : List Json} (h : EverywhereItems HasDistinctKeys items) :
    joinedItems items = items := by
  cases items with
  | nil => rfl
  | cons j rest => rw [joinedItems, joined_of_hasDistinctKeys h.1, joinedItems_of_hasDistinctKeys h.2]

theorem joinedEntries_of_hasDistinctKeys {entries : List (String × Json)}
    (h : EverywhereEntries HasDistinctKeys entries) : joinedEntries entries = entries := by
  cases entries with
  | nil => rfl
  | cons e rest =>
    rw [joinedEntries, joined_of_hasDistinctKeys h.1, joinedEntries_of_hasDistinctKeys h.2]

end

/-! ## What readers guarantee and need -/

variable [Readers]

/-- What a strict reader guarantees: integers are short, and unless it keeps them all no key stands twice
in an object. -/
def IsRead : Json → Prop
  | .int n => FewDigits n
  | .object entries => Readers.keepsRepeats ∨ (Entries.keys entries).Nodup
  | _ => True

/-- Integers are short, and no key stands twice in an object. -/
def IsOrderly : Json → Prop
  | .int n => FewDigits n
  | .object entries => (Entries.keys entries).Nodup
  | _ => True

/-- What a value needs to come back from its text: there are no floats in it besides. -/
def IsExact : Json → Prop
  | .float _ => False
  | j => IsOrderly j

theorem IsOrderly.hasDistinctKeys {j : Json} (h : j.IsOrderly) : j.HasDistinctKeys := by
  match j with
  | .object _ => exact h
  | .null | .bool _ | .int _ | .float _ | .str _ | .list _ => trivial

/-- A reader that does not keep them all leaves no key twice. -/
theorem IsRead.hasDistinctKeys {j : Json} (h : j.IsRead) (hkeeps : Readers.keepsRepeats = false) :
    j.HasDistinctKeys := by
  match j with
  | .object _ =>
    rcases h with h | h
    · rw [hkeeps] at h
      cases h
    · exact h
  | .null | .bool _ | .int _ | .float _ | .str _ | .list _ => trivial

theorem IsExact.isOrderly {j : Json} (h : j.IsExact) : j.IsOrderly := by
  match j with
  | .float _ => exact h.elim
  | .null | .bool _ | .int _ | .str _ | .list _ | .object _ => exact h

theorem joined_of_isExact {j : Json} (h : j.Everywhere IsExact) : j.joined = j :=
  joined_of_hasDistinctKeys (h.mono fun _ h => h.isOrderly.hasDistinctKeys)

end RemoteSigner.Json
