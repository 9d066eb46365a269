import Mathlib
import RemoteSigner.Datum.Basic
import RemoteSigner.Proofs.Wire.Dump

/-!
# Which data can be written, and what is read back

Data can be written exactly if nothing in it is without a written form and it is not nested too deep
(`Datum.exists_toJsonWithin_iff`). `Datum.IsPlain` data is what JSON itself has, floats apart: its written
form is the value that reading turns into the data again (`Datum.ofJson_of_toJsonWithin`), and a value
that comes back from its text (`Datum.everywhere_isExact`).
-/

namespace RemoteSigner.Datum

/-! ## Properties of all values inside a value -/

mutual

/-- `p` holds of the value and of every value inside it. -/
def Everywhere (p : Datum → Prop) : Datum → Prop
  | .list items => p (.list items) ∧ EverywhereItems p items
  | .map entries => p (.map entries) ∧ EverywhereEntries p entries
  | .record title entries => p (.record title entries) ∧ EverywhereEntries p entries
  | d => p d

def EverywhereItems (p : Datum → Prop) : List Datum → Prop
  | [] => True
  | d :: rest => Everywhere p d ∧ EverywhereItems p rest

def EverywhereEntries (p : Datum → Prop) : List (Text × Datum) → Prop
  | [] => True
  | (_, d) :: rest => Everywhere p d ∧ EverywhereEntries p rest

end

mutual

theorem Everywhere.congr {p q r : Datum → Prop} (h : ∀ d, p d → (q d ↔ r d)) {d : Datum}
    (hd : d.Everywhere p) : d.Everywhere q ↔ d.Everywhere r := by
  cases d with
  | list items => exact and_congr (h _ hd.1) (EverywhereItems.congr h hd.2)
  | map entries => exact and_congr (h _ hd.1) (EverywhereEntries.congr h hd.2)
  | record title entries => exact and_congr (h _ hd.1) (EverywhereEntries.congr h hd.2)
  | null | bool | int | float | text | bytes | message | unknown => exact h _ hd

theorem EverywhereItems.congr {p q r : Datum → Prop} (h : ∀ d, p d → (q d ↔ r d)) {ds : List Datum}
    (hds : EverywhereItems p ds) : EverywhereItems q ds ↔ EverywhereItems r ds := by
  cases ds with
  | nil => exact Iff.rfl
  | cons d rest => exact and_congr (Everywhere.congr h hds.1) (EverywhereItems.congr h hds.2)

theorem EverywhereEntries.congr {p q r : Datum → Prop} (h : ∀ d, p d → (q d ↔ r d))
    {es : List (Text × Datum)} (hes : EverywhereEntries p es) :
    EverywhereEntries q es ↔ EverywhereEntries r es := by
  cases es with
  | nil => exact Iff.rfl
  | cons e rest => exact and_congr (Everywhere.congr h hes.1) (EverywhereEntries.congr h hes.2)

end

mutual

/-- How many values stand inside one another, at most. A message holds its label and its content. -/
def depth : Datum → Nat
  | .list items => depthOfItems items + 1
  | .map entries => depthOfEntries entries + 1
  | .record _ entries => depthOfEntries entries + 1
  | .message _ => 2
  | _ => 1

/-- The depth of the deepest item. -/
def depthOfItems : List Datum → Nat
  | [] => 0
  | d :: rest => max (depth d) (depthOfItems rest)

/-- The depth of the deepest entry. -/
def depthOfEntries : List (Text × Datum) → Nat
  | [] => 0
  | (_, d) :: rest => max (depth d) (depthOfEntries rest)

end

theorem one_le_depth (d : Datum) : 1 ≤ d.depth := by
  cases d <;> simp [depth]

/-- No lone surrogate in text, nor in a key. -/
def HasWholeText : Datum → Prop
  | .text t => t.IsWhole
  | .map entries => ∀ k ∈ Entries.keys entries, k.IsWhole
  | .record _ entries => ∀ k ∈ Entries.keys entries, k.IsWhole
  | _ => True

/-- The value itself, whatever is inside it, does not stand in the way of being written. -/
def IsWritable : Datum → Prop
  | .bytes b => ∃ s, b.written = .ok s
  | .message m => ∃ s, m.content.written = .ok s
  | .unknown => False
  | d => d.HasWholeText

/-- What JSON has, except for floats: integers of few digits, and no key twice in a map. -/
def IsPlain [Readers] : Datum → Prop
  | .null | .bool _ | .text _ | .list _ => True
  | .int n => Json.FewDigits n
  | .map entries => (Entries.keys entries).Nodup
  | _ => False

/-! ## Which data can be written -/

theorem written_text_eq_ok {t : Text} {s : String} : t.written = .ok s ↔ t = .whole s := by
  cases t with
  | whole s' =>
    show Except.ok s' = Except.ok s ↔ _
    rw [Except.ok.injEq, Text.whole.injEq]
  | ragged codes => exact ⟨(nomatch ·), (nomatch ·)⟩

theorem written_text_iff (t : Text) : (∃ s, t.written = .ok s) ↔ t.IsWhole := by
  simp only [written_text_eq_ok]
  cases t with
  | whole s => exact ⟨fun _ => rfl, fun _ => ⟨s, rfl⟩⟩
  | ragged codes => exact ⟨fun ⟨_, h⟩ => (nomatch h), (nomatch ·)⟩

theorem exists_map_eq_ok {ε α β : Type} {f : α → β} {x : Except ε α} :
    (∃ b, f <$> x = .ok b) ↔ ∃ a, x = .ok a := by
  cases x with
  | error e => exact ⟨fun ⟨_, h⟩ => (nomatch h), fun ⟨_, h⟩ => (nomatch h)⟩
  | ok a => exact ⟨fun _ => ⟨a, rfl⟩, fun _ => ⟨f a, rfl⟩⟩

theorem written_message_iff (m : Message) :
    (∃ j, m.written = .ok j) ↔ ∃ s, m.content.written = .ok s := by
  unfold Message.written
  cases m.content.written with
  | error e => exact ⟨fun ⟨_, h⟩ => (nomatch h), fun ⟨_, h⟩ => (nomatch h)⟩
  | ok s => exact ⟨fun _ => ⟨s, rfl⟩, fun _ => ⟨_, rfl⟩⟩

theorem itemsToJson_cons_eq_ok {room : Nat} {d : Datum} {rest : List Datum} {js : List Json} :
    itemsToJson room (d :: rest) = .ok js ↔ ∃ j js', d.toJsonWithin room = .ok j ∧
      itemsToJson room rest = .ok js' ∧ js = j :: js' := by
  rw [itemsToJson]
  simp only [bind_eq_ok]
  constructor
  · rintro ⟨j, hj, js', hjs, h⟩
    cases h
    exact ⟨j, js', hj, hjs, rfl⟩
  · rintro ⟨j, js', hj, hjs, rfl⟩
    exact ⟨j, hj, js', hjs, rfl⟩

theorem entriesToJson_cons_eq_ok {room : Nat} {k : Text} {d : Datum} {rest : List (Text × Datum)}
    {js : List (String × Json)} : entriesToJson room ((k, d) :: rest) = .ok js ↔
      ∃ s j js', k = .whole s ∧ d.toJsonWithin room = .ok j ∧ entriesToJson room rest = .ok js' ∧
        js = (s, j) :: js' := by
  rw [entriesToJson]
  simp only [bind_eq_ok, written_text_eq_ok]
  constructor
  · rintro ⟨s, hs, j, hj, js', hjs, h⟩
    cases h
    exact ⟨s, j, js', hs, hj, hjs, rfl⟩
  · rintro ⟨s, j, js', hs, hj, hjs, rfl⟩
    exact ⟨s, hs, j, hj, js', hjs, rfl⟩

theorem itemsToJson_cons {room : Nat} {d : Datum} {rest : List Datum} :
    (∃ js, itemsToJson room (d :: rest) = .ok js) ↔
      (∃ j, d.toJsonWithin room = .ok j) ∧ ∃ js, itemsToJson room rest = .ok js := by
  simp only [itemsToJson_cons_eq_ok]
  constructor
  · rintro ⟨_, j, js, hj, hjs, -⟩
    exact ⟨⟨j, hj⟩, js, hjs⟩
  · rintro ⟨⟨j, hj⟩, js, hjs⟩
    exact ⟨_, j, js, hj, hjs, rfl⟩

theorem entriesToJson_cons {room : Nat} {k : Text} {d : Datum} {rest : List (Text × Datum)} :
    (∃ es, entriesToJson room ((k, d) :: rest) = .ok es) ↔
      k.IsWhole ∧ (∃ j, d.toJsonWithin room = .ok j) ∧ ∃ es, entriesToJson room rest = .ok es := by
  simp only [entriesToJson_cons_eq_ok, ← written_text_iff, written_text_eq_ok]
  constructor
  · rintro ⟨_, s, j, es, hs, hj, hes, -⟩
    exact ⟨⟨s, hs⟩, ⟨j, hj⟩, es, hes⟩
  · rintro ⟨⟨s, hs⟩, ⟨j, hj⟩, es, hes⟩
    exact ⟨_, s, j, es, hs, hj, hes, rfl⟩

mutual

/-- Data can be written within some room exactly if everything in it can be, and its depth fits. -/
theorem exists_toJsonWithin_iff {room : Nat} (d : Datum) :
    (∃ j, d.toJsonWithin room = .ok j) ↔ d.Everywhere IsWritable ∧ d.depth ≤ room := by
  cases room with
  | zero =>
    have := d.one_le_depth
    refine ⟨fun ⟨_, h⟩ => ?_, fun h => ?_⟩
    · rw [toJsonWithin] at h
      cases h
    · omega
  | succ room =>
    cases d with
    | null | bool | int | float =>
      simp only [toJsonWithin, Everywhere, depth]
      exact ⟨fun _ => ⟨trivial, by omega⟩, fun _ => ⟨_, rfl⟩⟩
    | text t =>
      rw [toJsonWithin, exists_map_eq_ok, written_text_iff]
      exact ⟨fun h => ⟨h, Nat.succ_pos room⟩, And.left⟩
    | bytes b =>
      rw [toJsonWithin, exists_map_eq_ok]
      exact ⟨fun h => ⟨h, Nat.succ_pos room⟩, And.left⟩
    | list items =>
      rw [toJsonWithin, exists_map_eq_ok, exists_itemsToJson_iff, Everywhere, depth,
        Nat.succ_le_succ_iff]
      exact ⟨fun h => ⟨⟨trivial, h.1⟩, h.2⟩, fun h => ⟨h.1.2, h.2⟩⟩
    | map entries =>
      rw [toJsonWithin, exists_map_eq_ok, exists_entriesToJson_iff, Everywhere, depth,
        Nat.succ_le_succ_iff]
      exact ⟨fun h => ⟨⟨h.1, h.2.1⟩, h.2.2⟩, fun h => ⟨h.1.1, h.1.2, h.2⟩⟩
    | record title entries =>
      rw [toJsonWithin, exists_map_eq_ok, exists_entriesToJson_iff, Everywhere, depth,
        Nat.succ_le_succ_iff]
      exact ⟨fun h => ⟨⟨h.1, h.2.1⟩, h.2.2⟩, fun h => ⟨h.1.1, h.1.2, h.2⟩⟩
    | message m =>
      simp only [Everywhere, depth]
      rw [toJsonWithin]
      split_ifs with hroom
      · refine ⟨fun ⟨_, h⟩ => (nomatch h), fun h => ?_⟩
        omega
      · rw [written_message_iff]
        exact ⟨fun h => ⟨h, by omega⟩, And.left⟩
    | unknown =>
      rw [toJsonWithin]
      exact ⟨fun ⟨_, h⟩ => (nomatch h), fun h => h.1.elim⟩

theorem exists_itemsToJson_iff {room : Nat} (ds : List Datum) :
    (∃ js, itemsToJson room ds = .ok js) ↔
      EverywhereItems IsWritable ds ∧ depthOfItems ds ≤ room := by
  cases ds with
  | nil => exact ⟨fun _ => ⟨trivial, Nat.zero_le room⟩, fun _ => ⟨[], rfl⟩⟩
  | cons d rest =>
    rw [itemsToJson_cons, exists_toJsonWithin_iff d, exists_itemsToJson_iff rest, EverywhereItems,
      depthOfItems, max_le_iff]
    exact and_and_and_comm

theorem exists_entriesToJson_iff {room : Nat} (es : List (Text × Datum)) :
    (∃ js, entriesToJson room es = .ok js) ↔
      (∀ k ∈ Entries.keys es, k.IsWhole) ∧ EverywhereEntries IsWritable es ∧
        depthOfEntries es ≤ room := by
  cases es with
  | nil => exact ⟨fun _ => ⟨nofun, trivial, Nat.zero_le room⟩, fun _ => ⟨[], rfl⟩⟩
  | cons e rest =>
    obtain ⟨k, d⟩ := e
    have hkeys : (∀ k' ∈ Entries.keys ((k, d) :: rest), k'.IsWhole) ↔
        k.IsWhole ∧ ∀ k' ∈ Entries.keys rest, k'.IsWhole := List.forall_mem_cons
    rw [entriesToJson_cons, exists_toJsonWithin_iff d, exists_entriesToJson_iff rest, hkeys,
      EverywhereEntries, depthOfEntries, max_le_iff]
    tauto

end

/-! ## Plain data -/

mutual

/-- Plain data is what reading makes of its written form. -/
theorem ofJson_of_toJsonWithin [Readers] {room : Nat} {d : Datum} (hd : d.Everywhere IsPlain) {j : Json}
    (h : d.toJsonWithin room = .ok j) : ofJson j = d := by
  cases room with
  | zero => rw [toJsonWithin] at h; cases h
  | succ room =>
    cases d with
    | null | bool | int =>
      rw [toJsonWithin] at h
      cases h
      rfl
    | text t =>
      rw [toJsonWithin] at h
      obtain ⟨s, hs, rfl⟩ := map_eq_ok.mp h
      rw [written_text_eq_ok.mp hs, ofJson]
    | list items =>
      rw [toJsonWithin] at h
      obtain ⟨js, hjs, rfl⟩ := map_eq_ok.mp h
      rw [ofJson, itemsOfJson_of_itemsToJson hd.2 hjs]
    | map entries =>
      rw [toJsonWithin] at h
      obtain ⟨es, hes, rfl⟩ := map_eq_ok.mp h
      rw [ofJson, entriesOfJson_of_entriesToJson hd.2 hes]
    | float | bytes | message | unknown => exact hd.elim
    | record => exact hd.1.elim

theorem itemsOfJson_of_itemsToJson [Readers] {room : Nat} {ds : List Datum} (hds : EverywhereItems IsPlain ds)
    {js : List Json} (h : itemsToJson room ds = .ok js) : itemsOfJson js = ds := by
  cases ds with
  | nil => cases h; rfl
  | cons d rest =>
    obtain ⟨j, js', hj, hjs, rfl⟩ := itemsToJson_cons_eq_ok.mp h
    rw [itemsOfJson, ofJson_of_toJsonWithin hds.1 hj, itemsOfJson_of_itemsToJson hds.2 hjs]

theorem entriesOfJson_of_entriesToJson [Readers] {room : Nat} {es : List (Text × Datum)}
    (hes : EverywhereEntries IsPlain es) {js : List (String × Json)}
    (h : entriesToJson room es = .ok js) : entriesOfJson js = es := by
  cases es with
  | nil => cases h; rfl
  | cons e rest =>
    obtain ⟨k, d⟩ := e
    obtain ⟨s, j, js', rfl, hj, hjs, rfl⟩ := entriesToJson_cons_eq_ok.mp h
    rw [entriesOfJson, ofJson_of_toJsonWithin hes.1 hj, entriesOfJson_of_entriesToJson hes.2 hjs]

end

/-- Plain data can be written unless there is a lone surrogate in it, or it is nested too deep. -/
theorem exists_toJson_iff [Readers] {d : Datum} (hd : d.Everywhere IsPlain) :
    (∃ j, d.toJson = .ok j) ↔ d.Everywhere HasWholeText ∧ d.depth ≤ maxDepth := by
  have hplain : ∀ d : Datum, d.IsPlain → (d.IsWritable ↔ d.HasWholeText) := by
    intro d hd
    cases d with
    | null | bool | int | text | list | map => exact Iff.rfl
    | float | bytes | record | message | unknown => exact hd.elim
  rw [toJson, exists_toJsonWithin_iff, hd.congr hplain]

theorem itemsOfJson_eq_map (js : List Json) : itemsOfJson js = js.map ofJson := by
  induction js with
  | nil => rfl
  | cons j rest ih => rw [itemsOfJson, ih, List.map_cons]

theorem entriesOfJson_eq_map (es : List (String × Json)) :
    entriesOfJson es = es.map fun e => (.whole e.1, ofJson e.2) := by
  induction es with
  | nil => rfl
  | cons e rest ih => rw [entriesOfJson, ih, List.map_cons]

theorem keys_entriesOfJson (es : List (String × Json)) :
    Entries.keys (entriesOfJson es) = (Entries.keys es).map .whole := by
  rw [entriesOfJson_eq_map, Entries.keys, Entries.keys, List.map_map, List.map_map]
  rfl

mutual

theorem everywhere_isExact [Readers] {j : Json} (h : (ofJson j).Everywhere IsPlain) :
    j.Everywhere Json.IsExact := by
  cases j with
  | null | bool | str => trivial
  | int => exact h
  | float => exact h.elim
  | list items => exact ⟨trivial, everywhereItems_isExact h.2⟩
  | object entries =>
    refine ⟨?_, everywhereEntries_isExact h.2⟩
    have hkeys : (Entries.keys (entriesOfJson entries)).Nodup := h.1
    rw [keys_entriesOfJson] at hkeys
    exact hkeys.of_map _

theorem everywhereItems_isExact [Readers] {js : List Json} (h : EverywhereItems IsPlain (itemsOfJson js)) :
    Json.EverywhereItems Json.IsExact js := by
  cases js with
  | nil => trivial
  | cons j rest => exact ⟨everywhere_isExact h.1, everywhereItems_isExact h.2⟩

theorem everywhereEntries_isExact [Readers] {es : List (String × Json)}
    (h : EverywhereEntries IsPlain (entriesOfJson es)) : Json.EverywhereEntries Json.IsExact es := by
  cases es with
  | nil => trivial
  | cons e rest => exact ⟨everywhere_isExact h.1, everywhereEntries_isExact h.2⟩

end

mutual

theorem depth_ofJson (j : Json) : (ofJson j).depth = j.depth := by
  cases j with
  | null | bool | int | float | str => rfl
  | list items => rw [ofJson, depth, Json.depth, depthOfItems_itemsOfJson items]
  | object entries => rw [ofJson, depth, Json.depth, depthOfEntries_entriesOfJson entries]

theorem depthOfItems_itemsOfJson (js : List Json) :
    depthOfItems (itemsOfJson js) = Json.depthOfItems js := by
  cases js with
  | nil => rfl
  | cons j rest =>
    rw [itemsOfJson, depthOfItems, Json.depthOfItems, depth_ofJson j, depthOfItems_itemsOfJson rest]

theorem depthOfEntries_entriesOfJson (es : List (String × Json)) :
    depthOfEntries (entriesOfJson es) = Json.depthOfEntries es := by
  cases es with
  | nil => rfl
  | cons e rest =>
    obtain ⟨k, j⟩ := e
    rw [entriesOfJson, depthOfEntries, Json.depthOfEntries, depth_ofJson j,
      depthOfEntries_entriesOfJson rest]

end

end RemoteSigner.Datum
