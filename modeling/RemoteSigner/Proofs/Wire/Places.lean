import Mathlib
import RemoteSigner.Proofs.Wire.Agreement
import RemoteSigner.Proofs.Wire.Strangers

/-!
# One issue at a place

No two issues with a value in memory stand at the same place (`Shape.nodup_places`), if no two fields of a
record have a name in common: a path goes into one item or one field, or ends at a key of no field.
-/

namespace RemoteSigner

/-! ## The issues of a verdict -/

namespace Verdict

variable {α β : Type}

/-- What is wrong, nothing if the value is accepted. -/
def issues : Verdict α → List Issue
  | .ok _ => []
  | .error es => es

/-- The places of the issues. -/
def places (v : Verdict α) : List (List Step) := v.issues.map Issue.path

theorem places_map (f : α → β) (v : Verdict α) : (f <$> v).places = v.places := by
  cases v <;> rfl

theorem places_under (s : Step) (v : Verdict α) : (v.under s).places = v.places.map (s :: ·) := by
  cases v with
  | ok a => rfl
  | error es =>
    show (es.map (Issue.under s)).map Issue.path = (es.map Issue.path).map _
    rw [List.map_map, List.map_map]
    rfl

theorem places_both (v : Verdict α) (w : Verdict β) : (both v w).places = v.places ++ w.places := by
  cases v with
  | ok a => cases w <;> rfl
  | error es =>
    cases w with
    | ok b => exact (List.append_nil _).symm
    | error fs => exact List.map_append ..

theorem places_also (v : Verdict α) (more : List Issue) :
    (v.also false more).places = v.places ++ more.map Issue.path := by
  cases v with
  | ok a => cases more <;> rfl
  | error es => exact List.map_append ..

theorem nodup_places_ofMisfit (x : Except Misfit α) : (ofMisfit x).places.Nodup := by
  cases x with
  | ok a => exact List.nodup_nil
  | error m => exact List.nodup_singleton _

theorem nodup_places_conclude {ρ : Type} (form : Form ρ α) {v : Verdict α} (h : v.places.Nodup) :
    (form.conclude v).places.Nodup := by
  cases v with
  | error es => exact h
  | ok parts =>
    unfold Form.conclude
    dsimp only
    cases form.build parts with
    | ok r => exact List.nodup_nil
    | error rule => exact List.nodup_singleton _

/-- The places in a list start with the positions of its members. -/
theorem nodup_places_each {vs : List (Verdict α)} (h : ∀ v ∈ vs, v.places.Nodup) (i : Nat) :
    (each i vs).places.Nodup ∧ ∀ path ∈ (each i vs).places, ∃ k ≥ i, path.head? = some (.index k) := by
  induction vs generalizing i with
  | nil => exact ⟨List.nodup_nil, List.forall_mem_nil _⟩
  | cons v vs ih =>
    obtain ⟨hv, hvs⟩ := List.forall_mem_cons.mp h
    obtain ⟨hnodup, hheads⟩ := ih hvs (i + 1)
    rw [each_cons, places_map, places_both, places_under]
    have hhead : ∀ path ∈ v.places.map (Step.index i :: ·), path.head? = some (.index i) := by
      intro path hpath
      obtain ⟨path, -, rfl⟩ := List.mem_map.mp hpath
      rfl
    refine ⟨List.nodup_append.mpr ⟨hv.map (List.cons_injective), hnodup, ?_⟩, ?_⟩
    · rintro path hpath _ hpath' rfl
      obtain ⟨k, hk, hpath'⟩ := hheads path hpath'
      cases (hhead path hpath).symm.trans hpath'
      exact absurd hk (by omega)
    · refine List.forall_mem_append.mpr ⟨fun path hpath => ⟨i, le_rfl, hhead path hpath⟩, ?_⟩
      intro path hpath
      obtain ⟨k, hk, hpath⟩ := hheads path hpath
      exact ⟨k, by omega, hpath⟩

end Verdict

/-! ## Fields -/

section

variable {σ : Type} {entries : List (Text × σ)}

theorem FieldKey.written_mem_spellings (key : FieldKey) : key.written ∈ key.spellings := by
  obtain ⟨name, wireName⟩ := key
  cases wireName <;> exact List.mem_cons_self

theorem FieldKey.not_mem_keys_of_find? {key : FieldKey} (h : key.find? entries = none) :
    .whole key.written ∉ Entries.keys entries := by
  have hnone := List.findSome?_eq_none_iff.mp h _ key.written_mem_spellings
  exact Entries.get?_eq_none.mp (Option.map_eq_none_iff.mp hnone)

/-- The place is in a field of one of these names, and that is one that the fields use if it is a key of the
entries. -/
def InField (names : List String) (used : List Text) (entries : List (Text × σ)) (path : List Step) :
    Prop :=
  ∃ n ∈ names, path.head? = some (.key (.whole n)) ∧
    (.whole n ∈ Entries.keys entries → .whole n ∈ used)

theorem inField_of_mem_places {α : Type} (key : FieldKey) (fallback : Option α)
    (check : σ → Verdict α) : ∀ path ∈ (checkField key fallback check entries).places,
      InField key.spellings ((key.find? entries).map fun e => Text.whole e.1).toList entries path := by
  intro path hpath
  unfold checkField at hpath
  split at hpath
  · rename_i s v hfind
    rw [Verdict.places_under] at hpath
    obtain ⟨path, -, rfl⟩ := List.mem_map.mp hpath
    refine ⟨s, FieldKey.spelling_of_find? hfind, rfl, fun _ => ?_⟩
    rw [hfind]
    exact List.mem_singleton_self _
  · rename_i hfind
    split at hpath
    · cases hpath
    · obtain rfl := List.mem_singleton.mp hpath
      exact ⟨key.written, key.written_mem_spellings, rfl,
        fun h => absurd h (FieldKey.not_mem_keys_of_find? hfind)⟩

theorem Fields.inField_of_mem_places [Source σ] {τ : Type} (fields : Fields τ) :
    ∀ path ∈ (fields.check entries).places, InField fields.names (fields.spellings entries) entries path := by
  cases fields with
  | nil => exact List.forall_mem_nil _
  | cons key fallback shape rest =>
    rw [check, Verdict.places_both]
    refine List.forall_mem_append.mpr ⟨fun path hpath => ?_, fun path hpath => ?_⟩
    · obtain ⟨n, hn, hhead, hused⟩ := RemoteSigner.inField_of_mem_places key fallback _ path hpath
      exact ⟨n, List.mem_append_left _ hn, hhead, fun h => List.mem_append_left _ (hused h)⟩
    · obtain ⟨n, hn, hhead, hused⟩ := rest.inField_of_mem_places path hpath
      exact ⟨n, List.mem_append_right _ hn, hhead, fun h => List.mem_append_right _ (hused h)⟩

/-- No stranger stands in a field, and none stands twice if no key does. -/
theorem nodup_places_judgeEntries {τ : Type} {v : Verdict τ} {names : List String} {known : List Text}
    (hv : v.places.Nodup) (hfield : ∀ path ∈ v.places, InField names known entries path)
    (hkeys : (Entries.keys entries).Nodup) : (judgeEntries false v known entries).places.Nodup := by
  unfold judgeEntries
  split_ifs
  · have hstrangers : (strangers known entries).map Issue.path =
        ((Entries.keys entries).filter fun k => !known.contains k).map fun k => [.key k] := by
      rw [strangers_eq_map_keys, List.map_map]
      rfl
    rw [Verdict.places_also, hstrangers]
    refine List.nodup_append.mpr ⟨hv, (hkeys.filter _).map fun _ _ h => ?_, ?_⟩
    · cases h
      rfl
    · rintro path hpath _ hpath' rfl
      obtain ⟨n, -, hhead, hused⟩ := hfield path hpath
      obtain ⟨k, hk, rfl⟩ := List.mem_map.mp hpath'
      cases hhead
      obtain ⟨hmem, hunknown⟩ := List.mem_filter.mp hk
      simp [hused hmem] at hunknown
  · exact List.nodup_singleton _

end

/-! ## Values in memory -/

variable [Readers]

mutual

/-- No two issues with a value in memory stand at the same place. -/
theorem Shape.nodup_places {α : Type} (s : Shape α) (hs : s.HasDistinctNames) {j : Json}
    (hj : j.Everywhere Json.HasDistinctKeys) : (s.check (Datum.ofJson j)).places.Nodup := by
  match s with
  | .integer | .count | .text | .filled | .hex => exact Verdict.nodup_places_ofMisfit _
  | .choice c =>
    rw [Shape.check]
    split
    · exact Verdict.nodup_places_ofMisfit _
    · exact List.nodup_singleton _
  | .nullable s =>
    rw [Shape.check]
    split_ifs
    · exact List.nodup_nil
    · rw [Verdict.places_map]
      exact s.nodup_places hs hj
  | .list s =>
    cases j with
    | list items =>
      have hitems : ∀ v ∈ (Datum.itemsOfJson items).map s.check, v.places.Nodup := by
        rw [Datum.itemsOfJson_eq_map, List.map_map]
        refine List.forall_mem_map.mpr fun i hi => ?_
        exact s.nodup_places hs ((Json.everywhere_list.mp hj).2 i hi)
      exact (Verdict.nodup_places_each hitems 0).1
    | null | bool | int | float | str | object => exact List.nodup_singleton _
  | .record form fields =>
    cases j with
    | object es =>
      obtain ⟨hkeys, hvalues⟩ := Json.everywhere_object.mp hj
      have hkeys : (Entries.keys (Datum.entriesOfJson es)).Nodup := by
        rw [Datum.keys_entriesOfJson]
        exact hkeys.map fun _ _ => Text.whole.inj
      have hentries : ∀ e ∈ Datum.entriesOfJson es, ∃ j : Json, e.2 = .ofJson j ∧
          j.Everywhere Json.HasDistinctKeys := by
        rw [Datum.entriesOfJson_eq_map]
        exact List.forall_mem_map.mpr fun e he => ⟨e.2, rfl, hvalues e he⟩
      exact Verdict.nodup_places_conclude form (nodup_places_judgeEntries
        (fields.nodup_places hs.1 hs.2 hentries) fields.inField_of_mem_places hkeys)
    | null | bool | int | float | str | list => exact List.nodup_singleton _

theorem Fields.nodup_places {τ : Type} (fields : Fields τ) (hnames : fields.names.Nodup)
    (hs : fields.HaveDistinctNames) {entries : List (Text × Datum)}
    (hentries : ∀ e ∈ entries, ∃ j : Json, e.2 = .ofJson j ∧ j.Everywhere Json.HasDistinctKeys) :
    (fields.check entries).places.Nodup := by
  match fields with
  | .nil => exact List.nodup_nil
  | .cons key fallback shape rest =>
    obtain ⟨-, hnames', hdisjoint⟩ := List.nodup_append.mp hnames
    have hfield : (checkField key fallback shape.check entries).places.Nodup := by
      unfold checkField
      split
      · rename_i s v hfind
        obtain ⟨j, hv, hj⟩ := hentries _ (FieldKey.mem_of_find? hfind)
        obtain rfl : v = .ofJson j := hv
        rw [Verdict.places_under]
        exact (shape.nodup_places hs.1 hj).map List.cons_injective
      · split
        · exact List.nodup_nil
        · exact List.nodup_singleton _
    rw [Fields.check, Verdict.places_both]
    refine List.nodup_append.mpr ⟨hfield, rest.nodup_places hnames' hs.2 hentries, ?_⟩
    -- the places start with names of different fields
    rintro path hpath _ hpath' rfl
    obtain ⟨n, hn, hhead, -⟩ := inField_of_mem_places key fallback _ path hpath
    obtain ⟨n', hn', hhead', -⟩ := rest.inField_of_mem_places path hpath'
    cases hhead.symm.trans hhead'
    exact hdisjoint n hn n hn' rfl

end

end RemoteSigner
