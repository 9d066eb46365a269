import Mathlib
import RemoteSigner.Proofs.Datum.Written
import RemoteSigner.Proofs.Wire.RoundTrip

/-!
# Read directly or by way of data in memory

A value that was read can be checked as it is, or be turned into data in memory first, where no key is
repeated. Both verdicts accept the same value or list matching issues (`Shape.check_ofRead`): but for the
wording of two misfits the lists differ only in the issues about keys that belong to no field, which a
reader that keeps repeated keys lists once for each time and which may come first in an object.
-/

namespace RemoteSigner

/-! ## Entries -/

theorem strangers_eq_map_keys {σ : Type} (known : List Text) (entries : List (Text × σ)) :
    strangers known entries =
      ((Entries.keys entries).filter fun k => !known.contains k).map fun k => ⟨.extra, [.key k]⟩ := by
  rw [strangers, Entries.keys, List.filter_map, List.map_map]
  rfl

/-- The entries `fs` in memory of an object that was read with the entries `es`. No key is repeated if
`P`. -/
structure Entries.Stored (P : Prop) (es : List (Text × Json)) (fs : List (Text × Datum)) : Prop where
  isWhole : ∀ e ∈ es, e.1.IsWhole
  get?_whole : ∀ s, get? (.whole s) fs = (get? (.whole s) es).map Datum.ofRead
  mem_keys : ∀ k, k ∈ keys es ↔ k ∈ keys fs
  sublist : (keys fs).Sublist (keys es)
  keys_eq : P → keys es = keys fs

theorem Json.keys_sourceEntries (es : List (String × Json)) :
    Entries.keys (sourceEntries es) = (Entries.keys es).map .whole := by
  rw [sourceEntries, Entries.keys, Entries.keys, List.map_map, List.map_map]
  rfl

/-- The entries of an object become those of a map, put together. -/
theorem Entries.stored (es : List (String × Json)) :
    Stored (keys es).Nodup (Json.sourceEntries es)
      (Datum.entriesOfJson (ofPairs (Json.joinedEntries es))) where
  isWhole := Json.isWhole_of_mem_sourceEntries
  get?_whole s := by
    have hsource : Datum.entriesOfJson (ofPairs (Json.joinedEntries es)) =
        (Json.sourceEntries (ofPairs (Json.joinedEntries es))).map fun e => (e.1, Datum.ofJson e.2) := by
      rw [Datum.entriesOfJson_eq_map, Json.sourceEntries, List.map_map]
      rfl
    rw [hsource, get?_map_snd, Json.get?_sourceEntries_eq, get?_ofPairs, Json.joinedEntries_eq_map,
      get?_map_snd, Option.map_map, Json.get?_sourceEntries_eq]
    rfl
  mem_keys k := by
    rw [Datum.keys_entriesOfJson, Json.keys_sourceEntries]
    simp only [List.mem_map, mem_keys_ofPairs, Json.keys_joinedEntries]
  sublist := by
    rw [Datum.keys_entriesOfJson, Json.keys_sourceEntries]
    exact (Json.keys_joinedEntries es ▸ keys_ofPairs_sublist (Json.joinedEntries es)).map _
  keys_eq hnodup := by
    rw [Datum.keys_entriesOfJson, Json.keys_sourceEntries,
      ofPairs_of_nodup ((Json.keys_joinedEntries es).symm ▸ hnodup), Json.keys_joinedEntries]

namespace Entries.Stored

variable {P Q : Prop} {es : List (Text × Json)} {fs : List (Text × Datum)} (h : Stored P es fs)

include h

theorem mono (hQ : Q → P) : Stored Q es fs := { h with keys_eq := h.keys_eq ∘ hQ }

theorem isWhole_of_mem : ∀ e ∈ fs, e.1.IsWhole := by
  intro e he
  have hkey : e.1 ∈ keys es := (h.mem_keys _).mpr (List.mem_map_of_mem he)
  obtain ⟨e', he', hkey⟩ := List.mem_map.mp hkey
  exact hkey ▸ h.isWhole e' he'

theorem find?_eq (key : FieldKey) :
    key.find? fs = (key.find? es).map fun e => (e.1, Datum.ofRead e.2) := by
  unfold FieldKey.find?
  induction key.spellings with
  | nil => rfl
  | cons s rest ih =>
    rw [List.findSome?_cons, List.findSome?_cons, h.get?_whole]
    cases get? (.whole s) es with
    | none => exact ih
    | some v => rfl

theorem spellings_eq {τ : Type} (fields : Fields τ) : fields.spellings fs = fields.spellings es := by
  match fields with
  | .nil => rfl
  | .cons key _ _ rest =>
    rw [Fields.spellings, Fields.spellings, h.find?_eq, spellings_eq rest, Option.map_map]
    rfl

end Entries.Stored

/-! ## Issues regardless of the wording -/

/-- The misfit, worded as for JSON text. -/
def Misfit.inJson : Misfit → Misfit
  | .notInstance _ => .notObject
  | .notList => .notArray
  | m => m

def Issue.inJson (i : Issue) : Issue := { i with misfit := i.misfit.inJson }

theorem Issue.map_inJson_under (s : Step) (es : List Issue) :
    (es.map (Issue.under s)).map Issue.inJson = (es.map Issue.inJson).map (Issue.under s) := by
  rw [List.map_map, List.map_map]
  rfl

/-- Whether the issue is about a key that belongs to no field. -/
def Issue.isStranger (i : Issue) : Bool := i.misfit == .extra

theorem isStranger_of_mem_strangers {σ : Type} {known : List Text} {entries : List (Text × σ)} :
    ∀ i ∈ strangers known entries, i.isStranger := by
  intro i hi
  obtain ⟨e, -, rfl⟩ := List.mem_map.mp hi
  rfl

theorem Issue.filter_of_isStranger {es : List Issue} (h : ∀ i ∈ es, i.isStranger) :
    es.filter (!·.isStranger) = [] := by
  simpa [List.filter_eq_nil_iff] using h

theorem Issue.map_inJson_of_isStranger {es : List Issue} (h : ∀ i ∈ es, i.isStranger) :
    es.map Issue.inJson = es := by
  refine (List.map_congr_left fun i hi => ?_).trans (List.map_id es)
  obtain ⟨misfit, path⟩ := i
  obtain rfl : misfit = .extra := eq_of_beq (h _ hi)
  rfl

theorem Verdict.each_cons {α : Type} (i : Nat) (v : Verdict α) (vs : List (Verdict α)) :
    each i (v :: vs) = (fun p => p.1 :: p.2) <$> both (v.under (.index i)) (each (i + 1) vs) := by
  rw [each]
  cases both (v.under (.index i)) (each (i + 1) vs) <;> rfl

theorem Verdict.also_of_ne_nil {α : Type} (first : Bool) (a : α) {more : List Issue} (h : more ≠ []) :
    Verdict.also first (.ok a) more = .error more := by
  cases more with
  | nil => exact absurd rfl h
  | cons i is => rfl

variable [Readers]

/-- The issues `es` of a value that was read, and the issues `fs` of the same value in memory. No key is
repeated in the value if `P`. -/
structure Issue.Match (P : Prop) (es fs : List Issue) : Prop where
  others : es.filter (!·.isStranger) = fs.filter (!·.isStranger)
  mem : ∀ i, i ∈ es ↔ i ∈ fs
  sublist : Readers.strangersFirst = false → fs.Sublist es
  length : P → es.length = fs.length

namespace Issue.Match

variable {P Q : Prop} {es es' fs fs' more more' : List Issue}

theorem refl (P : Prop) (es : List Issue) : Match P es es :=
  ⟨rfl, fun _ => .rfl, fun _ => .refl _, fun _ => rfl⟩

theorem mono (hQ : Q → P) (h : Match P es fs) : Match Q es fs :=
  ⟨h.others, h.mem, h.sublist, h.length ∘ hQ⟩

theorem append (h : Match P es fs) (h' : Match P es' fs') : Match P (es ++ es') (fs ++ fs') where
  others := by rw [List.filter_append, List.filter_append, h.others, h'.others]
  mem i := by rw [List.mem_append, List.mem_append, h.mem, h'.mem]
  sublist hfirst := (h.sublist hfirst).append (h'.sublist hfirst)
  length hP := by rw [List.length_append, List.length_append, h.length hP, h'.length hP]

theorem under (h : Match P es fs) (s : Step) :
    Match P (es.map (Issue.under s)) (fs.map (Issue.under s)) where
  others := by
    rw [List.filter_map, List.filter_map]
    exact congrArg _ h.others
  mem i := by simp only [List.mem_map, h.mem]
  sublist hfirst := (h.sublist hfirst).map _
  length hP := by rw [List.length_map, List.length_map, h.length hP]

/-- Strangers come last in memory, and last or first where a value was read. -/
theorem also (h : Match P es fs) (hmore : Match P more more') (hstranger : ∀ i ∈ more, i.isStranger) :
    Match P (if Readers.strangersFirst then more ++ es else es ++ more) (fs ++ more') := by
  cases hfirst : Readers.strangersFirst with
  | false => exact h.append hmore
  | true =>
    have hnone := Issue.filter_of_isStranger hstranger
    have hlength : P → (more ++ es).length = (fs ++ more').length := fun hP => by
      rw [List.length_append, List.length_append, h.length hP, hmore.length hP, Nat.add_comm]
    refine ⟨?_, fun i => ?_, fun h => ?_, hlength⟩
    · rw [if_pos rfl, List.filter_append, List.filter_append, h.others, ← hmore.others, hnone,
        List.nil_append, List.append_nil]
    · rw [if_pos rfl, List.mem_append, List.mem_append, h.mem, hmore.mem, or_comm]
    · rw [hfirst] at h
      cases h

theorem nil_iff (h : Match P es fs) : es = [] ↔ fs = [] := by
  rw [List.eq_nil_iff_forall_not_mem, List.eq_nil_iff_forall_not_mem]
  exact forall_congr' fun i => not_congr (h.mem i)

end Issue.Match

/-! ## Verdicts -/

/-- The verdict on a value that was read, and the verdict on the same value in memory. -/
inductive Verdict.Matches (P : Prop) {α : Type} : Verdict α → Verdict α → Prop
  | ok (a : α) : Matches P (.ok a) (.ok a)
  | error {es fs : List Issue} (h : Issue.Match P (es.map Issue.inJson) (fs.map Issue.inJson)) :
      Matches P (.error es) (.error fs)

namespace Verdict.Matches

variable {P Q : Prop} {α β : Type} {v w : Verdict α} {v' w' : Verdict β}

theorem refl (P : Prop) (v : Verdict α) : Matches P v v := by
  cases v with
  | ok a => exact .ok a
  | error es => exact .error (.refl P _)

theorem mono (hQ : Q → P) (h : Matches P v w) : Matches Q v w := by
  cases h with
  | ok a => exact .ok a
  | error h => exact .error (h.mono hQ)

theorem eq_ok_iff (h : Matches P v w) {a : α} : w = .ok a ↔ v = .ok a := by
  cases h with
  | ok a' => exact .rfl
  | error h => exact ⟨(nomatch ·), (nomatch ·)⟩

theorem map (f : α → β) (h : Matches P v w) : Matches P (f <$> v) (f <$> w) := by
  cases h with
  | ok a => exact .ok (f a)
  | error h => exact .error h

theorem under (s : Step) (h : Matches P v w) : Matches P (v.under s) (w.under s) := by
  cases h with
  | ok a => exact .ok a
  | error h =>
    refine .error ?_
    rw [Issue.map_inJson_under, Issue.map_inJson_under]
    exact h.under s

theorem both (h : Matches P v w) (h' : Matches P v' w') : Matches P (v.both v') (w.both w') := by
  cases h with
  | ok a =>
    cases h' with
    | ok b => exact .ok (a, b)
    | error h' => exact .error h'
  | error h =>
    cases h' with
    | ok b => exact .error h
    | error h' =>
      refine .error ?_
      rw [List.map_append, List.map_append]
      exact h.append h'

theorem each {vs ws : List (Verdict α)} (h : List.Forall₂ (Matches P) vs ws) (i : Nat) :
    Matches P (Verdict.each i vs) (Verdict.each i ws) := by
  induction h generalizing i with
  | nil => exact .ok []
  | cons hv _ ih =>
    rw [each_cons, each_cons]
    exact ((hv.under (.index i)).both (ih (i + 1))).map _

theorem conclude {ρ : Type} (form : Form ρ α) (h : Matches P v w) :
    Matches P (form.conclude v) (form.conclude w) := by
  cases h with
  | ok parts => exact .refl P _
  | error h => exact .error h

theorem also (h : Matches P v w) {more more' : List Issue} (hmore : Issue.Match P more more')
    (hstranger : ∀ i ∈ more, i.isStranger) :
    Matches P (v.also Readers.strangersFirst more) (w.also false more') := by
  have hmap : more.map Issue.inJson = more := Issue.map_inJson_of_isStranger hstranger
  have hmap' : more'.map Issue.inJson = more' :=
    Issue.map_inJson_of_isStranger fun i hi => hstranger i ((hmore.mem i).mpr hi)
  cases h with
  | ok a =>
    by_cases hnil : more = []
    · rw [hnil, hmore.nil_iff.mp hnil]
      exact .ok a
    · rw [also_of_ne_nil _ a hnil, also_of_ne_nil _ a (hmore.nil_iff.not.mp hnil)]
      exact .error (hmap.symm ▸ hmap'.symm ▸ hmore)
  | @error es fs h =>
    refine .error ?_
    show Issue.Match P (List.map _ (if Readers.strangersFirst then more ++ es else es ++ more))
      ((fs ++ more').map Issue.inJson)
    rw [apply_ite (List.map Issue.inJson), List.map_append, List.map_append, List.map_append, hmap, hmap']
    exact h.also hmore hstranger

end Verdict.Matches

/-! ## Records -/

namespace Entries.Stored

variable {P : Prop} {es : List (Text × Json)} {fs : List (Text × Datum)} (h : Stored P es fs)

include h

/-- The same keys are strangers, more often perhaps where the object was read. -/
theorem strangers (known : List Text) :
    Issue.Match P (strangers known es) (RemoteSigner.strangers known fs) := by
  refine ⟨?_, fun i => ?_, fun _ => ?_, fun hP => ?_⟩
  · rw [Issue.filter_of_isStranger isStranger_of_mem_strangers,
      Issue.filter_of_isStranger isStranger_of_mem_strangers]
  · simp only [strangers_eq_map_keys, List.mem_map, List.mem_filter, h.mem_keys]
  · rw [strangers_eq_map_keys, strangers_eq_map_keys]
    exact (h.sublist.filter _).map _
  · rw [strangers_eq_map_keys, strangers_eq_map_keys, h.keys_eq hP]

theorem judge {τ : Type} {v w : Verdict τ} (hv : v.Matches P w) (known : List Text) :
    Verdict.Matches P (judgeEntries Readers.strangersFirst v known es) (judgeEntries false w known fs) := by
  rw [judgeEntries, judgeEntries, if_pos (List.all_eq_true.mpr h.isWhole),
    if_pos (List.all_eq_true.mpr h.isWhole_of_mem)]
  exact hv.also (h.strangers known) isStranger_of_mem_strangers

end Entries.Stored

/-! ## What a check asks of a value -/

section

variable (j : Json)

theorem integer_ofRead : Source.integer (Datum.ofRead j) = Source.integer j := by
  cases j <;> rfl

theorem text_ofRead : Source.text (Datum.ofRead j) = Source.text j := by
  cases j <;> rfl

theorem word?_ofRead : Source.word? (Datum.ofRead j) = Source.word? j := by
  cases j <;> rfl

theorem isNull_ofRead : Source.isNull (Datum.ofRead j) = Source.isNull j := by
  cases j <;> rfl

end

/-! ## Checks -/

mutual

/-- The verdicts on a value as it was read and on the same value in memory match. -/
theorem Shape.check_ofRead {α : Type} (s : Shape α) (j : Json) :
    Verdict.Matches (j.Everywhere Json.HasDistinctKeys) (s.check j) (s.check (Datum.ofRead j)) := by
  match s with
  | .integer | .count =>
    rw [Shape.check, Shape.check, integer_ofRead]
    exact .refl ..
  | .text | .filled | .hex =>
    rw [Shape.check, Shape.check, text_ofRead]
    exact .refl ..
  | .choice c =>
    rw [Shape.check, Shape.check, word?_ofRead]
    exact .refl ..
  | .nullable s =>
    rw [Shape.check, Shape.check, isNull_ofRead]
    split_ifs
    · exact .refl ..
    · exact (s.check_ofRead j).map some
  | .list s =>
    cases j with
    | list items =>
      have hitems : (Datum.itemsOfJson (Json.joinedItems items)).map s.check =
          items.map fun i => s.check (Datum.ofRead i) := by
        rw [Datum.itemsOfJson_eq_map, Json.joinedItems_eq_map, List.map_map, List.map_map]
        rfl
      show Verdict.Matches _ (.each 0 (items.map s.check))
        (.each 0 ((Datum.itemsOfJson (Json.joinedItems items)).map s.check))
      rw [hitems]
      refine .each ?_ 0
      rw [List.forall₂_map_left_iff, List.forall₂_map_right_iff, List.forall₂_same]
      exact fun i hi => (s.check_ofRead i).mono fun h => (Json.everywhere_list.mp h).2 i hi
    | null | bool | int | float | str | object => exact .error (.refl ..)
  | .record form fields =>
    cases j with
    | object es =>
      have hstored : Entries.Stored ((Json.object es).Everywhere Json.HasDistinctKeys) _ _ :=
        (Entries.stored es).mono fun h => h.1
      have hvalues : (Json.object es).Everywhere Json.HasDistinctKeys →
          ∀ e ∈ Json.sourceEntries es, e.2.Everywhere Json.HasDistinctKeys := by
        intro h e he
        obtain ⟨e', he', rfl⟩ := List.mem_map.mp he
        exact (Json.everywhere_object.mp h).2 e' he'
      let fs := Datum.entriesOfJson (Entries.ofPairs (Json.joinedEntries es))
      show Verdict.Matches _ (form.conclude (judgeEntries _ _ _ _))
        (form.conclude (judgeEntries false (fields.check fs) (fields.spellings fs) fs))
      rw [hstored.spellings_eq]
      exact (hstored.judge (fields.check_ofRead hstored hvalues) _).conclude form
    | null | bool | int | float | str | list => exact .error (.refl ..)

theorem Fields.check_ofRead {τ : Type} (fields : Fields τ) {P : Prop} {es : List (Text × Json)}
    {fs : List (Text × Datum)} (h : Entries.Stored P es fs)
    (hvalues : P → ∀ e ∈ es, e.2.Everywhere Json.HasDistinctKeys) :
    Verdict.Matches P (fields.check es) (fields.check fs) := by
  match fields with
  | .nil => exact .refl ..
  | .cons key fallback shape rest =>
    rw [Fields.check, Fields.check]
    refine Verdict.Matches.both ?_ (rest.check_ofRead h hvalues)
    unfold checkField
    rw [h.find?_eq]
    cases hfind : key.find? es with
    | none => exact .refl ..
    | some e =>
      exact ((shape.check_ofRead e.2).mono fun hP => hvalues hP _ (FieldKey.mem_of_find? hfind)).under _

end

/-- The same values are accepted. -/
theorem Shape.check_ofRead_eq_ok {α : Type} (s : Shape α) {j : Json} {a : α} :
    s.check (Datum.ofRead j) = .ok a ↔ s.check j = .ok a :=
  (s.check_ofRead j).eq_ok_iff

end RemoteSigner
