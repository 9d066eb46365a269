import Mathlib
import RemoteSigner.Signer.Shapes
import RemoteSigner.Proofs.Wire.RoundTrip

/-!
# What is accepted from JSON

A record is accepted if it is an object whose keys are all used by fields and whose fields are accepted
(`Shape.check_record_eq_ok`); an outcome, if it has one side besides (`Outcome.check_ok_eq_ok`,
`Outcome.check_err_eq_ok`). Two shapes are `Shape.Apart` if nothing is accepted as both: a key that one
of them needs and the other does not know tells them apart (`Shape.apart_of_needs`).
-/

namespace RemoteSigner

/-! ## Records -/

theorem checkField_eq_ok {σ α : Type} {key : FieldKey} {fallback : Option α} {check : σ → Verdict α}
    {entries : List (Text × σ)} {a : α} : checkField key fallback check entries = .ok a ↔
      (∃ e, key.find? entries = some e ∧ check e.2 = .ok a) ∨
        key.find? entries = none ∧ fallback = some a := by
  unfold checkField
  cases key.find? entries with
  | some e => simp [Verdict.under_eq_ok]
  | none => cases fallback <;> simp

variable [Readers]

/-- A record is accepted if it is an object whose keys are all used by fields and whose fields are
accepted. -/
theorem Shape.check_record_eq_ok {ρ τ : Type} {form : Form ρ τ} {fields : Fields τ} {j : Json} {r : ρ} :
    (Shape.record form fields).check j = .ok r ↔ ∃ es, j = .object es ∧
      (∀ e ∈ Json.sourceEntries es, e.1 ∈ fields.spellings (Json.sourceEntries es)) ∧
      fields.check (Json.sourceEntries es) = .ok (form.parts r) := by
  rw [Shape.check]
  cases j with
  | object es =>
    show form.conclude (judgeEntries _ _ _ (Json.sourceEntries es)) = .ok r ↔ _
    rw [Form.conclude_eq_ok, judgeEntries_eq_ok,
      and_iff_right Json.isWhole_of_mem_sourceEntries]
    constructor
    · intro h
      exact ⟨es, rfl, h⟩
    · rintro ⟨_, h, hfields⟩
      cases h
      exact hfields
  | null | bool _ | int _ | float _ | str _ | list _ =>
    exact ⟨(nomatch ·), fun ⟨_, h, _⟩ => nomatch h⟩

theorem Shape.check_list_eq_ok {α : Type} {s : Shape α} {j : Json} {as : List α} :
    (Shape.list s).check j = .ok as ↔
      ∃ items, j = .list items ∧ List.Forall₂ (fun i a => s.check i = .ok a) items as := by
  rw [Shape.check]
  cases j with
  | list items =>
    show Verdict.each 0 (items.map s.check) = .ok as ↔ _
    rw [Verdict.each_eq_ok, List.forall₂_map_left_iff]
    constructor
    · intro h
      exact ⟨items, rfl, h⟩
    · rintro ⟨_, h, hitems⟩
      cases h
      exact hitems
  | null | bool _ | int _ | float _ | str _ | object _ =>
    exact ⟨(nomatch ·), fun ⟨_, h, _⟩ => nomatch h⟩

/-! ## Keys -/

/-- The names that fields may stand under. -/
def Fields.names {τ : Type} : Fields τ → List String
  | .nil => []
  | .cons key _ _ rest => key.spellings ++ rest.names

/-- The names of the fields that have to be there. -/
def Fields.needs {τ : Type} : Fields τ → List String
  | .cons ⟨name, none⟩ none _ rest => name :: rest.needs
  | .cons _ _ _ rest => rest.needs
  | .nil => []

omit [Readers] in
theorem FieldKey.spelling_of_find? {σ : Type} {key : FieldKey} {entries : List (Text × σ)}
    {e : String × σ} (h : key.find? entries = some e) : e.1 ∈ key.spellings := by
  obtain ⟨s, hs, he⟩ := List.exists_of_findSome?_eq_some h
  obtain ⟨v, -, rfl⟩ := Option.map_eq_some_iff.mp he
  exact hs

omit [Readers] in
theorem Fields.mem_names {σ τ : Type} (fields : Fields τ) {entries : List (Text × σ)} {k : String}
    (h : .whole k ∈ fields.spellings entries) : k ∈ fields.names := by
  match fields with
  | .nil => cases h
  | .cons key _ _ rest =>
    rw [spellings] at h
    rcases List.mem_append.mp h with h | h
    · obtain ⟨t, ht, hk⟩ := Option.map_eq_some_iff.mp (Option.mem_toList.mp h)
      cases hk
      exact List.mem_append.mpr (.inl (FieldKey.spelling_of_find? ht))
    · exact List.mem_append.mpr (.inr (rest.mem_names h))

/-- Fields that have to be there are there if all fields are accepted. -/
theorem Fields.mem_keys_of_needs {τ : Type} (fields : Fields τ) {es : List (String × Json)} {t : τ}
    (h : fields.check (Json.sourceEntries es) = .ok t) :
    ∀ k ∈ fields.needs, k ∈ Entries.keys es := by
  match fields, t with
  | .nil, _ => exact fun k hk => nomatch hk
  | .cons ⟨name, some wireName⟩ fallback shape rest, (a, t) =>
    exact rest.mem_keys_of_needs (Verdict.both_eq_ok.mp h).2
  | .cons ⟨name, none⟩ (some fallback) shape rest, (a, t) =>
    exact rest.mem_keys_of_needs (Verdict.both_eq_ok.mp h).2
  | .cons ⟨name, none⟩ none shape rest, (a, t) =>
    obtain ⟨hfield, hrest⟩ := Verdict.both_eq_ok.mp h
    refine List.forall_mem_cons.mpr ⟨?_, rest.mem_keys_of_needs hrest⟩
    rcases checkField_eq_ok.mp hfield with ⟨e, he, -⟩ | ⟨-, h⟩
    · obtain ⟨e', he', hmem⟩ := List.mem_map.mp (FieldKey.mem_of_find? he)
      have hname : e.1 = name := List.mem_singleton.mp (FieldKey.spelling_of_find? he)
      have hkey : e'.1 = name := (Text.whole.inj (congrArg Prod.fst hmem)).trans hname
      exact hkey ▸ List.mem_map_of_mem he'
    · cases h

/-- The names that an object of the shape may have as keys. -/
def Shape.names {α : Type} : Shape α → List String
  | .nullable s => s.names
  | .record _ fields => fields.names
  | _ => []

/-- The names that an object of the shape needs to have as keys. -/
def Shape.needs {α : Type} : Shape α → List String
  | .nullable s => s.needs
  | .record _ fields => fields.needs
  | _ => []

/-- An accepted object has the keys that its shape needs, and none that it does not know. -/
theorem Shape.keys_of_check {α : Type} (s : Shape α) {es : List (String × Json)} {a : α}
    (h : s.check (Json.object es) = .ok a) :
    (∀ k ∈ s.needs, k ∈ Entries.keys es) ∧ ∀ k ∈ Entries.keys es, k ∈ s.names := by
  match s, a with
  | .integer, _ | .count, _ | .text, _ | .filled, _ | .hex, _ | .choice _, _ | .list _, _ => cases h
  | .nullable s, _ =>
    obtain ⟨a, ha, -⟩ := map_eq_ok.mp h
    exact s.keys_of_check ha
  | .record form fields, r =>
    obtain ⟨_, hes, hknown, hfields⟩ := check_record_eq_ok.mp h
    cases hes
    refine ⟨fields.mem_keys_of_needs hfields, ?_⟩
    intro k hk
    obtain ⟨e, he, rfl⟩ := List.mem_map.mp hk
    exact fields.mem_names (hknown _ (List.mem_map_of_mem he))

/-! ## Shapes apart -/

/-- No value is accepted as both shapes. -/
def Shape.Apart {α β : Type} (s : Shape α) (s' : Shape β) : Prop :=
  ∀ (j : Json) a b, s.check j = .ok a → s'.check j ≠ .ok b

theorem Shape.Apart.symm {α β : Type} {s : Shape α} {s' : Shape β} (h : s.Apart s') : s'.Apart s :=
  fun j b a hb ha => h j a b ha hb

/-- Whether the shape is that of a record. -/
def Shape.IsRecord {α : Type} : Shape α → Prop
  | .record _ _ => True
  | _ => False

theorem Shape.IsRecord.exists_object {α : Type} {s : Shape α} (hs : s.IsRecord) {j : Json}
    {a : α} (h : s.check j = .ok a) : ∃ es, j = .object es := by
  match s with
  | .record form fields =>
    obtain ⟨es, hes, -⟩ := check_record_eq_ok.mp h
    exact ⟨es, hes⟩

/-- A key that one shape needs and a record does not know tells them apart. -/
theorem Shape.apart_of_needs {α β : Type} {s : Shape α} {s' : Shape β} (hs' : s'.IsRecord)
    {k : String} (hk : k ∈ s.needs) (hk' : k ∉ s'.names) : s.Apart s' := by
  intro j a b ha hb
  obtain ⟨es, rfl⟩ := hs'.exists_object hb
  exact hk' ((s'.keys_of_check hb).2 k ((s.keys_of_check ha).1 k hk))

/-- Of lists whose items are apart only the empty one is accepted as both. -/
theorem Shape.Apart.list {α β : Type} {s : Shape α} {s' : Shape β} (h : s.Apart s') {j : Json}
    {as : List α} {bs : List β} (ha : (Shape.list s).check j = .ok as)
    (hb : (Shape.list s').check j = .ok bs) : as = [] ∧ bs = [] := by
  obtain ⟨items, rfl, has⟩ := check_list_eq_ok.mp ha
  obtain ⟨_, hitems, hbs⟩ := check_list_eq_ok.mp hb
  cases hitems
  cases has with
  | nil =>
    cases hbs
    exact ⟨rfl, rfl⟩
  | cons hi _ =>
    cases hbs with
    | cons hi' _ => exact absurd hi' (h _ _ _ hi)

theorem Shape.check_list_nil {α : Type} {s : Shape α} {j : Json} :
    (Shape.list s).check j = .ok [] ↔ j = .list [] := by
  rw [check_list_eq_ok]
  constructor
  · rintro ⟨items, rfl, h⟩
    cases h
    rfl
  · rintro rfl
    exact ⟨[], rfl, .nil⟩

theorem Shape.check_single_eq_ok {ρ α : Type} {form : Form ρ (α × Unit)} {key : FieldKey}
    {s : Shape α} {j : Json} {r : ρ} :
    (Shape.record form (.cons key none s .nil)).check j = .ok r ↔ ∃ es e, j = .object es ∧
      (∀ e' ∈ Json.sourceEntries es, e'.1 = .whole e.1) ∧
      key.find? (Json.sourceEntries es) = some e ∧ s.check e.2 = .ok (form.parts r).1 := by
  rw [check_record_eq_ok]
  obtain ⟨a, ⟨⟩⟩ := form.parts r
  constructor
  · rintro ⟨es, rfl, hknown, hfields⟩
    obtain ⟨hfield, -⟩ := Verdict.both_eq_ok.mp hfields
    rcases checkField_eq_ok.mp hfield with ⟨e, he, ha⟩ | ⟨-, h⟩
    · refine ⟨es, e, rfl, ?_, he, ha⟩
      intro e' he'
      have := hknown e' he'
      rw [Fields.spellings, he] at this
      exact List.mem_singleton.mp this
    · cases h
  · rintro ⟨es, e, rfl, hknown, he, ha⟩
    refine ⟨es, rfl, ?_, Verdict.both_eq_ok.mpr ⟨checkField_eq_ok.mpr (.inl ⟨e, he, ha⟩), rfl⟩⟩
    intro e' he'
    rw [Fields.spellings, he, hknown e' he']
    exact List.mem_singleton.mpr rfl

/-! ## Outcomes -/

namespace Outcome

/-- The key of the success. -/
def okKey : FieldKey := ⟨"ok", some "Ok"⟩

/-- The key of the failure. -/
def errKey : FieldKey := ⟨"err", some "Err"⟩

/-- The value of a side: that of its entry, unless this is null. -/
def side? (key : FieldKey) (es : List (String × Json)) : Option Json :=
  (key.find? (Json.sourceEntries es)).bind fun e => if Source.isNull e.2 then none else some e.2

/-- The keys under which the sides stand. -/
def used (es : List (String × Json)) : List Text :=
  ((okKey.find? (Json.sourceEntries es)).map fun e => Text.whole e.1).toList ++
    ((errKey.find? (Json.sourceEntries es)).map fun e => Text.whole e.1).toList

variable {α β : Type} {success : Shape α} {failure : Shape β} {key : FieldKey}
  {es : List (String × Json)} {j : Json}

theorem checkField_eq_none : checkField key (some none) (Shape.nullable success).check
    (Json.sourceEntries es) = .ok none ↔ side? key es = none := by
  unfold side?
  rw [checkField_eq_ok]
  cases key.find? (Json.sourceEntries es) with
  | none => simp
  | some e =>
    simp only [Shape.check, Option.bind_some]
    by_cases hnull : Source.isNull e.2 <;> simp [hnull, map_eq_ok]

theorem checkField_eq_some {a : α} : checkField key (some none) (Shape.nullable success).check
    (Json.sourceEntries es) = .ok (some a) ↔ ∃ v, side? key es = some v ∧ success.check v = .ok a := by
  unfold side?
  rw [checkField_eq_ok]
  cases key.find? (Json.sourceEntries es) with
  | none => simp
  | some e =>
    simp only [Shape.check, Option.bind_some]
    by_cases hnull : Source.isNull e.2 <;> simp [hnull, map_eq_ok]

/-- An outcome is accepted if there are no other keys than those of the sides, and the sides are accepted
as its parts. -/
theorem check_eq_ok {o : Outcome α β} {a : Option α} {b : Option β}
    (ho : ∀ title, (form title).parts o = (a, b, ())) : (shape success failure).check j = .ok o ↔
    ∃ es, j = .object es ∧ (∀ e ∈ Json.sourceEntries es, e.1 ∈ used es) ∧
      checkField okKey (some none) (Shape.nullable success).check (Json.sourceEntries es) = .ok a ∧
      checkField errKey (some none) (Shape.nullable failure).check (Json.sourceEntries es) =
        .ok b := by
  unfold shape
  rw [Shape.check_record_eq_ok, ho]
  simp only [Fields.check, Verdict.both_eq_ok, Fields.spellings, List.append_nil, and_true]
  rfl

/-- A success is accepted if there are no other keys than those of the sides, the success is accepted and
no failure is there. -/
theorem check_ok_eq_ok {a : α} : (shape success failure).check j = .ok (.ok a) ↔
    ∃ es, j = .object es ∧ (∀ e ∈ Json.sourceEntries es, e.1 ∈ used es) ∧
      (∃ v, side? okKey es = some v ∧ success.check v = .ok a) ∧ side? errKey es = none := by
  rw [check_eq_ok fun _ => rfl]
  simp only [checkField_eq_none, checkField_eq_some]

theorem check_err_eq_ok {b : β} : (shape success failure).check j = .ok (.err b) ↔
    ∃ es, j = .object es ∧ (∀ e ∈ Json.sourceEntries es, e.1 ∈ used es) ∧
      side? okKey es = none ∧ ∃ v, side? errKey es = some v ∧ failure.check v = .ok b := by
  rw [check_eq_ok fun _ => rfl]
  simp only [checkField_eq_none, checkField_eq_some]

variable {α' β' : Type} {success' : Shape α'} {failure' : Shape β'}

/-- What is accepted as two outcomes has the same side in both, made of the same value. -/
theorem same_side {o : Outcome α β} {o' : Outcome α' β'}
    (h : (shape success failure).check j = .ok o) (h' : (shape success' failure').check j = .ok o') :
    (∃ (v : Json) (a : α) (a' : α'), o = .ok a ∧ o' = .ok a' ∧
      success.check v = .ok a ∧ success'.check v = .ok a') ∨
    ∃ (v : Json) (b : β) (b' : β'), o = .err b ∧ o' = .err b' ∧
      failure.check v = .ok b ∧ failure'.check v = .ok b' := by
  cases o with
  | ok a =>
    obtain ⟨es, rfl, -, ⟨v, hv, ha⟩, herr⟩ := check_ok_eq_ok.mp h
    cases o' with
    | ok a' =>
      obtain ⟨_, hes, -, ⟨v', hv', ha'⟩, -⟩ := check_ok_eq_ok.mp h'
      cases hes
      cases hv.symm.trans hv'
      exact .inl ⟨v, a, a', rfl, rfl, ha, ha'⟩
    | err b' =>
      obtain ⟨_, hes, -, hok, -⟩ := check_err_eq_ok.mp h'
      cases hes
      cases hv.symm.trans hok
  | err b =>
    obtain ⟨es, rfl, -, hok, v, hv, hb⟩ := check_err_eq_ok.mp h
    cases o' with
    | ok a' =>
      obtain ⟨_, hes, -, ⟨v', hv', -⟩, -⟩ := check_ok_eq_ok.mp h'
      cases hes
      cases hok.symm.trans hv'
    | err b' =>
      obtain ⟨_, hes, -, -, v', hv', hb'⟩ := check_err_eq_ok.mp h'
      cases hes
      cases hv.symm.trans hv'
      exact .inr ⟨v, b, b', rfl, rfl, hb, hb'⟩

theorem apart (hs : success.Apart success') (hf : failure.Apart failure') :
    (shape success failure).Apart (shape success' failure') := by
  intro j o o' h h'
  rcases same_side h h' with ⟨v, a, a', -, -, ha, ha'⟩ | ⟨v, b, b', -, -, hb, hb'⟩
  · exact hs v a a' ha ha'
  · exact hf v b b' hb hb'

/-- A success is accepted as that of another outcome if its value is. -/
theorem check_ok_congr {a : α} {a' : α'}
    (h : ∀ v : Json, success.check v = .ok a ↔ success'.check v = .ok a') :
    (shape success failure).check j = .ok (.ok a) ↔
      (shape success' failure').check j = .ok (.ok a') := by
  simp only [check_ok_eq_ok, h]

theorem check_err_congr {b : β} {b' : β'}
    (h : ∀ v : Json, failure.check v = .ok b ↔ failure'.check v = .ok b') :
    (shape success failure).check j = .ok (.err b) ↔
      (shape success' failure').check j = .ok (.err b') := by
  simp only [check_err_eq_ok, h]

end Outcome

end RemoteSigner
