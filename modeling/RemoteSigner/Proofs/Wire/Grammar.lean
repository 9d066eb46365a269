import Mathlib
import RemoteSigner.Proofs.Wire.Acceptance

/-!
# The grammar of wire forms

`Shape.Spells` says which JSON values a shape allows, and what each stands for, with no word about how this
is checked or what is wrong with the others. It is what checking accepts (`Shape.check_eq_ok_iff`), for
shapes whose fields have one name each.
-/

namespace RemoteSigner

variable [Readers]

mutual

/-- The JSON value spells the value of the shape. A field that is left out has its fallback, and no record
breaks the rule of its form. -/
def Shape.Spells {α : Type} : Shape α → Json → α → Prop
  | .integer, j, n => Source.integer j = .ok n
  | .count, j, n => ∃ m, Source.integer j = .ok m ∧ 0 ≤ m ∧ m.toNat = n
  | .text, j, t => ∃ s, j = .str s ∧ .whole s = t
  | .filled, j, t => ∃ s, j = .str s ∧ s ≠ "" ∧ s = t.text
  | .hex, j, h => ∃ s, j = .str s ∧ Hex.isPairs s.toList ∧ s = h.text
  | .choice c, j, a => j = .str (c.label a)
  | .nullable _, j, none => j = .null
  | .nullable s, j, some a => j ≠ .null ∧ s.Spells j a
  | .list s, j, as => ∃ items, j = .list items ∧ List.Forall₂ (fun i a => s.Spells i a) items as
  | .record form fields, j, r => ∃ es, j = .object es ∧ (∀ k ∈ Entries.keys es, k ∈ fields.names) ∧
      ∃ parts, fields.Spell es parts ∧ form.build parts = .ok r

/-- The entries spell the field values. -/
def Fields.Spell {τ : Type} : Fields τ → List (String × Json) → τ → Prop
  | .nil, _, _ => True
  | .cons key fallback shape rest, es, (a, t) =>
    (match Entries.get? key.written es with
      | some v => shape.Spells v a
      | none => fallback = some a) ∧ rest.Spell es t

end

mutual

/-- No field at any depth has a wire name beside its own. -/
def Shape.HasPlainKeys {α : Type} : Shape α → Prop
  | .nullable s => s.HasPlainKeys
  | .list s => s.HasPlainKeys
  | .record _ fields => fields.HavePlainKeys
  | _ => True

def Fields.HavePlainKeys {τ : Type} : Fields τ → Prop
  | .nil => True
  | .cons key _ shape rest => key.wireName = none ∧ shape.HasPlainKeys ∧ rest.HavePlainKeys

end

/-! ## Keys -/

section

variable {es : List (String × Json)} {key : FieldKey}

omit [Readers] in
theorem FieldKey.find?_plain (h : key.wireName = none) : key.find? (Json.sourceEntries es) =
    (Entries.get? key.written es).map fun v => (key.written, v) := by
  obtain ⟨name, wireName⟩ := key
  cases h
  show [name].findSome? _ = _
  rw [List.findSome?_cons, Json.get?_sourceEntries_eq]
  show _ = (Entries.get? name es).map fun v => (name, v)
  cases Entries.get? name es <;> rfl

omit [Readers] in
/-- If fields have one name each, the keys that they use are those that are their names. -/
theorem Fields.mem_spellings_iff {τ : Type} (fields : Fields τ) (h : fields.HavePlainKeys)
    {k : String} (hk : k ∈ Entries.keys es) :
    .whole k ∈ fields.spellings (Json.sourceEntries es) ↔ k ∈ fields.names := by
  refine ⟨fields.mem_names, fun hname => ?_⟩
  match fields with
  | .nil => cases hname
  | .cons key _ _ rest =>
    obtain ⟨hkey, -, hrest⟩ := h
    rw [spellings, List.mem_append]
    rcases List.mem_append.mp hname with hname | hname
    · left
      have hwritten : k = key.written := by
        obtain ⟨name, wireName⟩ := key
        cases hkey
        exact List.mem_singleton.mp hname
      obtain ⟨v, hv⟩ := Option.isSome_iff_exists.mp (Entries.isSome_get?.mpr (hwritten ▸ hk))
      rw [FieldKey.find?_plain hkey, hv, hwritten]
      exact List.mem_singleton_self _
    · exact .inr ((rest.mem_spellings_iff hrest hk).mpr hname)

end

/-! ## Values without parts -/

section

variable {j : Json}

theorem Json.text_eq_ok {t : Text} : Source.text j = .ok t ↔ ∃ s, j = .str s ∧ .whole s = t := by
  cases j with
  | str s =>
    show Except.ok (Text.whole s) = .ok t ↔ _
    simp
  | null | bool _ | int _ | float _ | list _ | object _ =>
    exact ⟨(nomatch ·), fun ⟨_, h, _⟩ => nomatch h⟩

omit [Readers] in
theorem checkFilled_eq_ok {s : String} {t : FilledText} : checkFilled s = .ok t ↔ s ≠ "" ∧ s = t.text := by
  obtain ⟨text, hne⟩ := t
  unfold checkFilled
  split_ifs with hs
  · simp [hs]
  · simp [hs]

omit [Readers] in
theorem checkHex_eq_ok {s : String} {h : HexText} :
    checkHex s = .ok h ↔ Hex.isPairs s.toList ∧ s = h.text := by
  obtain ⟨text, hpairs⟩ := h
  unfold checkHex HexText.ofString?
  split_ifs with hs
  · simp [hs]
  · simp [hs]

omit [Readers] in
theorem Choices.check_eq_ok {α : Type} {c : Choices α} {s : String} {a : α} :
    c.check s = .ok a ↔ s = c.label a := by
  unfold Choices.check
  constructor
  · intro h
    split at h
    · rename_i b hb
      cases h
      exact (by simpa using List.find?_some hb : c.label a = s).symm
    · cases h
  · rintro rfl
    rw [c.find?_label]

theorem text_unragged_eq_ok {β : Type} {f : String → Except Misfit β} {b : β} :
    (Source.text j >>= Text.unragged >>= f) = .ok b ↔ ∃ s, j = .str s ∧ f s = .ok b := by
  cases j with
  | str s =>
    show f s = .ok b ↔ _
    simp
  | null | bool _ | int _ | float _ | list _ | object _ =>
    exact ⟨(nomatch ·), fun ⟨_, h, _⟩ => nomatch h⟩

theorem Json.isNull_iff : Source.isNull j = true ↔ j = .null := by
  cases j <;> simp [Source.isNull]

end

/-! ## What is accepted -/

mutual

/-- What is accepted is what spells a value of the shape, as that value. -/
theorem Shape.check_eq_ok_iff {α : Type} (s : Shape α) (hs : s.HasPlainKeys) {j : Json} {a : α} :
    s.check j = .ok a ↔ s.Spells j a := by
  match s, a with
  | .integer, n => rw [Shape.check, Verdict.ofMisfit_eq_ok, Shape.Spells]
  | .count, n =>
    rw [Shape.check, Verdict.ofMisfit_eq_ok, bind_eq_ok, Shape.Spells]
    simp only [checkCount_eq_ok]
  | .text, t => rw [Shape.check, Verdict.ofMisfit_eq_ok, Shape.Spells, Json.text_eq_ok]
  | .filled, t =>
    rw [Shape.check, Verdict.ofMisfit_eq_ok, Shape.Spells, text_unragged_eq_ok]
    simp only [checkFilled_eq_ok]
  | .hex, h =>
    rw [Shape.check, Verdict.ofMisfit_eq_ok, Shape.Spells, text_unragged_eq_ok]
    simp only [checkHex_eq_ok]
  | .choice c, a =>
    rw [Shape.Spells]
    cases j with
    | str s =>
      show Verdict.ofMisfit (c.check s) = .ok a ↔ _
      rw [Verdict.ofMisfit_eq_ok, Choices.check_eq_ok, Json.str.injEq]
    | null | bool _ | int _ | float _ | list _ | object _ => exact ⟨(nomatch ·), (nomatch ·)⟩
  | .nullable s, none =>
    rw [Shape.check, Shape.Spells, ← Json.isNull_iff]
    split_ifs with hnull
    · exact ⟨fun _ => hnull, fun _ => rfl⟩
    · refine ⟨fun h => ?_, fun h => absurd h hnull⟩
      obtain ⟨a, -, ha⟩ := map_eq_ok.mp h
      cases ha
  | .nullable s, some a =>
    rw [Shape.check, Shape.Spells, ne_eq, ← Json.isNull_iff, ← s.check_eq_ok_iff hs]
    split_ifs with hnull
    · exact ⟨(nomatch ·), fun h => absurd hnull h.1⟩
    · rw [map_eq_ok]
      simp [hnull]
  | .list s, as =>
    rw [Shape.check_list_eq_ok, Shape.Spells]
    simp only [s.check_eq_ok_iff hs]
  | .record form fields, r =>
    rw [Shape.check_record_eq_ok, Shape.Spells]
    refine exists_congr fun es => and_congr_right fun _ => and_congr ?_ ?_
    · constructor
      · intro h k hk
        obtain ⟨e, he, rfl⟩ := List.mem_map.mp hk
        exact fields.mem_names (h _ (List.mem_map_of_mem he))
      · intro h e he
        obtain ⟨e', he', rfl⟩ := List.mem_map.mp he
        have hk : e'.1 ∈ Entries.keys es := List.mem_map_of_mem he'
        exact (fields.mem_spellings_iff hs hk).mpr (h _ hk)
    · rw [fields.check_eq_ok_iff hs]
      constructor
      · intro h
        exact ⟨_, h, form.build_parts r⟩
      · rintro ⟨parts, h, hbuild⟩
        rw [form.parts_of_build parts r hbuild]
        exact h

theorem Fields.check_eq_ok_iff {τ : Type} (fields : Fields τ) (hs : fields.HavePlainKeys)
    {es : List (String × Json)} {t : τ} :
    fields.check (Json.sourceEntries es) = .ok t ↔ fields.Spell es t := by
  match fields, t with
  | .nil, _ => exact ⟨fun _ => trivial, fun _ => rfl⟩
  | .cons key fallback shape rest, (a, t) =>
    obtain ⟨hkey, hshape, hrest⟩ := hs
    rw [Fields.check, Verdict.both_eq_ok, Fields.Spell, rest.check_eq_ok_iff hrest, checkField_eq_ok,
      FieldKey.find?_plain hkey]
    refine and_congr_left fun _ => ?_
    cases Entries.get? key.written es with
    | some v => simp [shape.check_eq_ok_iff hshape]
    | none => simp

end

/-- Null spells values of nullable shapes only. -/
theorem Shape.exists_spells_null_iff {α : Type} (s : Shape α) : (∃ a, s.Spells .null a) ↔ s.IsNullable := by
  match s with
  | .nullable s => exact ⟨fun _ => trivial, fun _ => ⟨none, by rw [Shape.Spells]⟩⟩
  | .integer | .choice _ => exact ⟨fun ⟨_, h⟩ => (nomatch h), False.elim⟩
  | .count | .text | .filled | .hex | .list _ | .record _ _ =>
    exact ⟨fun ⟨_, _, h, _⟩ => (nomatch h), False.elim⟩

end RemoteSigner
