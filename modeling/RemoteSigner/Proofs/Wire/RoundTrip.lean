import Mathlib
import RemoteSigner.Wire.Decode
import RemoteSigner.Proofs.Json.ReadBack
import RemoteSigner.Proofs.Json.Guarantee
import RemoteSigner.Proofs.Json.Nesting
import RemoteSigner.Proofs.Wire.Integer
import RemoteSigner.Proofs.Wire.Dump

/-!
# Typed values come back from their wire form

A wire form is accepted as the value it was made of (`Shape.check_dump`), and what is accepted from JSON
text has short integers and whole text (`Shape.each_of_check`). Together with the printer and the reader:
a value with short integers and whole text comes back from its text (`Shape.decode_dumpText`), and every
value that was decoded is such a value (`Shape.each_of_decode`).
-/

namespace RemoteSigner

/-! ## Verdicts on lists -/

theorem Verdict.ofMisfit_eq_ok {α : Type} {x : Except Misfit α} {a : α} :
    Verdict.ofMisfit x = .ok a ↔ x = .ok a := by
  cases x <;> simp [Verdict.ofMisfit]

theorem Verdict.under_eq_ok {α : Type} {s : Step} {v : Verdict α} {a : α} :
    v.under s = .ok a ↔ v = .ok a := by
  cases v <;> simp [Verdict.under]

theorem Verdict.each_eq_ok {α : Type} {vs : List (Verdict α)} {as : List α} {i : Nat} :
    Verdict.each i vs = .ok as ↔ List.Forall₂ (fun v a => v = .ok a) vs as := by
  induction vs generalizing i as with
  | nil =>
    rw [Verdict.each, List.forall₂_nil_left_iff]
    exact ⟨fun h => by cases h; rfl, fun h => by rw [h]⟩
  | cons v vs ih =>
    rw [Verdict.each, List.forall₂_cons_left_iff]
    constructor
    · intro h
      split at h
      · rename_i a as' hboth
        cases h
        obtain ⟨hv, hvs⟩ := Verdict.both_eq_ok.mp hboth
        exact ⟨a, as', Verdict.under_eq_ok.mp hv, ih.mp hvs, rfl⟩
      · cases h
    · rintro ⟨a, as', hv, hvs, rfl⟩
      rw [Verdict.both_eq_ok.mpr ⟨Verdict.under_eq_ok.mpr hv, ih.mpr hvs⟩]

/-! ## Entries -/

/-- The entries of an object, as the checks see them. -/
def Json.sourceEntries (es : List (String × Json)) : List (Text × Json) :=
  es.map fun e => (.whole e.1, e.2)

theorem Json.get?_sourceEntries_eq (s : String) (es : List (String × Json)) :
    Entries.get? (.whole s) (sourceEntries es) = Entries.get? s es := by
  induction es with
  | nil => rfl
  | cons e es ih =>
    obtain ⟨k, v⟩ := e
    have hcons : sourceEntries ((k, v) :: es) = (.whole k, v) :: sourceEntries es := rfl
    rw [hcons, Entries.get?, Entries.get?, ih]
    simp only [Text.whole.injEq]

theorem Json.get?_sourceEntries {es : List (String × Json)} (h : (Entries.keys es).Nodup)
    {e : String × Json} (he : e ∈ es) : Entries.get? (.whole e.1) (sourceEntries es) = some e.2 := by
  rw [get?_sourceEntries_eq]
  exact Entries.get?_of_mem h he

theorem FieldKey.find?_written {σ : Type} (k : FieldKey) {entries : List (Text × σ)} {v : σ}
    (h : Entries.get? (.whole k.written) entries = some v) :
    k.find? entries = some (k.written, v) := by
  obtain ⟨name, wireName⟩ := k
  cases wireName <;>
  · simp only [written, Option.getD] at h
    simp [find?, spellings, written, h]

theorem FieldKey.get?_of_find? {σ : Type} {k : FieldKey} {entries : List (Text × σ)}
    {e : String × σ} (h : k.find? entries = some e) : Entries.get? (.whole e.1) entries = some e.2 := by
  obtain ⟨s, -, hs⟩ := List.exists_of_findSome?_eq_some h
  obtain ⟨v, hv, rfl⟩ := Option.map_eq_some_iff.mp hs
  exact hv

theorem FieldKey.mem_of_find? {σ : Type} {k : FieldKey} {entries : List (Text × σ)}
    {e : String × σ} (h : k.find? entries = some e) : (.whole e.1, e.2) ∈ entries :=
  Entries.mem_of_get? (get?_of_find? h)

theorem strangers_eq_nil {σ : Type} {known : List Text} {entries : List (Text × σ)} :
    strangers known entries = [] ↔ ∀ e ∈ entries, e.1 ∈ known := by
  simp [strangers, List.filter_eq_nil_iff]

/-- Entries are accepted if no key is ragged, every key belongs to a field, and the fields are accepted. -/
theorem judgeEntries_eq_ok {σ τ : Type} {first : Bool} {v : Verdict τ} {known : List Text}
    {entries : List (Text × σ)} {t : τ} : judgeEntries first v known entries = .ok t ↔
      (∀ e ∈ entries, e.1.IsWhole) ∧ (∀ e ∈ entries, e.1 ∈ known) ∧ v = .ok t := by
  unfold judgeEntries
  split_ifs with hwhole
  · rw [Verdict.also_eq_ok, strangers_eq_nil, and_comm (a := v = .ok t)]
    exact ⟨fun h => ⟨List.all_eq_true.mp hwhole, h⟩, And.right⟩
  · constructor
    · intro h
      cases h
    · intro h
      exact absurd (List.all_eq_true.mpr h.1) hwhole

theorem Form.conclude_eq_ok {ρ τ : Type} {form : Form ρ τ} {v : Verdict τ} {r : ρ} :
    form.conclude v = .ok r ↔ v = .ok (form.parts r) := by
  constructor
  · intro h
    unfold conclude at h
    split at h
    · cases h
    · split at h
      · rename_i hbuild
        cases h
        rw [form.parts_of_build _ _ hbuild]
      · cases h
  · rintro rfl
    unfold conclude
    simp only [form.build_parts]

theorem Json.isWhole_of_mem_sourceEntries {es : List (String × Json)} :
    ∀ e ∈ sourceEntries es, e.1.IsWhole := by
  intro e he
  obtain ⟨e', -, rfl⟩ := List.mem_map.mp he
  rfl

/-! ## A wire form is accepted as its value -/

theorem checkCount_ofNat (n : Nat) : checkCount (Int.ofNat n) = .ok n := by
  simp [checkCount]

theorem checkCount_eq_ok {n : Int} {m : Nat} : checkCount n = .ok m ↔ 0 ≤ n ∧ n.toNat = m := by
  unfold checkCount
  split_ifs with hn
  · simp [not_le.mpr hn]
  · simp [not_lt.mp hn]

variable [Readers]

mutual

/-- A wire form is accepted, and stands for the value it was made of. -/
theorem Shape.check_dump {α : Type} (s : Shape α) (hs : s.WellFormed) {a : α} {j : Json}
    (h : s.dump a = .ok j) : s.check j = .ok a := by
  match s, a with
  | .integer, _ => cases h; rfl
  | .count, n =>
    cases h
    rw [Shape.check, Verdict.ofMisfit_eq_ok]
    exact checkCount_ofNat n
  | .text, .whole _ => cases h; rfl
  | .text, .ragged _ => cases h
  | .filled, t =>
    cases h
    rw [Shape.check, Verdict.ofMisfit_eq_ok]
    exact dif_neg t.text_ne
  | .hex, t =>
    cases h
    rw [Shape.check, Verdict.ofMisfit_eq_ok]
    show checkHex t.text = .ok t
    rw [checkHex, HexText.ofString?_text]
  | .choice c, a =>
    cases h
    show Verdict.ofMisfit (c.check (c.label a)) = .ok a
    rw [Verdict.ofMisfit_eq_ok, Choices.check, Choices.find?_label]
  | .nullable s, none => cases h; rfl
  | .nullable s, some a =>
    rw [Shape.dump] at h
    have hnull : Source.isNull j = false := by
      cases j <;> first | rfl | exact absurd rfl (Shape.dump_ne_null hs.1 h)
    rw [Shape.check, hnull, s.check_dump hs.2 h]
    rfl
  | .list s, as =>
    obtain ⟨js, hjs, rfl⟩ := map_eq_ok.mp h
    show Verdict.each 0 (js.map s.check) = .ok as
    rw [Verdict.each_eq_ok, List.forall₂_map_left_iff]
    exact (mapM_eq_ok.mp hjs).flip.imp fun _ _ hj => s.check_dump hs hj
  | .record form fields, r =>
    obtain ⟨es, hes, rfl⟩ := map_eq_ok.mp h
    have hnodup : (Entries.keys es).Nodup := by
      rw [fields.keys_dump hes]
      exact hs.1
    obtain ⟨hcheck, hspell⟩ := fields.check_dump hs.2 hes fun e he =>
      Json.get?_sourceEntries hnodup he
    show form.conclude (judgeEntries Readers.strangersFirst (fields.check (Json.sourceEntries es))
      (fields.spellings (Json.sourceEntries es)) (Json.sourceEntries es)) = .ok r
    have hknown : ∀ e ∈ Json.sourceEntries es, e.1 ∈ fields.spellings (Json.sourceEntries es) := by
      rw [hspell]
      intro e he
      obtain ⟨e', he', rfl⟩ := List.mem_map.mp he
      exact List.mem_map_of_mem he'
    exact Form.conclude_eq_ok.mpr
      (judgeEntries_eq_ok.mpr ⟨Json.isWhole_of_mem_sourceEntries, hknown, hcheck⟩)

theorem Fields.check_dump {τ : Type} (fields : Fields τ) (hs : fields.WellFormed) {t : τ}
    {es : List (String × Json)} (h : fields.dump t = .ok es) {entries : List (Text × Json)}
    (hentries : ∀ e ∈ es, Entries.get? (.whole e.1) entries = some e.2) :
    fields.check entries = .ok t ∧ fields.spellings entries = es.map fun e => .whole e.1 := by
  match fields, t with
  | .nil, _ => cases h; exact ⟨rfl, rfl⟩
  | .cons key fallback shape rest, (a, t) =>
    obtain ⟨j, es', hj, hes, rfl⟩ := Fields.dump_cons.mp h
    obtain ⟨hentry, hrest⟩ := List.forall_mem_cons.mp hentries
    obtain ⟨hcheck, hspell⟩ := rest.check_dump hs.2.2 hes hrest
    have hfind := key.find?_written hentry
    constructor
    · rw [Fields.check, Verdict.both_eq_ok]
      simp only [checkField, hfind]
      exact ⟨Verdict.under_eq_ok.mpr (shape.check_dump hs.2.1 hj), hcheck⟩
    · rw [Fields.spellings, hfind, hspell]
      rfl

end

/-! ## What is accepted has short integers and whole text -/

theorem Json.fewDigits_integer {j : Json} (hj : j.Regular) {n : Int}
    (h : Source.integer j = .ok n) : FewDigits n := by
  cases j with
  | bool b => cases h; exact Lenient.fewDigits_integerOfBool b
  | int m => cases h; exact hj
  | float x => exact Lenient.fewDigits_integerOfFloat h
  | str s => exact Lenient.fewDigits_integerOfText h
  | null | list _ | object _ => cases h

theorem Json.isWhole_text {j : Json} {t : Text} (h : Source.text j = .ok t) : t.IsWhole := by
  cases j with
  | str s => cases h; rfl
  | null | bool _ | int _ | float _ | list _ | object _ => cases h

theorem Json.regular_of_mem_items {j : Json} (hj : j.Regular) {items : List Json}
    (h : Source.items j = .ok items) : ∀ i ∈ items, i.Regular := by
  cases j with
  | list _ => cases h; exact (everywhere_list.mp hj).2
  | null | bool _ | int _ | float _ | str _ | object _ => cases h

theorem Json.regular_of_mem_entries {j : Json} (hj : j.Regular) {title : String}
    {entries : List (Text × Json)} (h : Source.entries title j = .ok entries) :
    ∀ e ∈ entries, e.2.Regular := by
  cases j with
  | object es =>
    cases h
    intro e he
    obtain ⟨e', he', rfl⟩ := List.mem_map.mp he
    exact (everywhere_object.mp hj).2 e' he'
  | null | bool _ | int _ | float _ | str _ | list _ => cases h

theorem Json.depth_lt_of_mem_entries {j : Json} {title : String} {entries : List (Text × Json)}
    (h : Source.entries title j = .ok entries) {e : Text × Json} (he : e ∈ entries) :
    e.2.depth < j.depth := by
  cases j with
  | object es =>
    cases h
    obtain ⟨e', he', rfl⟩ := List.mem_map.mp he
    exact Nat.lt_succ_of_le (depth_le_depthOfEntries he')
  | null | bool _ | int _ | float _ | str _ | list _ => cases h

mutual

/-- What is accepted from JSON text has short integers and whole text. -/
theorem Shape.each_of_check {α : Type} (s : Shape α) (hs : s.WellFormed) {j : Json}
    (hj : j.Regular) {a : α} (h : s.check j = .ok a) : s.Each Json.FewDigits Text.IsWhole a := by
  match s, a with
  | .integer, n => exact Json.fewDigits_integer hj (Verdict.ofMisfit_eq_ok.mp h)
  | .count, n =>
    rw [Shape.check, Verdict.ofMisfit_eq_ok] at h
    obtain ⟨m, hm, hn⟩ := bind_eq_ok.mp h
    obtain ⟨hnonneg, rfl⟩ := checkCount_eq_ok.mp hn
    show Json.FewDigits m.toNat
    rw [Int.toNat_of_nonneg hnonneg]
    exact Json.fewDigits_integer hj hm
  | .text, t => exact Json.isWhole_text (Verdict.ofMisfit_eq_ok.mp h)
  | .filled, _ | .hex, _ | .choice _, _ | .nullable _, none => trivial
  | .nullable s, some a =>
    rw [Shape.check] at h
    split_ifs at h with hnull
    · cases h
    · obtain ⟨a', ha, hsome⟩ := map_eq_ok.mp h
      cases hsome
      exact s.each_of_check hs.2 hj ha
  | .list s, as =>
    rw [Shape.check] at h
    split at h
    · rename_i items hitems
      rw [Verdict.each_eq_ok, List.forall₂_map_left_iff] at h
      intro a ha
      obtain ⟨j', hj', ha'⟩ := exists_of_mem_left h.flip ha
      exact s.each_of_check hs (Json.regular_of_mem_items hj hitems j' hj') ha'
    · cases h
  | .record form fields, r =>
    rw [Shape.check] at h
    split at h
    · rename_i entries hentries
      obtain ⟨-, -, hfields⟩ := judgeEntries_eq_ok.mp (Form.conclude_eq_ok.mp h)
      exact fields.each_of_check hs.2 (Json.regular_of_mem_entries hj hentries) hfields
    · cases h

theorem Fields.each_of_check {τ : Type} (fields : Fields τ) (hs : fields.WellFormed)
    {entries : List (Text × Json)} (hentries : ∀ e ∈ entries, e.2.Regular) {t : τ}
    (h : fields.check entries = .ok t) : fields.Each Json.FewDigits Text.IsWhole t := by
  match fields, t with
  | .nil, _ => trivial
  | .cons key fallback shape rest, (a, t) =>
    rw [Fields.check, Verdict.both_eq_ok] at h
    refine ⟨?_, rest.each_of_check hs.2.2 hentries h.2⟩
    have hfield := h.1
    unfold checkField at hfield
    split at hfield
    · rename_i v hfind
      exact shape.each_of_check hs.2.1 (hentries _ (FieldKey.mem_of_find? hfind))
        (Verdict.under_eq_ok.mp hfield)
    · split at hfield
      · cases hfield
        exact hs.1 _ rfl
      · cases hfield

end

/-! ## Text -/

/-- What content spells is as a strict reader leaves it. -/
theorem Content.regular_of_readJson {c : Content} {j : Json} (h : c.readJson = .ok j) :
    j.Regular := by
  unfold Content.readJson at h
  split at h
  · split at h
    · exact Json.read_isRead (mapError_eq_ok.mp h)
    · cases h
  · exact Json.read_isRead (mapError_eq_ok.mp h)

/-- What content spells is not nested deeper than a reader goes. -/
theorem Content.depth_of_readJson {c : Content} {j : Json} (h : c.readJson = .ok j) :
    j.depth ≤ Json.strict.depthLimit := by
  unfold Content.readJson at h
  split at h
  · split at h
    · exact Json.depth_read_le (mapError_eq_ok.mp h)
    · cases h
  · exact Json.depth_read_le (mapError_eq_ok.mp h)

/-- An exact value comes back from its text if it is not nested too deep. -/
theorem Content.readJson_compact (policy : NonFinite) {j : Json}
    (hj : j.Everywhere Json.IsExact) (hd : j.depth ≤ Json.strict.depthLimit) :
    Content.readJson (.text (.whole (j.compact policy))) = .ok j :=
  mapError_eq_ok.mpr (Json.readText_compact policy hj hd)

namespace Shape

variable {α : Type} (s : Shape α)

omit [Readers] in
/-- The values that can be written as text are those without ragged text. -/
theorem exists_dumpText_iff {a : α} : (∃ text, s.dumpText a = .ok text) ↔ s.IsWhole a := by
  constructor
  · rintro ⟨text, h⟩
    obtain ⟨j, hj, -⟩ := map_eq_ok.mp h
    exact s.isWhole_of_dump hj
  · intro h
    obtain ⟨j, hj⟩ := s.exists_dump h
    exact ⟨_, map_eq_ok.mpr ⟨j, hj, rfl⟩⟩

omit [Readers] in
theorem accept_eq_ok {σ : Type} [Source σ] {v : σ} {a : α} : s.accept v = .ok a ↔ s.check v = .ok a := by
  unfold accept
  cases s.check v <;> simp

theorem decode_of_readJson {c : Content} {j : Json} (h : c.readJson = .ok j) :
    s.decode c = s.accept j := by
  rw [decode, h]

/-- Content is decoded if it spells JSON that is accepted. -/
theorem decode_eq_ok {c : Content} {a : α} :
    s.decode c = .ok a ↔ ∃ j, c.readJson = .ok j ∧ s.check j = .ok a := by
  unfold decode
  cases c.readJson with
  | error m => exact ⟨(nomatch ·), fun ⟨_, h, _⟩ => nomatch h⟩
  | ok j =>
    show s.accept j = .ok a ↔ _
    rw [accept_eq_ok]
    simp

/-- A value with short integers comes back from its text. -/
theorem decode_dumpText (hs : s.WellFormed) (hd : s.depth ≤ Json.strict.depthLimit) {a : α}
    (ha : s.IsShort a) {text : String} (h : s.dumpText a = .ok text) :
    s.decode (.text (.whole text)) = .ok a := by
  obtain ⟨j, hj, rfl⟩ := map_eq_ok.mp h
  have hread := Content.readJson_compact .byName (s.everywhere_dump hs ha hj)
    ((s.depth_dump hj).trans hd)
  exact s.decode_eq_ok.mpr ⟨j, hread, s.check_dump hs hj⟩

/-- A value that was decoded has short integers and whole text. -/
theorem each_of_decode (hs : s.WellFormed) {c : Content} {a : α} (h : s.decode c = .ok a) :
    s.Each Json.FewDigits Text.IsWhole a := by
  obtain ⟨j, hj, ha⟩ := s.decode_eq_ok.mp h
  exact s.each_of_check hs (Content.regular_of_readJson hj) ha

end Shape

end RemoteSigner
