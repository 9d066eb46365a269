import Mathlib
import RemoteSigner.Wire.Dump
import RemoteSigner.Proofs.Json.Everywhere

/-!
# Which values have a wire form, and what it looks like

A value has a wire form unless there is ragged text in it (`Shape.exists_dump`,
`Shape.isWhole_of_dump`). A wire form with short integers is exact, and not deeper than its shape
(`Shape.everywhere_dump`, `Shape.depth_dump`).
-/

namespace RemoteSigner

/-- Text without a lone surrogate. -/
def Text.IsWhole (t : Text) : Prop := t.toString?.isSome

mutual

/-- `int` holds of every integer in the value and `text` of every text that has no condition to meet. -/
def Shape.Each (int : Int → Prop) (text : Text → Prop) {α : Type} : Shape α → α → Prop
  | .integer, n => int n
  | .count, n => int (Int.ofNat n)
  | .text, t => text t
  | .filled, _ => True
  | .hex, _ => True
  | .choice _, _ => True
  | .nullable _, none => True
  | .nullable s, some a => s.Each int text a
  | .list s, as => ∀ a ∈ as, s.Each int text a
  | .record form fields, r => fields.Each int text (form.parts r)

def Fields.Each (int : Int → Prop) (text : Text → Prop) {τ : Type} : Fields τ → τ → Prop
  | .nil, _ => True
  | .cons _ _ shape rest, (a, t) => shape.Each int text a ∧ rest.Each int text t

end

/-- Every integer in the value has at most `Json.maxDigits` digits. -/
abbrev Shape.IsShort [Readers] {α : Type} (s : Shape α) (a : α) : Prop :=
  s.Each Json.FewDigits (fun _ => True) a

/-- No text in the value holds a lone surrogate. -/
abbrev Shape.IsWhole {α : Type} (s : Shape α) (a : α) : Prop := s.Each (fun _ => True) Text.IsWhole a

mutual

theorem Shape.Each.mono {p p' : Int → Prop} {q q' : Text → Prop} (hp : ∀ n, p n → p' n)
    (hq : ∀ t, q t → q' t) {α : Type} (s : Shape α) {a : α} (h : s.Each p q a) : s.Each p' q' a := by
  match s, a with
  | .integer, n => exact hp n h
  | .count, n => exact hp n h
  | .text, t => exact hq t h
  | .filled, _ | .hex, _ | .choice _, _ | .nullable _, none => trivial
  | .nullable s, some a => exact Shape.Each.mono hp hq s h
  | .list s, as => exact fun a ha => Shape.Each.mono hp hq s (h a ha)
  | .record form fields, r => exact Fields.Each.mono hp hq fields h

theorem Fields.Each.mono {p p' : Int → Prop} {q q' : Text → Prop} (hp : ∀ n, p n → p' n)
    (hq : ∀ t, q t → q' t) {τ : Type} (fields : Fields τ) {t : τ} (h : fields.Each p q t) :
    fields.Each p' q' t := by
  match fields, t with
  | .nil, _ => trivial
  | .cons _ _ shape rest, (a, t) =>
    exact ⟨Shape.Each.mono hp hq shape h.1, Fields.Each.mono hp hq rest h.2⟩

end

/-- The names that the fields are written under. -/
def Fields.written {τ : Type} : Fields τ → List String
  | .nil => []
  | .cons key _ _ rest => key.written :: rest.written

mutual

/-- How many values stand inside one another in a wire form, at most. -/
def Shape.depth {α : Type} : Shape α → Nat
  | .nullable s => s.depth
  | .list s => s.depth + 1
  | .record _ fields => fields.depth + 1
  | _ => 1

def Fields.depth {τ : Type} : Fields τ → Nat
  | .nil => 0
  | .cons _ _ shape rest => max shape.depth rest.depth

end

theorem Shape.one_le_depth {α : Type} (s : Shape α) : 1 ≤ s.depth := by
  match s with
  | .integer | .count | .text | .filled | .hex | .choice _ => exact le_rfl
  | .nullable s => exact s.one_le_depth
  | .list s => exact Nat.succ_pos _
  | .record _ fields => exact Nat.succ_pos _

/-- Whether values of the shape may be written as null. -/
def Shape.IsNullable {α : Type} : Shape α → Prop
  | .nullable _ => True
  | _ => False

mutual

/-- Wire forms of the shape can be read back: null stands for one value only, no two fields of a record are
written under one name, and what a field falls back to has short integers and whole text. -/
def Shape.WellFormed [Readers] {α : Type} : Shape α → Prop
  | .nullable s => ¬ s.IsNullable ∧ s.WellFormed
  | .list s => s.WellFormed
  | .record _ fields => fields.written.Nodup ∧ fields.WellFormed
  | _ => True

def Fields.WellFormed [Readers] {τ : Type} : Fields τ → Prop
  | .nil => True
  | .cons _ fallback shape rest =>
    (∀ a, fallback = some a → shape.Each Json.FewDigits Text.IsWhole a) ∧ shape.WellFormed ∧
      rest.WellFormed

end

/-! ## Lists of wire forms -/

theorem mapM_eq_ok {ε α β : Type} {f : α → Except ε β} {as : List α} {bs : List β} :
    as.mapM f = .ok bs ↔ List.Forall₂ (fun a b => f a = .ok b) as bs := by
  induction as generalizing bs with
  | nil =>
    rw [List.mapM_nil, List.forall₂_nil_left_iff]
    exact ⟨fun h => by cases h; rfl, fun h => by rw [h]; rfl⟩
  | cons a as ih =>
    rw [List.mapM_cons, List.forall₂_cons_left_iff]
    cases hf : f a with
    | error e => exact ⟨(nomatch ·), fun ⟨b, _, h, _⟩ => nomatch h⟩
    | ok b =>
      cases hm : as.mapM f with
      | error e =>
        refine ⟨(nomatch ·), fun ⟨_, bs', _, h, _⟩ => ?_⟩
        rw [← ih, hm] at h
        cases h
      | ok bs' =>
        constructor
        · intro h
          cases h
          exact ⟨b, bs', rfl, ih.mp hm, rfl⟩
        · rintro ⟨b', bs'', hb, h, rfl⟩
          cases hb
          rw [← ih, hm] at h
          cases h
          rfl

theorem exists_of_mem_left {α β : Type} {R : α → β → Prop} {as : List α} {bs : List β}
    (h : List.Forall₂ R as bs) {a : α} (ha : a ∈ as) : ∃ b ∈ bs, R a b := by
  induction h with
  | nil => cases ha
  | @cons a' b' as' bs' hab _ ih =>
    rcases List.mem_cons.mp ha with rfl | ha
    · exact ⟨b', by simp, hab⟩
    · obtain ⟨b, hb, hR⟩ := ih ha
      exact ⟨b, by simp [hb], hR⟩

theorem exists_mapM {ε α β : Type} {f : α → Except ε β} {as : List α}
    (h : ∀ a ∈ as, ∃ b, f a = .ok b) : ∃ bs, as.mapM f = .ok bs := by
  induction as with
  | nil => exact ⟨[], rfl⟩
  | cons a as ih =>
    obtain ⟨b, hb⟩ := h a (by simp)
    obtain ⟨bs, hbs⟩ := ih fun a' ha' => h a' (by simp [ha'])
    exact ⟨b :: bs, mapM_eq_ok.mpr (.cons hb (mapM_eq_ok.mp hbs))⟩

theorem map_eq_ok {ε α β : Type} {f : α → β} {x : Except ε α} {b : β} :
    f <$> x = .ok b ↔ ∃ a, x = .ok a ∧ f a = b := by
  cases x with
  | error e => exact ⟨(nomatch ·), fun ⟨_, h, _⟩ => nomatch h⟩
  | ok a =>
    constructor
    · intro h
      cases h
      exact ⟨a, rfl, rfl⟩
    · rintro ⟨_, h, rfl⟩
      cases h
      rfl

theorem bind_eq_ok {ε α β : Type} {f : α → Except ε β} {x : Except ε α} {b : β} :
    x >>= f = .ok b ↔ ∃ a, x = .ok a ∧ f a = .ok b := by
  cases x with
  | error e => exact ⟨(nomatch ·), fun ⟨_, h, _⟩ => nomatch h⟩
  | ok a =>
    constructor
    · exact fun h => ⟨a, rfl, h⟩
    · rintro ⟨_, h, hf⟩
      cases h
      exact hf

theorem mapError_eq_ok {ε ε' α : Type} {f : ε → ε'} {x : Except ε α} {a : α} :
    x.mapError f = .ok a ↔ x = .ok a := by
  cases x <;> simp [Except.mapError]

/-! ## Fields -/

theorem Fields.dump_cons {α τ : Type} {key : FieldKey} {fallback : Option α} {shape : Shape α}
    {rest : Fields τ} {a : α} {t : τ} {es : List (String × Json)} :
    (Fields.cons key fallback shape rest).dump (a, t) = .ok es ↔
      ∃ j es', shape.dump a = .ok j ∧ rest.dump t = .ok es' ∧ es = (key.written, j) :: es' := by
  rw [Fields.dump]
  cases ha : shape.dump a with
  | error e => exact ⟨(nomatch ·), fun ⟨_, _, h, _⟩ => nomatch h⟩
  | ok j =>
    cases ht : rest.dump t with
    | error e => exact ⟨(nomatch ·), fun ⟨_, _, _, h, _⟩ => nomatch h⟩
    | ok es' =>
      constructor
      · intro h
        cases h
        exact ⟨j, es', rfl, rfl, rfl⟩
      · rintro ⟨_, _, hj, hes, rfl⟩
        cases hj
        cases hes
        rfl

theorem Fields.keys_dump {τ : Type} (fields : Fields τ) {t : τ} {es : List (String × Json)}
    (h : fields.dump t = .ok es) : Entries.keys es = fields.written := by
  match fields, t with
  | .nil, _ => cases h; rfl
  | .cons key fallback shape rest, (a, t) =>
    obtain ⟨j, es', -, hes, rfl⟩ := dump_cons.mp h
    rw [Entries.keys, List.map_cons, written, ← rest.keys_dump hes]
    rfl

/-! ## Which values have a wire form -/

mutual

/-- A value without ragged text has a wire form. -/
theorem Shape.exists_dump {α : Type} (s : Shape α) {a : α} (h : s.IsWhole a) :
    ∃ j, s.dump a = .ok j := by
  match s, a with
  | .integer, n => exact ⟨_, rfl⟩
  | .count, n => exact ⟨_, rfl⟩
  | .text, .whole t => exact ⟨_, rfl⟩
  | .text, .ragged _ => cases h
  | .filled, _ => exact ⟨_, rfl⟩
  | .hex, _ => exact ⟨_, rfl⟩
  | .choice _, _ => exact ⟨_, rfl⟩
  | .nullable _, none => exact ⟨_, rfl⟩
  | .nullable s, some a =>
    rw [Shape.dump]
    exact s.exists_dump h
  | .list s, as =>
    obtain ⟨js, hjs⟩ := exists_mapM fun a ha => s.exists_dump (h a ha)
    exact ⟨.list js, by rw [Shape.dump, hjs]; rfl⟩
  | .record form fields, r =>
    obtain ⟨es, hes⟩ := fields.exists_dump h
    exact ⟨.object es, by rw [Shape.dump, hes]; rfl⟩

theorem Fields.exists_dump {τ : Type} (fields : Fields τ) {t : τ}
    (h : fields.Each (fun _ => True) Text.IsWhole t) : ∃ es, fields.dump t = .ok es := by
  match fields, t with
  | .nil, _ => exact ⟨_, rfl⟩
  | .cons key _ shape rest, (a, t) =>
    obtain ⟨j, hj⟩ := shape.exists_dump h.1
    obtain ⟨es, hes⟩ := rest.exists_dump h.2
    exact ⟨_, Fields.dump_cons.mpr ⟨j, es, hj, hes, rfl⟩⟩

end

mutual

/-- Only a value without ragged text has a wire form. -/
theorem Shape.isWhole_of_dump {α : Type} (s : Shape α) {a : α} {j : Json} (h : s.dump a = .ok j) :
    s.IsWhole a := by
  match s, a with
  | .integer, _ | .count, _ | .filled, _ | .hex, _ | .choice _, _ | .nullable _, none => trivial
  | .text, .whole t => rfl
  | .text, .ragged _ => cases h
  | .nullable s, some a => exact s.isWhole_of_dump (by rw [Shape.dump] at h; exact h)
  | .list s, as =>
    obtain ⟨js, hjs, -⟩ := map_eq_ok.mp h
    intro a ha
    obtain ⟨j, -, hj⟩ := exists_of_mem_left (mapM_eq_ok.mp hjs) ha
    exact s.isWhole_of_dump hj
  | .record form fields, r =>
    obtain ⟨es, hes, -⟩ := map_eq_ok.mp h
    exact fields.isWhole_of_dump hes

theorem Fields.isWhole_of_dump {τ : Type} (fields : Fields τ) {t : τ} {es : List (String × Json)}
    (h : fields.dump t = .ok es) : fields.Each (fun _ => True) Text.IsWhole t := by
  match fields, t with
  | .nil, _ => trivial
  | .cons key _ shape rest, (a, t) =>
    obtain ⟨j, es', hj, hes, -⟩ := Fields.dump_cons.mp h
    exact ⟨shape.isWhole_of_dump hj, rest.isWhole_of_dump hes⟩

end

/-! ## What a wire form looks like -/

/-- A null is written for nullable values only. -/
theorem Shape.dump_ne_null {α : Type} {s : Shape α} (hs : ¬ s.IsNullable) {a : α} {j : Json}
    (h : s.dump a = .ok j) : j ≠ .null := by
  match s, a with
  | .integer, _ | .count, _ | .filled, _ | .hex, _ | .choice _, _ => cases h; simp
  | .text, _ | .list _, _ | .record _ _, _ =>
    obtain ⟨_, -, rfl⟩ := map_eq_ok.mp h
    simp
  | .nullable _, _ => exact (hs trivial).elim

mutual

/-- The wire form of a value with short integers is exact. -/
theorem Shape.everywhere_dump [Readers] {α : Type} (s : Shape α) (hs : s.WellFormed) {a : α}
    (ha : s.IsShort a) {j : Json} (h : s.dump a = .ok j) : j.Everywhere Json.IsExact := by
  match s, a with
  | .integer, _ | .count, _ => cases h; exact ha
  | .filled, _ | .hex, _ | .choice _, _ | .nullable _, none => cases h; trivial
  | .text, _ =>
    obtain ⟨_, -, rfl⟩ := map_eq_ok.mp h
    trivial
  | .nullable s, some a => exact s.everywhere_dump hs.2 ha (by rw [Shape.dump] at h; exact h)
  | .list s, as =>
    obtain ⟨js, hjs, rfl⟩ := map_eq_ok.mp h
    refine Json.everywhere_list.mpr ⟨trivial, ?_⟩
    intro j hj
    obtain ⟨a, ha', hj'⟩ := exists_of_mem_left (mapM_eq_ok.mp hjs).flip hj
    exact s.everywhere_dump hs (ha a ha') hj'
  | .record form fields, r =>
    obtain ⟨es, hes, rfl⟩ := map_eq_ok.mp h
    refine Json.everywhere_object.mpr ⟨?_, fields.everywhere_dump hs.2 ha hes⟩
    show (Entries.keys es).Nodup
    rw [fields.keys_dump hes]
    exact hs.1

theorem Fields.everywhere_dump [Readers] {τ : Type} (fields : Fields τ) (hs : fields.WellFormed) {t : τ}
    (ht : fields.Each Json.FewDigits (fun _ => True) t) {es : List (String × Json)}
    (h : fields.dump t = .ok es) : ∀ e ∈ es, e.2.Everywhere Json.IsExact := by
  match fields, t with
  | .nil, _ => cases h; exact List.forall_mem_nil _
  | .cons key _ shape rest, (a, t) =>
    obtain ⟨j, es', hj, hes, rfl⟩ := Fields.dump_cons.mp h
    exact List.forall_mem_cons.mpr ⟨shape.everywhere_dump hs.2.1 ht.1 hj,
      rest.everywhere_dump hs.2.2 ht.2 hes⟩

end

mutual

/-- A wire form is not deeper than its shape. -/
theorem Shape.depth_dump {α : Type} (s : Shape α) {a : α} {j : Json} (h : s.dump a = .ok j) :
    j.depth ≤ s.depth := by
  match s, a with
  | .integer, _ | .count, _ | .filled, _ | .hex, _ | .choice _, _ => cases h; exact le_rfl
  | .text, _ =>
    obtain ⟨_, -, rfl⟩ := map_eq_ok.mp h
    exact le_rfl
  | .nullable s, none => cases h; exact s.one_le_depth
  | .nullable s, some a => exact s.depth_dump (by rw [Shape.dump] at h; exact h)
  | .list s, as =>
    obtain ⟨js, hjs, rfl⟩ := map_eq_ok.mp h
    refine Nat.succ_le_succ (Json.depthOfItems_le ?_)
    intro j hj
    obtain ⟨a, -, hj'⟩ := exists_of_mem_left (mapM_eq_ok.mp hjs).flip hj
    exact s.depth_dump hj'
  | .record form fields, r =>
    obtain ⟨es, hes, rfl⟩ := map_eq_ok.mp h
    exact Nat.succ_le_succ (fields.depth_dump hes)

theorem Fields.depth_dump {τ : Type} (fields : Fields τ) {t : τ} {es : List (String × Json)}
    (h : fields.dump t = .ok es) : Json.depthOfEntries es ≤ fields.depth := by
  match fields, t with
  | .nil, _ => cases h; exact Nat.zero_le _
  | .cons key _ shape rest, (a, t) =>
    obtain ⟨j, es', hj, hes, rfl⟩ := Fields.dump_cons.mp h
    exact max_le_max (shape.depth_dump hj) (rest.depth_dump hes)

end

end RemoteSigner
