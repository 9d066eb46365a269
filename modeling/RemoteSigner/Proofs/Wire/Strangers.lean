import Mathlib
import RemoteSigner.Proofs.Wire.Grammar

/-!
# One entry too many

In an accepted value every object is read as a record, whose names are the only keys that it may have
(`Shape.namesAt`). If an entry with any other key is added to one of these objects (`Json.Inserted`), then
the value is not accepted any more, and that entry is the only thing wrong with it
(`Shape.check_inserted`).
-/

namespace RemoteSigner

/-! ## Added entries -/

/-- The second value is the first with one more entry, in the object at the path. Where a key is repeated,
the path goes through its last value. -/
inductive Json.Inserted (k : String) (x : Json) : Json → Json → List Step → Prop
  | here (before after : List (String × Json)) :
      Inserted k x (.object (before ++ after)) (.object (before ++ (k, x) :: after)) []
  | entry {name : String} {j j' : Json} {path : List Step} (before after : List (String × Json))
      (hlast : name ∉ Entries.keys after) (h : Inserted k x j j' path) :
      Inserted k x (.object (before ++ (name, j) :: after)) (.object (before ++ (name, j') :: after))
        (.key (.whole name) :: path)
  | item {j j' : Json} {path : List Step} (before after : List Json) (h : Inserted k x j j' path) :
      Inserted k x (.list (before ++ j :: after)) (.list (before ++ j' :: after))
        (.index before.length :: path)

mutual

/-- The names of the fields of the record that stands at the path. -/
def Shape.namesAt {α : Type} : Shape α → List Step → Option (List String)
  | .nullable s, path => s.namesAt path
  | .list s, path =>
    match path with
    | .index _ :: path => s.namesAt path
    | _ => none
  | .record _ fields, path =>
    match path with
    | [] => some fields.names
    | .key (.whole name) :: path => fields.namesAt name path
    | _ => none
  | .integer, _ | .count, _ | .text, _ | .filled, _ | .hex, _ | .choice _, _ => none

/-- The same below the field of this name. -/
def Fields.namesAt {τ : Type} : Fields τ → String → List Step → Option (List String)
  | .nil, _, _ => none
  | .cons key _ shape rest, name, path =>
    if name ∈ key.spellings then shape.namesAt path else rest.namesAt name path

end

mutual

/-- In no record at any depth two fields have a name in common. -/
def Shape.HasDistinctNames {α : Type} : Shape α → Prop
  | .nullable s => s.HasDistinctNames
  | .list s => s.HasDistinctNames
  | .record _ fields => fields.names.Nodup ∧ fields.HaveDistinctNames
  | _ => True

def Fields.HaveDistinctNames {τ : Type} : Fields τ → Prop
  | .nil => True
  | .cons _ _ shape rest => shape.HasDistinctNames ∧ rest.HaveDistinctNames

end

/-! ## Entries -/

section

variable {κ σ : Type} [DecidableEq κ]

theorem Entries.get?_insert {k s : κ} (hs : s ≠ k) (x : σ) (before after : List (κ × σ)) :
    get? s (before ++ (k, x) :: after) = get? s (before ++ after) := by
  rw [get?_append, get?_append, get?_cons_of_ne (Ne.symm hs)]

theorem Entries.get?_replace {k s : κ} (hs : s ≠ k) (x y : σ) (before after : List (κ × σ)) :
    get? s (before ++ (k, y) :: after) = get? s (before ++ (k, x) :: after) := by
  rw [get?_insert hs, get?_insert hs]

variable {entries entries' : List (Text × σ)}

/-- A field depends on the entries under its names only. -/
theorem FieldKey.find?_congr {key : FieldKey}
    (h : ∀ s ∈ key.spellings, Entries.get? (.whole s) entries' = Entries.get? (.whole s) entries) :
    key.find? entries' = key.find? entries := by
  unfold find?
  generalize key.spellings = names at h ⊢
  induction names with
  | nil => rfl
  | cons s rest ih =>
    obtain ⟨hs, hrest⟩ := List.forall_mem_cons.mp h
    rw [List.findSome?_cons, List.findSome?_cons, hs, ih hrest]

theorem FieldKey.map_fst_find?_congr {key : FieldKey} (h : ∀ s ∈ key.spellings,
      (Entries.get? (.whole s) entries').isSome = (Entries.get? (.whole s) entries).isSome) :
    (key.find? entries').map Prod.fst = (key.find? entries).map Prod.fst := by
  unfold find?
  generalize key.spellings = names at h ⊢
  induction names with
  | nil => rfl
  | cons s rest ih =>
    obtain ⟨hs, hrest⟩ := List.forall_mem_cons.mp h
    rw [List.findSome?_cons, List.findSome?_cons]
    cases hget : Entries.get? (.whole s) entries <;> cases hget' : Entries.get? (.whole s) entries' <;>
      rw [hget, hget'] at hs
    · exact ih hrest
    · cases hs
    · cases hs
    · rfl

/-- A field stays where it is if the value there alone changes. -/
theorem FieldKey.find?_replace {key : FieldKey} {name : String} {v v' : σ}
    (h : key.find? entries = some (name, v))
    (hother : ∀ s ≠ name, Entries.get? (.whole s) entries' = Entries.get? (.whole s) entries)
    (hv' : Entries.get? (.whole name) entries' = some v') : key.find? entries' = some (name, v') := by
  have hsome : ∀ s ∈ key.spellings,
      (Entries.get? (.whole s) entries').isSome = (Entries.get? (.whole s) entries).isSome := by
    intro s _
    by_cases hs : s = name
    · rw [hs, hv', get?_of_find? h]
      rfl
    · rw [hother s hs]
  have hfst : (key.find? entries').map Prod.fst = some name := by
    rw [map_fst_find?_congr hsome, h]
    rfl
  obtain ⟨e, he, rfl⟩ := Option.map_eq_some_iff.mp hfst
  obtain rfl : e.2 = v' := Option.some.inj ((get?_of_find? he).symm.trans hv')
  exact he

theorem Fields.spellings_congr {τ : Type} (fields : Fields τ) (h : ∀ s ∈ fields.names,
      (Entries.get? (.whole s) entries').isSome = (Entries.get? (.whole s) entries).isSome) :
    fields.spellings entries' = fields.spellings entries := by
  match fields with
  | .nil => rfl
  | .cons key _ _ rest =>
    obtain ⟨hkey, hrest⟩ := List.forall_mem_append.mp h
    have hspelling : ∀ es : List (Text × σ), (key.find? es).map (fun e => Text.whole e.1) =
        ((key.find? es).map Prod.fst).map Text.whole := fun es => Option.map_map .. |>.symm
    rw [spellings, spellings, hspelling, hspelling, FieldKey.map_fst_find?_congr hkey,
      rest.spellings_congr hrest]

theorem checkField_of_find? {α : Type} {key : FieldKey} {fallback : Option α} {check : σ → Verdict α}
    {s : String} {v : σ} (h : key.find? entries = some (s, v)) :
    checkField key fallback check entries = (check v).under (.key (.whole s)) := by
  unfold checkField
  rw [h]

theorem checkField_congr {α : Type} {key : FieldKey} {fallback : Option α} {check : σ → Verdict α}
    (h : key.find? entries' = key.find? entries) :
    checkField key fallback check entries' = checkField key fallback check entries := by
  unfold checkField
  rw [h]

theorem Fields.check_congr [Source σ] {τ : Type} (fields : Fields τ)
    (h : ∀ s ∈ fields.names, Entries.get? (.whole s) entries' = Entries.get? (.whole s) entries) :
    fields.check entries' = fields.check entries := by
  match fields with
  | .nil => rfl
  | .cons key _ _ rest =>
    obtain ⟨hkey, hrest⟩ := List.forall_mem_append.mp h
    rw [check, check, checkField_congr (FieldKey.find?_congr hkey), rest.check_congr hrest]

/-- The one stranger among entries that are all known otherwise. -/
theorem strangers_insert {known : List Text} {k : Text} (hk : k ∉ known) (x : σ)
    {before after : List (Text × σ)} (h : ∀ e ∈ before ++ after, e.1 ∈ known) :
    strangers known (before ++ (k, x) :: after) = [⟨.extra, [.key k]⟩] := by
  obtain ⟨hbefore, hafter⟩ := List.forall_mem_append.mp h
  have hnone : ∀ es : List (Text × σ), (∀ e ∈ es, e.1 ∈ known) → strangers known es = [] :=
    fun es => strangers_eq_nil.mpr
  have hstranger : strangers known [(k, x)] = [⟨.extra, [.key k]⟩] := by
    simp [strangers, hk]
  have hsplit : ∀ es es' : List (Text × σ),
      strangers known (es ++ es') = strangers known es ++ strangers known es' := by
    intro es es'
    rw [strangers, List.filter_append, List.map_append]
    rfl
  rw [List.append_cons, hsplit, hsplit, hnone before hbefore, hnone after hafter, hstranger]
  rfl

end

/-! ## Verdicts -/

theorem Verdict.each_replace {α : Type} {vs ws : List (Verdict α)} {v : Verdict α} {as : List α}
    {i : Nat} (h : each i (vs ++ v :: ws) = .ok as) (issues : List Issue) :
    each i (vs ++ .error issues :: ws) = .error (issues.map (Issue.under (.index (i + vs.length)))) := by
  induction vs generalizing i as with
  | nil =>
    rw [List.nil_append, each_eq_ok, List.forall₂_cons_left_iff] at h
    obtain ⟨_, as', -, hws, -⟩ := h
    rw [List.nil_append, each, each_eq_ok.mpr hws]
    rfl
  | cons w vs ih =>
    rw [List.cons_append, each_eq_ok, List.forall₂_cons_left_iff] at h
    obtain ⟨a, as', hw, hrest, -⟩ := h
    rw [List.cons_append, each, ih (each_eq_ok.mpr hrest), hw, List.length_cons, Nat.add_right_comm,
      Nat.add_assoc]
    rfl

/-! ## One entry too many -/

theorem Json.sourceEntries_append (es es' : List (String × Json)) :
    sourceEntries (es ++ es') = sourceEntries es ++ sourceEntries es' :=
  List.map_append

variable [Readers]

/-- The keys of an object are not ragged, so what counts is which of them belong to no field. -/
theorem Shape.check_object {ρ τ : Type} (form : Form ρ τ) (fields : Fields τ)
    (es : List (String × Json)) : (Shape.record form fields).check (Json.object es) =
      form.conclude ((fields.check (Json.sourceEntries es)).also Readers.strangersFirst
        (strangers (fields.spellings (Json.sourceEntries es)) (Json.sourceEntries es))) := by
  rw [Shape.check]
  show form.conclude (judgeEntries _ _ _ (Json.sourceEntries es)) = _
  rw [judgeEntries, if_pos (List.all_eq_true.mpr Json.isWhole_of_mem_sourceEntries)]
  rfl

section

variable {k : String} {x : Json}

/-- An entry that belongs to no field, in a record that is accepted otherwise. -/
theorem Shape.check_record_insert {ρ τ : Type} {form : Form ρ τ} {fields : Fields τ}
    {before after : List (String × Json)} {r : ρ}
    (h : (Shape.record form fields).check (Json.object (before ++ after)) = .ok r)
    (hk : k ∉ fields.names) : (Shape.record form fields).check (Json.object (before ++ (k, x) :: after)) =
      .error [⟨.extra, [.key (.whole k)]⟩] := by
  obtain ⟨_, hes, hknown, hfields⟩ := Shape.check_record_eq_ok.mp h
  cases hes
  have hget : ∀ s ∈ fields.names,
      Entries.get? (.whole s) (Json.sourceEntries before ++ (.whole k, x) :: Json.sourceEntries after) =
        Entries.get? (.whole s) (Json.sourceEntries before ++ Json.sourceEntries after) := by
    intro s hs
    refine Entries.get?_insert (fun h => ?_) x _ _
    cases h
    exact hk hs
  have hcons : Json.sourceEntries ((k, x) :: after) = (.whole k, x) :: Json.sourceEntries after := rfl
  rw [Json.sourceEntries_append] at hknown hfields
  rw [check_object, Json.sourceEntries_append, hcons, fields.check_congr hget, hfields,
    fields.spellings_congr fun s hs => congrArg Option.isSome (hget s hs),
    strangers_insert (fun h => hk (fields.mem_names h)) x hknown]
  rfl

/-- One field that is not accepted, in a record that is accepted otherwise. -/
theorem Shape.check_record_replace {ρ τ : Type} {form : Form ρ τ} {fields : Fields τ}
    {es es' : List (String × Json)} {r : ρ}
    (h : (Shape.record form fields).check (Json.object es) = .ok r)
    (hkeys : Entries.keys es' = Entries.keys es) {issues : List Issue}
    (hfails : fields.check (Json.sourceEntries es') = .error issues) :
    (Shape.record form fields).check (Json.object es') = .error issues := by
  obtain ⟨_, hes, hknown, hfields⟩ := Shape.check_record_eq_ok.mp h
  cases hes
  have hsome : ∀ s, (Entries.get? (.whole s) (Json.sourceEntries es')).isSome =
      (Entries.get? (.whole s) (Json.sourceEntries es)).isSome := by
    intro s
    rw [Json.get?_sourceEntries_eq, Json.get?_sourceEntries_eq, Bool.eq_iff_iff, Entries.isSome_get?,
      Entries.isSome_get?, hkeys]
  have hstrangers : strangers (fields.spellings (Json.sourceEntries es')) (Json.sourceEntries es') = [] := by
    rw [fields.spellings_congr fun s _ => hsome s, strangers_eq_nil]
    intro e he
    obtain ⟨e', he', rfl⟩ := List.mem_map.mp he
    have hk : e'.1 ∈ Entries.keys es := hkeys ▸ List.mem_map_of_mem he'
    obtain ⟨d, hd, hkey⟩ := List.mem_map.mp hk
    have hd : Text.whole d.1 ∈ fields.spellings (Json.sourceEntries es) :=
      hknown (.whole d.1, d.2) (List.mem_map_of_mem hd)
    rw [hkey] at hd
    exact hd
  rw [check_object, hfails, hstrangers]
  show form.conclude (.error (if Readers.strangersFirst then [] ++ issues else issues ++ [])) = _
  rw [List.nil_append, List.append_nil, ite_self]
  rfl

mutual

/-- An entry too many in an accepted value is the one thing that is wrong with it then. -/
theorem Shape.check_inserted {α : Type} (s : Shape α) (hs : s.HasDistinctNames) {j j' : Json}
    {a : α} (h : s.check j = .ok a) {path : List Step}
    (hins : Json.Inserted k x j j' path) : ∃ names, s.namesAt path = some names ∧
      (k ∉ names → s.check j' = .error [⟨.extra, path ++ [.key (.whole k)]⟩]) := by
  match s, a with
  | .integer, _ | .count, _ | .text, _ | .filled, _ | .hex, _ | .choice _, _ =>
    cases hins <;> cases h
  | .nullable s, _ =>
    have hnull : Source.isNull j = false ∧ Source.isNull j' = false := by
      cases hins <;> exact ⟨rfl, rfl⟩
    rw [Shape.check, hnull.1] at h
    obtain ⟨a, ha, -⟩ := map_eq_ok.mp h
    obtain ⟨names, hnames, hfails⟩ := s.check_inserted hs ha hins
    refine ⟨names, by rw [Shape.namesAt, hnames], fun hk => ?_⟩
    rw [Shape.check, hnull.2, hfails hk]
    rfl
  | .list s, as =>
    obtain ⟨items, rfl, has⟩ := Shape.check_list_eq_ok.mp h
    cases hins with
    | @item i i' path before after hins =>
      have hi : i ∈ before ++ i :: after := by simp
      obtain ⟨a, -, ha⟩ := exists_of_mem_left has hi
      obtain ⟨names, hnames, hfails⟩ := s.check_inserted hs ha hins
      refine ⟨names, by rw [Shape.namesAt, hnames], fun hk => ?_⟩
      have hitems : Verdict.each 0 (before.map s.check ++ s.check i :: after.map s.check) = .ok as := by
        rw [Verdict.each_eq_ok, ← List.map_cons, ← List.map_append, List.forall₂_map_left_iff]
        exact has
      show Verdict.each 0 ((before ++ i' :: after).map s.check) = _
      rw [List.map_append, List.map_cons, hfails hk, Verdict.each_replace hitems, List.length_map,
        Nat.zero_add]
      rfl
  | .record form fields, r =>
    obtain ⟨es, rfl, hknown, hfields⟩ := Shape.check_record_eq_ok.mp h
    obtain ⟨hnodup, hdistinct⟩ := hs
    cases hins with
    | here before after =>
      exact ⟨fields.names, by rw [Shape.namesAt], fun hk => Shape.check_record_insert h hk⟩
    | @entry name v v' path before after hlast hins =>
      have hkeys : ∀ w, Entries.keys (before ++ (name, w) :: after) =
          Entries.keys before ++ name :: Entries.keys after := by
        simp [Entries.keys]
      have hmem : ∀ w, (name, w) ∈ before ++ (name, w) :: after := by simp
      have hget : ∀ w, Entries.get? (.whole name) (Json.sourceEntries (before ++ (name, w) :: after)) =
          some w := by
        intro w
        rw [Json.get?_sourceEntries_eq, Entries.get?_append, Entries.get?_cons_self hlast]
        rfl
      have hother : ∀ s ≠ name,
          Entries.get? (.whole s) (Json.sourceEntries (before ++ (name, v') :: after)) =
            Entries.get? (.whole s) (Json.sourceEntries (before ++ (name, v) :: after)) := by
        intro s hs
        rw [Json.get?_sourceEntries_eq, Json.get?_sourceEntries_eq]
        exact Entries.get?_replace hs ..
      obtain ⟨names, hnames, hfails⟩ := fields.check_inserted hdistinct hnodup hfields
        (hknown _ (List.mem_map_of_mem (hmem v))) (hget v) (hget v') hother hins
      exact ⟨names, by rw [Shape.namesAt, hnames],
        fun hk => Shape.check_record_replace h ((hkeys v').trans (hkeys v).symm) (hfails hk)⟩

/-- The same of the fields of a record, with the entry in the value of one of them. -/
theorem Fields.check_inserted {τ : Type} (fields : Fields τ) (hs : fields.HaveDistinctNames)
    (hnodup : fields.names.Nodup) {entries entries' : List (Text × Json)} {t : τ}
    (h : fields.check entries = .ok t) {name : String} {v v' : Json} {path : List Step}
    (hused : .whole name ∈ fields.spellings entries)
    (hv : Entries.get? (.whole name) entries = some v)
    (hv' : Entries.get? (.whole name) entries' = some v')
    (hother : ∀ s ≠ name, Entries.get? (.whole s) entries' = Entries.get? (.whole s) entries)
    (hins : Json.Inserted k x v v' path) :
    ∃ names, fields.namesAt name path = some names ∧ (k ∉ names →
      fields.check entries' = .error [⟨.extra, .key (.whole name) :: path ++ [.key (.whole k)]⟩]) := by
  match fields, t with
  | .nil, _ => cases hused
  | .cons key fallback shape rest, (a, t) =>
    obtain ⟨hshape, hrest⟩ := hs
    obtain ⟨-, hnodup', hdisjoint⟩ := List.nodup_append.mp hnodup
    obtain ⟨hfield, hchecked⟩ := Verdict.both_eq_ok.mp h
    rw [Fields.namesAt, Fields.check]
    by_cases hname : name ∈ key.spellings
    · have hfind : key.find? entries = some (name, v) := by
        rcases List.mem_append.mp hused with hused | hused
        · obtain ⟨e, he, hkey⟩ := Option.map_eq_some_iff.mp (Option.mem_toList.mp hused)
          obtain rfl : e.1 = name := Text.whole.inj hkey
          obtain rfl : e.2 = v := Option.some.inj ((FieldKey.get?_of_find? he).symm.trans hv)
          exact he
        · exact absurd rfl (hdisjoint name hname name (rest.mem_names hused))
      have hfind' : key.find? entries' = some (name, v') := FieldKey.find?_replace hfind hother hv'
      rw [checkField_of_find? hfind] at hfield
      obtain ⟨names, hnames, hfails⟩ := shape.check_inserted hshape (Verdict.under_eq_ok.mp hfield) hins
      have hrest' : rest.check entries' = .ok t := by
        rw [← hchecked]
        exact rest.check_congr fun s hs => hother s fun h => hdisjoint name hname s hs h.symm
      refine ⟨names, by rw [if_pos hname, hnames], fun hk => ?_⟩
      rw [checkField_of_find? hfind', hrest', hfails hk]
      rfl
    · have hused' : .whole name ∈ rest.spellings entries := by
        rcases List.mem_append.mp hused with hused | hused
        · obtain ⟨e, he, hkey⟩ := Option.map_eq_some_iff.mp (Option.mem_toList.mp hused)
          exact absurd (Text.whole.inj hkey ▸ FieldKey.spelling_of_find? he) hname
        · exact hused
      obtain ⟨names, hnames, hfails⟩ :=
        rest.check_inserted hrest hnodup' hchecked hused' hv hv' hother hins
      have hfield' : checkField key fallback shape.check entries' = .ok a := by
        rw [← hfield]
        exact checkField_congr (FieldKey.find?_congr fun s hs => hother s fun h => hname (h ▸ hs))
      refine ⟨names, by rw [if_neg hname, hnames], fun hk => ?_⟩
      rw [hfield', hfails hk]
      rfl

end

end

end RemoteSigner
