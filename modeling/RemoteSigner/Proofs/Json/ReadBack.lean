import Mathlib
import RemoteSigner.Json.Strict
import RemoteSigner.Proofs.Json.Reading
import RemoteSigner.Proofs.Text.Utf8

/-!
# Compact text is read back

`readText_compact`: the strict reader gives back every value that is exact and not too deep from its
compact text. Lists and objects are read part by part, with any blanks where blanks may stand.
-/

namespace RemoteSigner.Json

/-- Space that means nothing outside strings. -/
def Blanks (us : List Nat) : Prop := ∀ u ∈ us, mark u = .blank

theorem blanks_nil : Blanks [] := fun _ hu => nomatch hu

theorem compactItems_eq (policy : NonFinite) (items : List Json) :
    compactItems policy items = [','].intercalate (items.map (compactChars policy)) := by
  induction items with
  | nil => rfl
  | cons x rest ih =>
    cases rest with
    | nil => rw [List.map_cons, List.map_nil, List.intercalate_singleton, compactItems]
    | cons y rest =>
      simp only [List.map_cons] at ih ⊢
      rw [compactItems, ih, List.intercalate_cons_cons, List.append_assoc, List.singleton_append]

/-- An entry without any space. -/
def entryChars (policy : NonFinite) (e : String × Json) : List Char :=
  quotedChars e.1 ++ ':' :: compactChars policy e.2

/-- An entry with `mid` after its colon. -/
def entryWith (write : Json → List Char) (mid : List Char) (e : String × Json) : List Char :=
  quotedChars e.1 ++ ':' :: (mid ++ write e.2)

theorem compactEntries_eq (policy : NonFinite) (entries : List (String × Json)) :
    compactEntries policy entries = [','].intercalate (entries.map (entryChars policy)) := by
  induction entries with
  | nil => rfl
  | cons x rest ih =>
    cases rest with
    | nil => rw [List.map_cons, List.map_nil, List.intercalate_singleton, compactEntries, entryChars]
    | cons y rest =>
      simp only [List.map_cons] at ih ⊢
      rw [compactEntries, ih, List.intercalate_cons_cons]
      simp [entryChars]

section Policies

variable [Readers]

mutual

/-- Only floats are written by a policy. -/
theorem compactChars_policy (p q : NonFinite) {j : Json} (h : j.Everywhere IsExact) :
    compactChars p j = compactChars q j := by
  cases j with
  | null | bool | int | str => rfl
  | float => exact h.elim
  | list items =>
    rw [compactChars, compactChars, compactItems_eq, compactItems_eq, map_compactChars_policy p q h.2]
  | object entries =>
    rw [compactChars, compactChars, compactEntries_eq, compactEntries_eq, map_entryChars_policy p q h.2]

theorem map_compactChars_policy (p q : NonFinite) {items : List Json}
    (h : EverywhereItems IsExact items) : items.map (compactChars p) = items.map (compactChars q) := by
  cases items with
  | nil => rfl
  | cons j rest =>
    rw [List.map_cons, List.map_cons, compactChars_policy p q h.1, map_compactChars_policy p q h.2]

theorem map_entryChars_policy (p q : NonFinite) {entries : List (String × Json)}
    (h : EverywhereEntries IsExact entries) : entries.map (entryChars p) = entries.map (entryChars q) := by
  cases entries with
  | nil => rfl
  | cons e rest =>
    rw [List.map_cons, List.map_cons, map_entryChars_policy p q h.2, entryChars, entryChars,
      compactChars_policy p q h.1]

end

end Policies

variable {σ α : Type} {D : Dialect σ α} {name : String → σ} {build : Json → α}

theorem units_intercalate (sep : List Char) (css : List (List Char)) :
    D.units (sep.intercalate css) = (D.units sep).intercalate (css.map D.units) := by
  induction css with
  | nil => rfl
  | cons x rest ih =>
    cases rest with
    | nil => simp only [List.map_cons, List.map_nil, List.intercalate_singleton]
    | cons y rest =>
      simp only [List.map_cons] at ih ⊢
      rw [List.intercalate_cons_cons, List.intercalate_cons_cons, units_append, units_append, ih]

/-! ## Blanks -/

theorem feed_blanks {stack : List (Frame σ α)} {f : Focus σ α} (hf : TakesValue f) {us : List Nat}
    (h : Blanks us) : feed D ⟨stack, f⟩ us = .ok ⟨stack, f⟩ := by
  induction us with
  | nil => rfl
  | cons u us ih =>
    have hstep : State.step? D ⟨stack, f⟩ u = some ⟨stack, f⟩ := by
      cases hf <;> simp [State.step?, h u (by simp)]
    rw [feed_cons hstep, ih fun v hv => h v (by simp [hv])]

theorem Holds.feed_blanks {v : α} {stack : List (Frame σ α)} {t : State σ α} (ht : Holds D v stack t)
    {us : List Nat} (h : Blanks us) : ∃ t', feed D t us = .ok t' ∧ Holds D v stack t' := by
  induction us generalizing t with
  | nil => exact ⟨t, rfl, ht⟩
  | cons u us ih =>
    have hu : mark u = .blank := h u (by simp)
    have hstep : t.step? D u = some (State.deliver v stack) := by
      rw [ht.step? (hu ▸ Mark.Ends.blank), hu]
      rfl
    obtain ⟨t', hf, ht'⟩ := ih .delivered fun w hw => h w (by simp [hw])
    exact ⟨t', (feed_cons hstep us).trans hf, ht'⟩

theorem Reads.parse_blanks {room : Nat} {us : List Nat} {v : α} (h : Reads D room us v)
    (hr : room ≤ D.depthLimit) {gap : List Nat} (hg : Blanks gap) :
    Json.parse D (us ++ gap) = .ok v := by
  obtain ⟨t, ht, hv⟩ := h [] .value (by simpa using hr) .value
  obtain ⟨t', ht', hv'⟩ := hv.feed_blanks hg
  rw [Json.parse, State.initial, feed_trans ht ht']
  simp only [hv'.value?]

theorem Reads.parse {room : Nat} {us : List Nat} {v : α} (h : Reads D room us v)
    (hr : room ≤ D.depthLimit) : Json.parse D us = .ok v := by
  simpa using h.parse_blanks hr blanks_nil

theorem Holds.feed_end {v : α} {stack : List (Frame σ α)} {s t : State σ α} {us : List Nat}
    (hs : feed D s us = .ok t) (ht : Holds D v stack t) {gap : List Nat} (hg : Blanks gap) {u : Nat}
    (hm : (mark u).Ends) {s' : State σ α}
    (hu : (State.deliver v stack).follow? D (mark u) = some s') :
    feed D s (us ++ gap ++ [u]) = .ok s' := by
  obtain ⟨t', hf, ht'⟩ := ht.feed_blanks hg
  exact feed_trans (feed_trans hs hf) (feed_one ((ht'.step? hm).trans hu))

/-! ## Strings as values and as keys -/

theorem feed_quoted (hD : D.Faithful name build) {stack : List (Frame σ α)} {k : Bool}
    {s t : State σ α} (hs : s.step? D 34 = some ⟨stack, .quoted k .empty⟩) (text : String)
    (ht : ∀ q : Quotation, q.close D = some (.ok (name text)) →
      State.closeQuote? D stack k q = some t) :
    feed D s (D.units (quotedChars text)) = .ok t := by
  obtain ⟨q, hq, hf⟩ : ∃ q, Between ((D.units text.toList).reverse ++ []) q ∧
      feed D ⟨stack, .quoted k .empty⟩ (D.units (text.toList.flatMap escape)) =
        .ok ⟨stack, .quoted k q⟩ := feed_escaped hD (.mk 0 false) text.toList
  rw [List.append_nil] at hq
  rw [quotedChars, List.cons_append, units_cons_ascii hD (by decide), units_append,
    units_cons_ascii hD (by decide), units_nil, show '"'.toNat = 34 from rfl, feed_cons hs]
  refine feed_trans hf (feed_one ?_)
  have hp : q.phase = .plain := by cases hq; rfl
  simp only [State.step?]
  rw [if_pos ⟨hp, trivial⟩]
  exact ht q (close_of_between hD hq)

theorem reads_text (hD : D.Faithful name build) (text : String) :
    Reads D 1 (D.units (quotedChars text)) (D.text (name text)) := by
  intro stack f hs hf
  have hopen : State.step? D ⟨stack, f⟩ 34 = some ⟨stack, .quoted false .empty⟩ := by
    rw [step?_start hf (m := .quote) rfl (by simp) (by simp), State.start?,
      if_pos (admits_of_lt (by omega) _)]
  refine ⟨_, feed_quoted hD hopen text fun q hq => ?_, .delivered⟩
  simp [State.closeQuote?, hq]

/-- Where a key may start. -/
inductive TakesKey : Focus σ α → Prop
  | firstKey : TakesKey .firstKey
  | nextKey : TakesKey .nextKey

theorem feed_key (hD : D.Faithful name build) {es : List (σ × α)} {outer : List (Frame σ α)}
    {f : Focus σ α} (hf : TakesKey f) (key : String) {gap : List Nat}
    (hg : Blanks gap) :
    feed D ⟨.object es :: outer, f⟩ (D.units (quotedChars key) ++ 58 :: gap) =
      .ok ⟨.entry es (name key) :: outer, .value⟩ := by
  have hopen : State.step? D ⟨.object es :: outer, f⟩ 34 =
      some ⟨.object es :: outer, .quoted true .empty⟩ := by
    cases hf <;> rfl
  have hcolon : State.step? D ⟨.entry es (name key) :: outer, .colon⟩ 58 =
      some ⟨.entry es (name key) :: outer, .value⟩ := rfl
  refine feed_trans (feed_quoted hD hopen key fun q hq => ?_)
    ((feed_cons hcolon gap).trans (feed_blanks .value hg))
  simp only [State.closeQuote?, hq]

/-! ## Lists -/

/-- The items of a list up to its closing bracket, with `gap` after each comma. -/
theorem feed_items {room : Nat} {gap last : List Nat} (hg : Blanks gap) (hl : Blanks last)
    {stack : List (Frame σ α)} (hroom : stack.length + 1 + room ≤ D.depthLimit)
    {parts : List (List Nat × α)} (hne : parts ≠ []) (h : ∀ p ∈ parts, Reads D room p.1 p.2)
    {acc : List α} {f : Focus σ α} (hf : TakesValue f) :
    feed D ⟨.list acc :: stack, f⟩
        ((44 :: gap).intercalate (parts.map (·.1)) ++ last ++ [93]) =
      .ok (State.deliver (D.list (acc.reverse ++ parts.map (·.2))) stack) := by
  induction parts generalizing acc f with
  | nil => exact absurd rfl hne
  | cons p rest ih =>
    obtain ⟨t, ht, hv⟩ := h p (by simp) (.list acc :: stack) f (by simpa using hroom) hf
    cases rest with
    | nil =>
      rw [List.map_cons, List.map_nil, List.intercalate_singleton]
      rw [hv.feed_end ht hl (u := 93) .closeList rfl]
      simp
    | cons p' rest =>
      have hcomma : feed D ⟨.list acc :: stack, f⟩ (p.1 ++ 44 :: gap) =
          .ok ⟨.list (p.2 :: acc) :: stack, .nextItem⟩ := by
        have := hv.feed_end ht blanks_nil (u := 44) .comma rfl
        rw [List.append_nil] at this
        rw [List.append_cons]
        exact feed_trans this (feed_blanks .nextItem hg)
      simp only [List.map_cons] at ih ⊢
      rw [List.intercalate_cons_cons, List.append_assoc, List.append_assoc]
      rw [feed_trans hcomma]
      rw [← List.append_assoc, ih (by simp) (fun q hq => h q (by simp [hq])) .nextItem]
      simp

theorem reads_list {room : Nat} {gap first last : List Nat} (hg : Blanks gap) (hf : Blanks first)
    (hl : Blanks last) {parts : List (List Nat × α)} (hne : parts ≠ [])
    (h : ∀ p ∈ parts, Reads D room p.1 p.2) :
    Reads D (room + 1)
      (91 :: first ++ (44 :: gap).intercalate (parts.map (·.1)) ++ last ++ [93])
      (D.list (parts.map (·.2))) := by
  intro stack f hs hf'
  refine ⟨_, ?_, .delivered⟩
  have hopen : State.step? D ⟨stack, f⟩ 91 = some ⟨.list [] :: stack, .firstItem⟩ := by
    rw [step?_start hf' (m := .openList) rfl (by simp) (by simp), State.start?,
      if_pos (admits_of_lt (by omega) _)]
  simp only [List.cons_append, List.append_assoc]
  rw [feed_cons hopen, feed_trans (feed_blanks .firstItem hf)]
  rw [← List.append_assoc, feed_items hg hl (by omega) hne h .firstItem]
  rfl

theorem reads_nil : Reads D 1 [91, 93] (D.list []) := by
  intro stack f hs hf
  refine ⟨_, ?_, .delivered⟩
  have hopen : State.step? D ⟨stack, f⟩ 91 = some ⟨.list [] :: stack, .firstItem⟩ := by
    rw [step?_start hf (m := .openList) rfl (by simp) (by simp), State.start?,
      if_pos (admits_of_lt (by omega) _)]
  rw [feed_cons hopen]
  exact feed_one rfl

/-! ## Objects -/

theorem feed_keyBlanks {stack : List (Frame σ α)} {f : Focus σ α} (hf : TakesKey f) {us : List Nat}
    (h : Blanks us) : feed D ⟨stack, f⟩ us = .ok ⟨stack, f⟩ := by
  induction us with
  | nil => rfl
  | cons u us ih =>
    have hstep : State.step? D ⟨stack, f⟩ u = some ⟨stack, f⟩ := by
      cases hf <;> simp [State.step?, h u (by simp)]
    rw [feed_cons hstep, ih fun v hv => h v (by simp [hv])]

/-- An entry of an object: its key, the units of its value and the value. -/
structure EntryPart (α : Type) where
  key : String
  units : List Nat
  value : α

/-- The units of an entry, with `mid` after the colon. -/
def EntryPart.spelt (D : Dialect σ α) (mid : List Nat) (p : EntryPart α) : List Nat :=
  D.units (quotedChars p.key) ++ 58 :: mid ++ p.units

theorem feed_entries (hD : D.Faithful name build) {room : Nat} {gap mid last : List Nat}
    (hg : Blanks gap) (hm : Blanks mid) (hl : Blanks last) {stack : List (Frame σ α)}
    (hroom : stack.length + 1 + room ≤ D.depthLimit) {parts : List (EntryPart α)}
    (hne : parts ≠ []) (h : ∀ p ∈ parts, Reads D room p.units p.value)
    {acc : List (σ × α)} {f : Focus σ α} (hf : TakesKey f) :
    feed D ⟨.object acc :: stack, f⟩
        ((44 :: gap).intercalate (parts.map (·.spelt D mid)) ++ last ++ [125]) =
      .ok (State.deliver (D.object (acc ++ parts.map fun p => (name p.key, p.value))) stack) := by
  induction parts generalizing acc f with
  | nil => exact absurd rfl hne
  | cons p rest ih =>
    obtain ⟨t, ht, hv⟩ := h p (by simp) (.entry acc (name p.key) :: stack) .value
      (by simpa using hroom) .value
    have hentry := feed_trans (feed_key hD hf p.key hm) ht
    cases rest with
    | nil =>
      rw [List.map_cons, List.map_nil, List.intercalate_singleton]
      rw [EntryPart.spelt, hv.feed_end hentry hl (u := 125) .closeObject rfl]
      simp
    | cons p' rest =>
      have hcomma : feed D ⟨.object acc :: stack, f⟩ (p.spelt D mid ++ 44 :: gap) =
          .ok ⟨.object (acc ++ [(name p.key, p.value)]) :: stack, .nextKey⟩ := by
        have := hv.feed_end hentry blanks_nil (u := 44) .comma rfl
        rw [List.append_nil] at this
        rw [List.append_cons]
        exact feed_trans this (feed_keyBlanks .nextKey hg)
      simp only [List.map_cons] at ih ⊢
      rw [List.intercalate_cons_cons, List.append_assoc, List.append_assoc]
      rw [feed_trans hcomma]
      rw [← List.append_assoc, ih (by simp) (fun q hq => h q (by simp [hq])) .nextKey]
      simp

theorem reads_object (hD : D.Faithful name build) {room : Nat} {gap mid first last : List Nat}
    (hg : Blanks gap) (hm : Blanks mid) (hf : Blanks first) (hl : Blanks last)
    {parts : List (EntryPart α)} (hne : parts ≠ [])
    (h : ∀ p ∈ parts, Reads D room p.units p.value) :
    Reads D (room + 1)
      (123 :: first ++ (44 :: gap).intercalate (parts.map (·.spelt D mid)) ++ last ++ [125])
      (D.object (parts.map fun p => (name p.key, p.value))) := by
  intro stack f hs hf'
  refine ⟨_, ?_, .delivered⟩
  have hopen : State.step? D ⟨stack, f⟩ 123 = some ⟨.object [] :: stack, .firstKey⟩ := by
    rw [step?_start hf' (m := .openObject) rfl (by simp) (by simp), State.start?,
      if_pos (admits_of_lt (by omega) _)]
  simp only [List.cons_append, List.append_assoc]
  rw [feed_cons hopen, feed_trans (feed_keyBlanks .firstKey hf)]
  rw [← List.append_assoc, feed_entries hD hg hm hl (by omega) hne h .firstKey]
  rfl

theorem reads_empty : Reads D 1 [123, 125] (D.object []) := by
  intro stack f hs hf
  refine ⟨_, ?_, .delivered⟩
  have hopen : State.step? D ⟨stack, f⟩ 123 = some ⟨.object [] :: stack, .firstKey⟩ := by
    rw [step?_start hf (m := .openObject) rfl (by simp) (by simp), State.start?,
      if_pos (admits_of_lt (by omega) _)]
  rw [feed_cons hopen]
  exact feed_one rfl

/-! ## Compact text -/

theorem reads_emptyList (hD : D.Faithful name build) :
    Reads D 1 (D.units ['[', ']']) (build (.list [])) := by
  rw [← hD.list, units_ascii hD (by simp)]
  exact reads_nil

theorem reads_emptyObject (hD : D.Faithful name build) :
    Reads D 1 (D.units ['{', '}']) (build (.object [])) := by
  rw [← hD.object [] List.nodup_nil, units_ascii hD (by simp)]
  exact reads_empty

theorem reads_boolChars (hD : D.Faithful name build) (b : Bool) :
    Reads D 1 (D.units (boolChars b)) (D.bool b) := by
  cases b with
  | false =>
    rw [show boolChars false = ['f', 'a', 'l', 's', 'e'] by simp [boolChars],
      units_ascii hD (by simp)]
    exact reads_word rfl rfl
  | true =>
    rw [show boolChars true = ['t', 'r', 'u', 'e'] by simp [boolChars], units_ascii hD (by simp)]
    exact reads_word rfl rfl

theorem reads_nullChars (hD : D.Faithful name build) : Reads D 1 (D.units "null".toList) D.null := by
  rw [show "null".toList = ['n', 'u', 'l', 'l'] by simp, units_ascii hD (by simp)]
  exact reads_word rfl rfl

theorem ascii_of_isDigit {c : Char} (h : c.isDigit) : c.toNat < 0x80 := by
  simp only [Char.isDigit, Bool.and_eq_true, decide_eq_true_eq, UInt32.le_iff_toNat_le] at h
  exact h.2.trans_lt (by decide)

theorem ascii_intChars (n : Int) : ∀ c ∈ intChars n, c.toNat < 0x80 := by
  have hdigits : ∀ c ∈ Nat.toDigits 10 n.natAbs, c.toNat < 0x80 := fun c hc =>
    ascii_of_isDigit (Nat.isDigit_of_mem_toDigits (by decide) (by decide) hc)
  unfold intChars
  split_ifs
  · intro c hc
    rcases List.mem_cons.mp hc with rfl | hc
    · decide
    · exact hdigits c hc
  · exact hdigits

section Containers

variable (hD : D.Faithful name build) {room : Nat} {write : Json → List Char}
  (gap mid first last : List Char) (hg : Blanks (D.units gap)) (hm : Blanks (D.units mid))
  (hf : Blanks (D.units first)) (hl : Blanks (D.units last))

include hD hg hf hl

/-- A list that is not empty is read, with blanks around its items, if each of them is. -/
theorem reads_listWith {items : List Json} (hne : items ≠ [])
    (h : ∀ j ∈ items, Reads D room (D.units (write j)) (build j)) :
    Reads D (room + 1)
      (D.units ('[' :: first ++ (',' :: gap).intercalate (items.map write) ++ last ++ [']']))
      (build (.list items)) := by
  have hread : ∀ p ∈ items.map fun j => (D.units (write j), build j), Reads D room p.1 p.2 := by
    intro p hp
    obtain ⟨j, hj, rfl⟩ := List.mem_map.mp hp
    exact h j hj
  have hparts := reads_list hg hf hl (by simpa using hne) hread
  rw [List.cons_append, List.cons_append, List.cons_append, units_cons_ascii hD (by decide),
    units_append, units_append, units_append, units_intercalate, ← hD.list,
    units_cons_ascii hD (by decide), units_cons_ascii hD (by decide)]
  simpa [Function.comp_def] using hparts

include hm

/-- An object that is not empty is read, with blanks around the parts of its entries, if the value of each
of them is. -/
theorem reads_objectWith {entries : List (String × Json)} (hne : entries ≠ [])
    (hkeys : (Entries.keys entries).Nodup)
    (h : ∀ e ∈ entries, Reads D room (D.units (write e.2)) (build e.2)) :
    Reads D (room + 1)
      (D.units ('{' :: first ++ (',' :: gap).intercalate (entries.map (entryWith write mid)) ++ last ++
        ['}']))
      (build (.object entries)) := by
  let part (e : String × Json) : EntryPart α := ⟨e.1, D.units (write e.2), build e.2⟩
  have hspelt (e : String × Json) : D.units (entryWith write mid e) = (part e).spelt D (D.units mid) := by
    rw [entryWith, units_append, units_cons_ascii hD (by decide), units_append, EntryPart.spelt,
      List.append_assoc]
    rfl
  have hread : ∀ p ∈ entries.map part, Reads D room p.units p.value := by
    intro p hp
    obtain ⟨e, he, rfl⟩ := List.mem_map.mp hp
    exact h e he
  have hparts := reads_object hD hg hm hf hl (by simpa using hne) hread
  rw [List.cons_append, List.cons_append, List.cons_append, units_cons_ascii hD (by decide),
    units_append, units_append, units_append, units_intercalate, ← hD.object entries hkeys,
    units_cons_ascii hD (by decide), units_cons_ascii hD (by decide)]
  simpa [Function.comp_def, hspelt, part] using hparts

end Containers

theorem reads_listChars (hD : D.Faithful name build) (policy : NonFinite) {room : Nat}
    {items : List Json}
    (h : ∀ j ∈ items, Reads D room (D.units (compactChars policy j)) (build j)) :
    Reads D (room + 1) (D.units (compactChars policy (.list items))) (build (.list items)) := by
  by_cases hne : items = []
  · subst hne
    exact (reads_emptyList hD).mono (by omega)
  · rw [compactChars, compactItems_eq]
    simpa using reads_listWith hD [] [] [] blanks_nil blanks_nil blanks_nil hne h

theorem reads_objectChars (hD : D.Faithful name build) (policy : NonFinite) {room : Nat}
    {entries : List (String × Json)} (hkeys : (Entries.keys entries).Nodup)
    (h : ∀ e ∈ entries, Reads D room (D.units (compactChars policy e.2)) (build e.2)) :
    Reads D (room + 1) (D.units (compactChars policy (.object entries)))
      (build (.object entries)) := by
  by_cases hne : entries = []
  · subst hne
    exact (reads_emptyObject hD).mono (by omega)
  · have hentry : entryWith (compactChars policy) [] = entryChars policy := rfl
    rw [compactChars, compactEntries_eq, ← hentry]
    simpa using reads_objectWith hD [] [] [] [] blanks_nil blanks_nil blanks_nil blanks_nil hne hkeys h

section Compact

variable (hD : D.Faithful name build) (policy : NonFinite) {p : Json → Prop}
  (hint : ∀ n, p (.int n) → D.Takes n) (hobject : ∀ es, p (.object es) → (Entries.keys es).Nodup)
  (hfloat : ∀ x, p (.float x) → Reads D 1 (D.units (floatChars policy x)) (build (.float x)))

include hD hint hobject hfloat

-- the parts use the assumptions only through each other
set_option linter.unusedSectionVars false in
mutual

/-- The compact text of a value is read as that value if floats are, wherever there is room for its
depth. -/
theorem reads_compactWhere (j : Json) (h : j.Everywhere p) :
    Reads D j.depth (D.units (compactChars policy j)) (build j) := by
  cases j with
  | null =>
    rw [compactChars, ← hD.null]
    exact reads_nullChars hD
  | bool b =>
    rw [compactChars, ← hD.bool]
    exact reads_boolChars hD b
  | int n =>
    rw [compactChars, units_ascii hD (ascii_intChars n), ← hD.int]
    exact reads_int (hint _ h)
  | float x => exact hfloat x h
  | str s =>
    rw [compactChars, ← hD.text]
    exact reads_text hD s
  | list items =>
    rw [Everywhere] at h
    exact reads_listChars hD policy (reads_compactItems items h.2)
  | object entries =>
    rw [Everywhere] at h
    exact reads_objectChars hD policy (hobject _ h.1) (reads_compactEntries entries h.2)

theorem reads_compactItems (items : List Json) (h : EverywhereItems p items) :
    ∀ j ∈ items, Reads D (depthOfItems items) (D.units (compactChars policy j)) (build j) := by
  cases items with
  | nil => exact fun _ hj => nomatch hj
  | cons x rest =>
    intro j hj
    rw [depthOfItems]
    rcases List.mem_cons.mp hj with hj | hj
    · rw [hj]
      exact (reads_compactWhere x h.1).mono (le_max_left _ _)
    · exact (reads_compactItems rest h.2 j hj).mono (le_max_right _ _)

theorem reads_compactEntries (entries : List (String × Json)) (h : EverywhereEntries p entries) :
    ∀ e ∈ entries,
      Reads D (depthOfEntries entries) (D.units (compactChars policy e.2)) (build e.2) := by
  cases entries with
  | nil => exact fun _ he => nomatch he
  | cons x rest =>
    obtain ⟨k, v⟩ := x
    intro e he
    rw [depthOfEntries]
    rcases List.mem_cons.mp he with he | he
    · rw [he]
      exact (reads_compactWhere v h.1).mono (le_max_left _ _)
    · exact (reads_compactEntries rest h.2 e he).mono (le_max_right _ _)

end

end Compact

variable [Readers]

/-- The compact text of an exact value is read as that value, wherever there is room for its depth. -/
theorem reads_compact (hD : D.Faithful name build) (htakes : ∀ n, FewDigits n → D.Takes n)
    (policy : NonFinite) (j : Json) (h : j.Everywhere IsExact) :
    Reads D j.depth (D.units (compactChars policy j)) (build j) :=
  reads_compactWhere hD policy htakes (fun _ h => h) (fun _ h => h.elim) j h

/-! ## The strict reader -/

theorem strict_object {es : List (String × Json)} (hkeys : (Entries.keys es).Nodup) :
    strict.object es = .object es := by
  show Json.object (if Readers.keepsRepeats then es else Entries.ofPairs es) = .object es
  rw [Entries.ofPairs_of_nodup hkeys, ite_self]

theorem strict_faithful : strict.Faithful id id where
  spell_ascii _ h := Utf8.spell_ascii h
  eq_or_le_of_mem_spell _ _ h := Utf8.le_of_mem_spell h
  complete_units s := by
    have : Utf8.decode (strict.units s.toList) = .ok s.toList := Utf8.decode_encode s.toList
    simp only [strict] at this ⊢
    rw [this]
    simp
  name_inj := Function.injective_id
  null := rfl
  bool _ := rfl
  int _ := rfl
  text _ := rfl
  list items := by rw [List.map_id]; rfl
  object es hkeys := by
    have hes : es.map (fun e => (id e.1, id e.2)) = es := List.map_id es
    rw [hes]
    exact strict_object hkeys

theorem strict_takes {n : Int} (h : FewDigits n) : strict.Takes n := h

/-- The strict reader gives back an exact value that is not too deep from its compact text. -/
theorem readText_compact (policy : NonFinite) {j : Json} (h : j.Everywhere IsExact)
    (hd : j.depth ≤ strict.depthLimit) : readText (j.compact policy) = .ok j := by
  have hparse : parse strict (Utf8.encode (compactChars policy j)) = .ok j :=
    (reads_compact strict_faithful (fun _ => strict_takes) policy j h).parse hd
  rw [readText, read, compact, String.toList_ofList, hparse]

end RemoteSigner.Json
