import Mathlib
import RemoteSigner.Proofs.Json.ReadBack

/-!
# Indented text is read back

Indented text differs from compact text in its layout only. The layout is what `squeeze` takes away, the white
space outside strings, and what is left is the compact text (`squeeze_indented`). A reader passes over the
layout, so it gives back the value from indented text too (`readText_indented`).
-/

namespace RemoteSigner.Json

theorem indentedItems_eq (policy : NonFinite) (level : Nat) (items : List Json) :
    indentedItems policy level items =
      (',' :: newline level).intercalate (items.map (indentedChars policy level)) := by
  induction items with
  | nil => rfl
  | cons x rest ih =>
    cases rest with
    | nil => rw [List.map_cons, List.map_nil, List.intercalate_singleton, indentedItems]
    | cons y rest =>
      simp only [List.map_cons] at ih ⊢
      rw [indentedItems, ih, List.intercalate_cons_cons]

theorem indentedEntries_eq (policy : NonFinite) (level : Nat) (entries : List (String × Json)) :
    indentedEntries policy level entries =
      (',' :: newline level).intercalate
        (entries.map (entryWith (indentedChars policy level) [' '])) := by
  induction entries with
  | nil => rfl
  | cons x rest ih =>
    cases rest with
    | nil =>
      rw [List.map_cons, List.map_nil, List.intercalate_singleton, indentedEntries, entryWith]
      rfl
    | cons y rest =>
      simp only [List.map_cons] at ih ⊢
      rw [indentedEntries, ih, List.intercalate_cons_cons, entryWith]
      rfl

/-! ## Layout -/

/-- Where in a text a character stands. -/
inductive Position where
  | outside
  /-- Inside a string. -/
  | inside
  /-- After a backslash in a string. -/
  | escaped
  deriving DecidableEq

/-- The position after one more character. -/
def Position.next : Position → Char → Position
  | .outside, c => if c = '"' then .inside else .outside
  | .inside, c => if c = '\\' then .escaped else if c = '"' then .outside else .inside
  | .escaped, _ => .inside

/-- The characters from a position on, without the white space outside strings. -/
def squeezeFrom : Position → List Char → List Char
  | _, [] => []
  | p, c :: rest =>
    if p = .outside ∧ c.isWhitespace then squeezeFrom p rest else c :: squeezeFrom (p.next c) rest

/-- The text without the white space outside strings. -/
def squeeze (text : String) : String := String.ofList (squeezeFrom .outside text.toList)

theorem next_of_blank {c : Char} (h : c.isWhitespace) : Position.outside.next c = .outside := by
  refine if_neg ?_
  rintro rfl
  cases h

theorem squeezeFrom_append (p : Position) (cs ds : List Char) :
    squeezeFrom p (cs ++ ds) = squeezeFrom p cs ++ squeezeFrom (cs.foldl Position.next p) ds := by
  induction cs generalizing p with
  | nil => rfl
  | cons c cs ih =>
    rw [List.cons_append, squeezeFrom, squeezeFrom, List.foldl_cons]
    split_ifs with h
    · obtain ⟨rfl, hc⟩ := h
      rw [ih, next_of_blank hc]
    · rw [ih, List.cons_append]

/-- Read from a position on, `cs` ends where it starts, and is `ds` without its layout. -/
structure Squeezes (p : Position) (cs ds : List Char) : Prop where
  ends : cs.foldl Position.next p = p
  squeezed : squeezeFrom p cs = ds

namespace Squeezes

variable {p : Position} {cs ds cs' ds' : List Char}

theorem nil : Squeezes p [] [] := ⟨rfl, rfl⟩

theorem append (h : Squeezes p cs ds) (h' : Squeezes p cs' ds') :
    Squeezes p (cs ++ cs') (ds ++ ds') := by
  constructor
  · rw [List.foldl_append, h.ends, h'.ends]
  · rw [squeezeFrom_append, h.ends, h.squeezed, h'.squeezed]

theorem flatMap {α : Type} {f : α → List Char} (h : ∀ a, Squeezes p (f a) (f a)) (as : List α) :
    Squeezes p (as.flatMap f) (as.flatMap f) := by
  induction as with
  | nil => exact nil
  | cons a rest ih => exact (h a).append ih

theorem intercalate {α : Type} {f g : α → List Char} (h : Squeezes p cs ds) {as : List α}
    (hparts : ∀ a ∈ as, Squeezes p (f a) (g a)) :
    Squeezes p (cs.intercalate (as.map f)) (ds.intercalate (as.map g)) := by
  induction as with
  | nil => exact nil
  | cons a rest ih =>
    obtain ⟨ha, hrest⟩ := List.forall_mem_cons.mp hparts
    cases rest with
    | nil => simpa using ha
    | cons b rest =>
      simp only [List.map_cons] at ih ⊢
      rw [List.intercalate_cons_cons, List.intercalate_cons_cons]
      exact (ha.append h).append (ih hrest)

theorem of_blank (h : ∀ c ∈ cs, c.isWhitespace) : Squeezes .outside cs [] := by
  induction cs with
  | nil => exact nil
  | cons c cs ih =>
    obtain ⟨hc, hcs⟩ := List.forall_mem_cons.mp h
    have hone : Squeezes .outside [c] [] := by
      refine ⟨next_of_blank hc, ?_⟩
      rw [squeezeFrom, if_pos ⟨rfl, hc⟩, squeezeFrom]
    exact hone.append (ih hcs)

theorem of_plain (h : ∀ c ∈ cs, ¬ c.isWhitespace ∧ c ≠ '"') : Squeezes .outside cs cs := by
  induction cs with
  | nil => exact nil
  | cons c cs ih =>
    obtain ⟨⟨hblank, hquote⟩, hcs⟩ := List.forall_mem_cons.mp h
    have hone : Squeezes .outside [c] [c] := by
      refine ⟨if_neg hquote, ?_⟩
      rw [squeezeFrom, if_neg fun hc => hblank hc.2, squeezeFrom]
    exact hone.append (ih hcs)

theorem of_inside {c : Char} (hquote : c ≠ '"') (hslash : c ≠ '\\') : Squeezes .inside [c] [c] := by
  refine ⟨?_, rfl⟩
  rw [List.foldl_cons, List.foldl_nil, Position.next, if_neg hslash, if_neg hquote]

theorem escape (c : Char) : Squeezes .inside (escape c) (escape c) := by
  have hdigit {d : Nat} (hd : d < 16) : Squeezes .inside [d.digitChar] [d.digitChar] := by
    refine of_inside ?_ ?_ <;> interval_cases d <;> decide
  unfold Json.escape
  split_ifs with h1 h2 h3 h4 h5 h6 h7 h8
  all_goals try exact ⟨rfl, rfl⟩
  · have hopen : Squeezes .inside ['\\', 'u', '0', '0'] ['\\', 'u', '0', '0'] := ⟨rfl, rfl⟩
    rw [hexPadded_control h8]
    exact (hopen.append (hdigit (d := c.toNat / 16) (by omega))).append (hdigit (by omega))
  · exact of_inside h1 h2

/-- A string stays as it is, whatever white space and quotes it holds. -/
theorem quoted (s : String) : Squeezes .outside (quotedChars s) (quotedChars s) := by
  have hbody := flatMap escape s.toList
  have hquote : quotedChars s = '"' :: (s.toList.flatMap Json.escape ++ ['"']) := rfl
  constructor
  · rw [hquote, List.foldl_cons, List.foldl_append]
    show (List.foldl _ (List.foldl _ Position.inside _) _) = _
    rw [hbody.ends]
    rfl
  · rw [hquote, squeezeFrom, if_neg (by decide), squeezeFrom_append]
    show '"' :: (squeezeFrom .inside _ ++ squeezeFrom (List.foldl _ Position.inside _) _) = _
    rw [hbody.squeezed, hbody.ends]
    rfl

/-- Layout between brackets and around separators goes, and nothing else does. -/
theorem container {α : Type} {f g : α → List Char} {opening closing : Char}
    (hopening : ¬ opening.isWhitespace ∧ opening ≠ '"')
    (hclosing : ¬ closing.isWhitespace ∧ closing ≠ '"') {first gap last : List Char}
    (hfirst : ∀ c ∈ first, c.isWhitespace) (hgap : ∀ c ∈ gap, c.isWhitespace)
    (hlast : ∀ c ∈ last, c.isWhitespace) {as : List α}
    (hparts : ∀ a ∈ as, Squeezes .outside (f a) (g a)) :
    Squeezes .outside (opening :: first ++ (',' :: gap).intercalate (as.map f) ++ last ++ [closing])
      (opening :: [','].intercalate (as.map g) ++ [closing]) := by
  have hone {c : Char} (hc : ¬ c.isWhitespace ∧ c ≠ '"') : Squeezes .outside [c] [c] :=
    of_plain (List.forall_mem_singleton.mpr hc)
  have hseparator : Squeezes .outside (',' :: gap) [','] :=
    (hone (by decide)).append (of_blank hgap)
  have hopen : Squeezes .outside (opening :: first) [opening] :=
    (hone hopening).append (of_blank hfirst)
  have hbody := hopen.append (hseparator.intercalate hparts)
  have hclose : Squeezes .outside (last ++ [closing]) [closing] :=
    (of_blank hlast).append (hone hclosing)
  simpa using hbody.append hclose

end Squeezes

/-! ## Values -/

theorem isWhitespace_newline (level : Nat) : ∀ c ∈ newline level, c.isWhitespace := by
  intro c hc
  rcases List.mem_cons.mp hc with rfl | hc
  · rfl
  · rw [List.eq_of_mem_replicate hc]
    rfl

theorem plain_intChars (n : Int) : ∀ c ∈ intChars n, ¬ c.isWhitespace ∧ c ≠ '"' := by
  have hdigit : ∀ c ∈ Nat.toDigits 10 n.natAbs, ¬ c.isWhitespace ∧ c ≠ '"' := by
    intro c hc
    have hc := Nat.isDigit_of_mem_toDigits (by decide) (by decide) hc
    constructor
    · intro hblank
      simp only [Char.isWhitespace, Bool.or_eq_true, decide_eq_true_eq] at hblank
      rcases hblank with ((rfl | rfl) | rfl) | rfl <;> cases hc
    · rintro rfl
      cases hc
  unfold intChars
  split_ifs
  · exact List.forall_mem_cons.mpr ⟨by decide, hdigit⟩
  · exact hdigit

variable [Readers]

mutual

/-- Without its layout, indented text is compact text. -/
theorem squeezes_indented (policy : NonFinite) (level : Nat) (j : Json) (h : j.Everywhere IsExact) :
    Squeezes .outside (indentedChars policy level j) (compactChars policy j) := by
  cases j with
  | null => exact ⟨rfl, rfl⟩
  | bool b => cases b <;> exact ⟨rfl, rfl⟩
  | int n => exact .of_plain (plain_intChars n)
  | float => exact h.elim
  | str s => exact .quoted s
  | list items =>
    cases items with
    | nil => exact ⟨rfl, rfl⟩
    | cons j rest =>
      rw [indentedChars, compactChars, indentedItems_eq, compactItems_eq]
      exact .container (by decide) (by decide) (isWhitespace_newline _) (isWhitespace_newline _)
        (isWhitespace_newline _) (squeezes_indentedItems policy (level + 1) (j :: rest) h.2)
  | object entries =>
    cases entries with
    | nil => exact ⟨rfl, rfl⟩
    | cons e rest =>
      rw [indentedChars, compactChars, indentedEntries_eq, compactEntries_eq]
      exact .container (by decide) (by decide) (isWhitespace_newline _) (isWhitespace_newline _)
        (isWhitespace_newline _) (squeezes_indentedEntries policy (level + 1) (e :: rest) h.2)

theorem squeezes_indentedItems (policy : NonFinite) (level : Nat) (items : List Json)
    (h : EverywhereItems IsExact items) :
    ∀ j ∈ items, Squeezes .outside (indentedChars policy level j) (compactChars policy j) := by
  cases items with
  | nil => exact List.forall_mem_nil _
  | cons j rest =>
    exact List.forall_mem_cons.mpr
      ⟨squeezes_indented policy level j h.1, squeezes_indentedItems policy level rest h.2⟩

theorem squeezes_indentedEntries (policy : NonFinite) (level : Nat) (entries : List (String × Json))
    (h : EverywhereEntries IsExact entries) :
    ∀ e ∈ entries, Squeezes .outside (entryWith (indentedChars policy level) [' '] e)
      (entryChars policy e) := by
  cases entries with
  | nil => exact List.forall_mem_nil _
  | cons e rest =>
    obtain ⟨k, v⟩ := e
    have hcolon : Squeezes .outside [':', ' '] [':'] := ⟨rfl, rfl⟩
    have hvalue := hcolon.append (squeezes_indented policy level v h.1)
    exact List.forall_mem_cons.mpr
      ⟨(Squeezes.quoted k).append hvalue, squeezes_indentedEntries policy level rest h.2⟩

end

/-- Indented text and white space after it, without the white space outside strings. -/
theorem squeeze_indented (policy : NonFinite) {j : Json} (h : j.Everywhere IsExact) {after : String}
    (hafter : ∀ c ∈ after.toList, c.isWhitespace) :
    squeeze (j.indented policy ++ after) = j.compact policy := by
  have hsqueezes := (squeezes_indented policy 0 j h).append (.of_blank hafter)
  rw [squeeze, indented, String.toList_append, String.toList_ofList, hsqueezes.squeezed, List.append_nil,
    compact]

/-! ## Reading -/

variable {σ α : Type} {D : Dialect σ α} {name : String → σ} {build : Json → α}

omit [Readers] in
theorem blanks_units (hD : D.Faithful name build) {cs : List Char} (h : ∀ c ∈ cs, c.isWhitespace) :
    Blanks (D.units cs) := by
  have hascii : ∀ c ∈ cs, c.toNat < 0x80 ∧ mark c.toNat = .blank := by
    intro c hc
    have hblank := h c hc
    simp only [Char.isWhitespace, Bool.or_eq_true, decide_eq_true_eq] at hblank
    rcases hblank with ((rfl | rfl) | rfl) | rfl <;> exact ⟨by decide, rfl⟩
  rw [units_ascii hD fun c hc => (hascii c hc).1]
  intro u hu
  obtain ⟨c, hc, rfl⟩ := List.mem_map.mp hu
  exact (hascii c hc).2

section Indented

variable (hD : D.Faithful name build) (htakes : ∀ n, FewDigits n → D.Takes n) (policy : NonFinite)

include hD htakes

-- the parts use the assumptions only through each other
set_option linter.unusedSectionVars false in
mutual

/-- The indented text of an exact value is read as that value, wherever there is room for its depth. -/
theorem reads_indented (level : Nat) (j : Json) (h : j.Everywhere IsExact) :
    Reads D j.depth (D.units (indentedChars policy level j)) (build j) := by
  have hnewline (n : Nat) : Blanks (D.units (newline n)) := blanks_units hD (isWhitespace_newline n)
  cases j with
  | null | bool | int | str =>
    rw [indentedChars]
    simpa [compactChars] using reads_compact hD htakes policy _ h
  | float => exact h.elim
  | list items =>
    cases items with
    | nil => exact reads_emptyList hD
    | cons j rest =>
      rw [indentedChars, indentedItems_eq]
      exact reads_listWith hD _ _ _ (hnewline _) (hnewline _) (hnewline _) (List.cons_ne_nil _ _)
        (reads_indentedItems (level + 1) (j :: rest) h.2)
  | object entries =>
    cases entries with
    | nil => exact reads_emptyObject hD
    | cons e rest =>
      rw [indentedChars, indentedEntries_eq]
      exact reads_objectWith hD _ _ _ _ (hnewline _) (blanks_units hD (List.forall_mem_singleton.mpr rfl))
        (hnewline _) (hnewline _) (List.cons_ne_nil _ _) h.1
        (reads_indentedEntries (level + 1) (e :: rest) h.2)

theorem reads_indentedItems (level : Nat) (items : List Json) (h : EverywhereItems IsExact items) :
    ∀ j ∈ items,
      Reads D (depthOfItems items) (D.units (indentedChars policy level j)) (build j) := by
  cases items with
  | nil => exact List.forall_mem_nil _
  | cons j rest =>
    rw [depthOfItems]
    refine List.forall_mem_cons.mpr ⟨?_, fun k hk => ?_⟩
    · exact (reads_indented level j h.1).mono (le_max_left _ _)
    · exact (reads_indentedItems level rest h.2 k hk).mono (le_max_right _ _)

theorem reads_indentedEntries (level : Nat) (entries : List (String × Json))
    (h : EverywhereEntries IsExact entries) :
    ∀ e ∈ entries,
      Reads D (depthOfEntries entries) (D.units (indentedChars policy level e.2)) (build e.2) := by
  cases entries with
  | nil => exact List.forall_mem_nil _
  | cons e rest =>
    obtain ⟨k, v⟩ := e
    rw [depthOfEntries]
    refine List.forall_mem_cons.mpr ⟨?_, fun e he => ?_⟩
    · exact (reads_indented level v h.1).mono (le_max_left _ _)
    · exact (reads_indentedEntries level rest h.2 e he).mono (le_max_right _ _)

end

end Indented

/-- The strict reader gives back an exact value that is not too deep from its indented text, with any white
space after it. -/
theorem readText_indented (policy : NonFinite) {j : Json} (h : j.Everywhere IsExact)
    (hd : j.depth ≤ strict.depthLimit) {after : String} (hafter : ∀ c ∈ after.toList, c.isWhitespace) :
    readText (j.indented policy ++ after) = .ok j := by
  have hparse : parse strict (Utf8.encode (indentedChars policy 0 j ++ after.toList)) = .ok j := by
    have hreads := reads_indented strict_faithful (fun _ => strict_takes) policy 0 j h
    have hread := hreads.parse_blanks hd (blanks_units strict_faithful hafter)
    rwa [← units_append] at hread
  rw [readText, read, indented, String.toList_append, String.toList_ofList, hparse]

end RemoteSigner.Json
