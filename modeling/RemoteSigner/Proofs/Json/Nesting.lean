import Mathlib
import RemoteSigner.Json.Strict
import RemoteSigner.Proofs.Json.Everywhere

/-!
# How deep a strict reader goes

A value that was read strictly is not nested deeper than the reader's limit (`depth_read_le`): in every
state each value fits into the containers that are open around it (`State.Fits`). A value is checked
against the limit when its first unit is read (`start?_fits`), and closing a container brings nothing
deeper than what was in it (`close?_fits`).
-/

namespace RemoteSigner.Json

variable [Readers]

/-- The value may stand in `n` containers. -/
def Fits (n : Nat) (j : Json) : Prop := j.depth + n ≤ strict.depthLimit

/-- What has been read of a container that stands in `n` others fits there. -/
def Frame.Fits (n : Nat) : Frame String Json → Prop
  | .list items => ∀ j ∈ items, Json.Fits (n + 1) j
  | .object entries => ∀ e ∈ entries, Json.Fits (n + 1) e.2
  | .entry entries _ => ∀ e ∈ entries, Json.Fits (n + 1) e.2

/-- The open containers fit into one another. -/
def StackFits : List (Frame String Json) → Prop
  | [] => True
  | f :: outer => outer.length < strict.depthLimit ∧ f.Fits outer.length ∧ StackFits outer

/-- What the reader is in the middle of fits into `n` containers. -/
def Focus.Fits (n : Nat) : Focus String Json → Prop
  | .finished v => Json.Fits n v
  | .word _ _ v => Json.Fits n v
  | .number _ => n < strict.depthLimit
  | .quoted false _ => n < strict.depthLimit
  | _ => True

/-- The invariant of a strict reader. -/
def State.Fits (s : State String Json) : Prop := StackFits s.stack ∧ s.focus.Fits s.stack.length

variable {s t : State String Json} {stack : List (Frame String Json)} {v : Json} {m : Mark} {u n : Nat}

/-! ## Values -/

theorem fits_single (hn : n < strict.depthLimit) (hv : v.depth = 1) : Json.Fits n v := by
  rw [Json.Fits, hv]
  omega

theorem fits_list {items : List Json} (hn : n < strict.depthLimit)
    (h : ∀ j ∈ items, Json.Fits (n + 1) j) : Json.Fits n (.list items) := by
  induction items with
  | nil => exact fits_single hn rfl
  | cons j rest ih =>
    obtain ⟨hj, hrest⟩ := List.forall_mem_cons.mp h
    have := ih hrest
    simp only [Json.Fits, depth, depthOfItems] at hj this ⊢
    omega

theorem fits_object {entries : List (String × Json)} (hn : n < strict.depthLimit)
    (h : ∀ e ∈ entries, Json.Fits (n + 1) e.2) : Json.Fits n (.object entries) := by
  induction entries with
  | nil => exact fits_single hn rfl
  | cons e rest ih =>
    obtain ⟨he, hrest⟩ := List.forall_mem_cons.mp h
    have := ih hrest
    simp only [Json.Fits, depth, depthOfEntries] at he this ⊢
    omega

theorem value?_fits {x : Numeral} (hn : n < strict.depthLimit) (h : x.value? strict = some v) :
    Json.Fits n v := by
  refine fits_single hn ?_
  obtain ⟨neg, phase, ds, k, l, eneg, e⟩ := x
  cases phase with
  | zero | whole =>
    unfold Numeral.value? at h
    simp only at h
    split at h <;> cases h
    rfl
  | fraction | exponentDigits =>
    cases h
    rfl
  | _ => cases h

theorem wordOf?_fits {c : Char} {left : List Char} (hn : n < strict.depthLimit)
    (h : State.wordOf? strict c = some (left, v)) : Json.Fits n v := by
  refine fits_single hn ?_
  unfold State.wordOf? at h
  split at h <;> cases h <;> rfl

/-! ## Steps -/

theorem deliver_fits (hv : Json.Fits stack.length v) (hs : StackFits stack) :
    (State.deliver v stack).Fits := by
  match stack with
  | [] => exact ⟨hs, hv⟩
  | .list items :: outer =>
    obtain ⟨hroom, hitems, houter⟩ := hs
    exact ⟨⟨hroom, List.forall_mem_cons.mpr ⟨hv, hitems⟩, houter⟩, trivial⟩
  | .object entries :: outer => exact ⟨hs, trivial⟩
  | .entry entries key :: outer =>
    obtain ⟨hroom, hentries, houter⟩ := hs
    have hmore : ∀ e ∈ entries ++ [(key, v)], Json.Fits (outer.length + 1) e.2 :=
      List.forall_mem_append.mpr ⟨hentries, List.forall_mem_singleton.mpr hv⟩
    exact ⟨⟨hroom, hmore, houter⟩, trivial⟩

/-- Repeated keys make nothing deeper, put together or not. -/
theorem object_fits {entries : List (String × Json)} (hn : n < strict.depthLimit)
    (h : ∀ e ∈ entries, Json.Fits (n + 1) e.2) : Json.Fits n (strict.object entries) := by
  show Json.Fits n (object (if Readers.keepsRepeats then entries else Entries.ofPairs entries))
  split_ifs
  · exact fits_object hn h
  · exact fits_object hn fun e he => h e (Entries.mem_of_mem_ofPairs he)

theorem close?_fits (hs : StackFits stack) (h : State.close? strict m stack = some t) : t.Fits := by
  match stack with
  | [] => cases h
  | .list items :: outer =>
    obtain ⟨hroom, hitems, houter⟩ := hs
    simp only [State.close?] at h
    split_ifs at h
    cases h
    refine deliver_fits (fits_list hroom ?_) houter
    intro j hj
    exact hitems j (List.mem_reverse.mp hj)
  | .object entries :: outer =>
    obtain ⟨hroom, hentries, houter⟩ := hs
    simp only [State.close?] at h
    split_ifs at h
    cases h
    exact deliver_fits (object_fits hroom hentries) houter
  | .entry entries key :: outer => cases h

theorem length_lt_of_admits (h : State.admits strict stack m) : stack.length < strict.depthLimit := by
  have hadmits : (State.hasRoom strict stack || false) = true := h
  rw [Bool.or_false] at hadmits
  exact of_decide_eq_true hadmits

theorem start?_fits (hs : StackFits stack) (h : State.start? strict stack m = some t) : t.Fits := by
  unfold State.start? at h
  split_ifs at h with hadmits
  have hroom := length_lt_of_admits hadmits
  split at h
  · cases h; exact ⟨hs, hroom⟩
  · cases h; exact ⟨⟨hroom, List.forall_mem_nil _, hs⟩, trivial⟩
  · cases h; exact ⟨⟨hroom, List.forall_mem_nil _, hs⟩, trivial⟩
  · cases h; exact ⟨hs, hroom⟩
  · cases h; exact ⟨hs, hroom⟩
  · obtain ⟨⟨left, v⟩, hw, rfl⟩ := Option.map_eq_some_iff.mp h
    exact ⟨hs, wordOf?_fits hroom hw⟩
  · cases h

theorem follow?_fits (hs : s.Fits) (h : s.follow? strict m = some t) : t.Fits := by
  unfold State.follow? at h
  split at h
  · cases h; exact hs
  · cases h; exact ⟨hs.1, trivial⟩
  · cases h; exact ⟨hs.1, trivial⟩
  · exact close?_fits hs.1 h
  · cases h

theorem closeQuote?_fits {k : Bool} {q : Quotation} (hs : State.Fits ⟨stack, .quoted k q⟩)
    (h : State.closeQuote? strict stack k q = some t) : t.Fits := by
  unfold State.closeQuote? at h
  split at h
  · cases h
    exact deliver_fits (fits_single hs.2 rfl) hs.1
  · cases h
    exact ⟨hs.1, trivial⟩
  · cases h

/-- Every step keeps the invariant. -/
theorem step?_fits (hs : s.Fits) (h : s.step? strict u = some t) : t.Fits := by
  obtain ⟨stack, focus⟩ := s
  cases focus with
  | value | nextItem =>
    simp only [State.step?] at h
    split_ifs at h
    · cases h; exact hs
    · exact start?_fits hs.1 h
  | firstItem =>
    simp only [State.step?] at h
    split_ifs at h
    · cases h; exact hs
    · exact close?_fits hs.1 h
    · exact start?_fits hs.1 h
  | firstKey =>
    simp only [State.step?] at h
    split_ifs at h
    · cases h; exact hs
    · exact close?_fits hs.1 h
    · cases h; exact ⟨hs.1, trivial⟩
  | nextKey | colon =>
    simp only [State.step?] at h
    split_ifs at h
    · cases h; exact hs
    · cases h; exact ⟨hs.1, trivial⟩
  | separator => exact follow?_fits hs h
  | finished v => exact follow?_fits hs h
  | word spelt left v =>
    cases left with
    | nil => cases h
    | cons c rest =>
      simp only [State.step?] at h
      split_ifs at h
      · cases h; exact deliver_fits hs.2 hs.1
      · cases h; exact hs
  | number x =>
    simp only [State.step?] at h
    split at h
    · split_ifs at h
      cases h
      exact hs
    · obtain ⟨v, hv, h⟩ := Option.bind_eq_some_iff.mp h
      exact follow?_fits (deliver_fits (value?_fits hs.2 hv) hs.1) h
    · split_ifs at h
      cases h
      exact ⟨hs.1, fits_single hs.2 rfl⟩
  | quoted k q =>
    simp only [State.step?] at h
    split_ifs at h
    · exact closeQuote?_fits hs h
    · obtain ⟨q', -, rfl⟩ := Option.map_eq_some_iff.mp h
      cases k with
      | true => exact ⟨hs.1, trivial⟩
      | false => exact hs

/-! ## Runs -/

theorem feed_fits {us : List Nat} (hs : s.Fits) (h : feed strict s us = .ok t) : t.Fits := by
  induction us generalizing s with
  | nil => cases h; exact hs
  | cons u us ih =>
    rw [feed] at h
    split at h
    · rename_i s' hstep
      exact ih (step?_fits hs hstep) h
    · cases h

theorem initial_fits : (State.initial : State String Json).Fits := ⟨trivial, trivial⟩

theorem depth_read_le {bytes : List Nat} (h : read bytes = .ok v) : v.depth ≤ strict.depthLimit := by
  unfold read parse at h
  cases hf : feed strict .initial bytes with
  | error stuck => rw [hf] at h; cases h
  | ok s =>
    rw [hf] at h
    have hs : s.Fits := feed_fits initial_fits hf
    cases hv : s.value? strict with
    | none => simp only [hv] at h; cases h
    | some w =>
      simp only [hv] at h
      cases h
      unfold State.value? at hv
      split at hv
      · rename_i hfocus hstack
        cases hv
        rw [State.Fits, hfocus, hstack] at hs
        exact hs.2
      · rename_i hfocus hstack
        rw [State.Fits, hfocus, hstack] at hs
        exact value?_fits hs.2 hv
      · cases hv

end RemoteSigner.Json
