import Mathlib
import RemoteSigner.Json.Strict
import RemoteSigner.Proofs.Json.Everywhere

/-!
# What a strict reader guarantees

Everything in a value that was read strictly is as `IsRead` says (`read_isRead`): the invariant
`State.IsRead` holds at first (`initial_isRead`), every step keeps it (`step?_isRead`), and so every run does
(`feed_isRead`).
-/

namespace RemoteSigner.Json

/-- The digits so far are no more than were counted. -/
def Numeral.IsRead (n : Numeral) : Prop :=
  n.phase = .zero ∨ n.phase = .whole → n.digits < 10 ^ n.wholeCount

variable {m : Mark} {u : Nat}

/-! ## Numbers -/

theorem digit_lt_of_mark {d : Nat} (h : mark u = .digit d) : d < 10 := by
  unfold mark at h
  split at h <;> try cases h
  split_ifs at h with hd
  cases h
  simp only [Char.isDigit, Bool.and_eq_true, decide_eq_true_eq, UInt32.le_iff_toNat_le] at hd
  have h9 : (Char.ofNat u).toNat ≤ 57 := hd.2
  omega

theorem isRead_ofDigit {neg : Bool} {d : Nat} (h : d < 10) : (Numeral.ofDigit neg d).IsRead :=
  fun _ => by simpa [Numeral.ofDigit] using h

theorem digits_push {d n k : Nat} (hd : d < 10) (hn : n < 10 ^ k) : n * 10 + d < 10 ^ (k + 1) := by
  rw [pow_succ]; omega

theorem push_letter {n n' : Numeral} {c : Char} (h : n.push (.letter c) = .more n') :
    n' = { n with phase := .exponent } := by
  obtain ⟨neg, phase, ds, k, l, eneg, e⟩ := n
  cases phase with
  | zero | whole | fraction =>
    by_cases hc : c = 'e' ∨ c = 'E'
    · cases h.symm.trans (if_pos hc)
      rfl
    · cases h.symm.trans (if_neg hc)
  | _ => cases h

theorem push_isRead {n n' : Numeral} (hn : n.IsRead) (hd : ∀ d, m = .digit d → d < 10)
    (h : n.push m = .more n') : n'.IsRead := by
  cases m with
  | letter c =>
    rw [push_letter h]
    exact fun hp => by simp at hp
  | digit d =>
    obtain ⟨neg, phase, ds, k, l, eneg, e⟩ := n
    cases phase with
    | sign =>
      cases h
      exact isRead_ofDigit (hd d rfl)
    | whole =>
      cases h
      exact fun _ => digits_push (hd d rfl) (hn (.inr rfl))
    | zero => cases h
    | _ =>
      cases h
      exact fun hp => by simp at hp
  | _ =>
    obtain ⟨neg, phase, ds, k, l, eneg, e⟩ := n
    cases phase <;> cases h <;> exact fun hp => by simp at hp

/-! ## The invariant -/

variable [Readers]

/-- Everything in the value is as a strict reader leaves it. -/
abbrev Regular (j : Json) : Prop := j.Everywhere IsRead

/-- Entries with regular values. -/
def RegularEntries (entries : List (String × Json)) : Prop := ∀ e ∈ entries, e.2.Regular

/-- What has been read of an open container is regular. -/
def Frame.IsRead : Frame String Json → Prop
  | .list items => ∀ j ∈ items, j.Regular
  | .object entries => RegularEntries entries
  | .entry entries _ => RegularEntries entries

/-- What the reader is in the middle of is regular. -/
def Focus.IsRead : Focus String Json → Prop
  | .finished v => v.Regular
  | .word _ _ v => v.Regular
  | .number n => n.IsRead
  | _ => True

/-- The invariant of a strict reader. -/
def State.IsRead (s : State String Json) : Prop :=
  (∀ f ∈ s.stack, f.IsRead) ∧ s.focus.IsRead

variable {s t : State String Json} {stack : List (Frame String Json)} {v : Json}

theorem value?_isRead {n : Numeral} (hn : n.IsRead) (h : n.value? strict = some v) : v.Regular := by
  obtain ⟨neg, phase, ds, k, l, eneg, e⟩ := n
  cases phase with
  | zero | whole =>
    unfold Numeral.value? at h
    simp only at h
    split at h
    · cases h
    · rename_i hsize
      cases h
      refine fewDigits_signed (hn (by simp)) ?_
      show Numeral.places strict _ ≤ maxDigits
      simpa [Numeral.isOversized] using hsize
  | fraction | exponentDigits =>
    cases h
    trivial
  | _ => cases h

/-! ## Steps -/

theorem deliver_isRead (hv : v.Regular) (hs : ∀ f ∈ stack, f.IsRead) :
    (State.deliver v stack).IsRead := by
  match stack with
  | [] => exact ⟨hs, hv⟩
  | .list items :: outer =>
    obtain ⟨hitems, houter⟩ := List.forall_mem_cons.mp hs
    exact ⟨List.forall_mem_cons.mpr ⟨List.forall_mem_cons.mpr ⟨hv, hitems⟩, houter⟩, trivial⟩
  | .object entries :: outer => exact ⟨hs, trivial⟩
  | .entry entries key :: outer =>
    obtain ⟨hvalues, houter⟩ := List.forall_mem_cons.mp hs
    refine ⟨List.forall_mem_cons.mpr ⟨?_, houter⟩, trivial⟩
    exact List.forall_mem_append.mpr ⟨hvalues, List.forall_mem_singleton.mpr hv⟩

/-- An object of regular values is regular: repeated keys are put together or kept. -/
theorem object_isRead {entries : List (String × Json)} (h : RegularEntries entries) :
    (strict.object entries).Regular := by
  show (object (if Readers.keepsRepeats then entries else Entries.ofPairs entries)).Regular
  split_ifs with hkeeps
  · exact everywhere_object.mpr ⟨.inl hkeeps, h⟩
  · refine everywhere_object.mpr ⟨.inr (Entries.nodup_keys_ofPairs entries), ?_⟩
    exact fun e he => h e (Entries.mem_of_mem_ofPairs he)

theorem close?_isRead (hs : ∀ f ∈ stack, f.IsRead) (h : State.close? strict m stack = some t) :
    t.IsRead := by
  match stack with
  | [] => cases h
  | .list items :: outer =>
    obtain ⟨hitems, houter⟩ := List.forall_mem_cons.mp hs
    simp only [State.close?] at h
    split_ifs at h
    cases h
    refine deliver_isRead (everywhere_list.mpr ⟨trivial, ?_⟩) houter
    intro j hj
    exact hitems j (List.mem_reverse.mp hj)
  | .object entries :: outer =>
    obtain ⟨hentries, houter⟩ := List.forall_mem_cons.mp hs
    simp only [State.close?] at h
    split_ifs at h
    cases h
    exact deliver_isRead (object_isRead hentries) houter
  | .entry entries key :: outer => cases h

theorem wordOf?_isRead {c : Char} {left : List Char}
    (h : State.wordOf? strict c = some (left, v)) : v.Regular := by
  unfold State.wordOf? at h
  split at h <;> cases h <;> trivial

theorem start?_isRead (hs : ∀ f ∈ stack, f.IsRead) (hd : ∀ d, m = .digit d → d < 10)
    (h : State.start? strict stack m = some t) : t.IsRead := by
  unfold State.start? at h
  split_ifs at h
  split at h
  · cases h; exact ⟨hs, trivial⟩
  · cases h; exact ⟨List.forall_mem_cons.mpr ⟨List.forall_mem_nil _, hs⟩, trivial⟩
  · cases h
    exact ⟨List.forall_mem_cons.mpr ⟨List.forall_mem_nil _, hs⟩, trivial⟩
  · cases h; exact ⟨hs, fun hp => by simp [Numeral.ofMinus] at hp⟩
  · cases h; exact ⟨hs, isRead_ofDigit (hd _ rfl)⟩
  · obtain ⟨⟨left, v⟩, hw, rfl⟩ := Option.map_eq_some_iff.mp h
    exact ⟨hs, wordOf?_isRead hw⟩
  · cases h

theorem follow?_isRead (hs : s.IsRead) (h : s.follow? strict m = some t) : t.IsRead := by
  unfold State.follow? at h
  split at h
  · cases h; exact hs
  · cases h; exact ⟨hs.1, trivial⟩
  · cases h; exact ⟨hs.1, trivial⟩
  · exact close?_isRead hs.1 h
  · cases h

theorem closeQuote?_isRead (hs : ∀ f ∈ stack, f.IsRead) {k : Bool} {q : Quotation}
    (h : State.closeQuote? strict stack k q = some t) : t.IsRead := by
  unfold State.closeQuote? at h
  split at h
  · cases h; exact deliver_isRead trivial hs
  · cases h
    obtain ⟨hentries, houter⟩ := List.forall_mem_cons.mp hs
    exact ⟨List.forall_mem_cons.mpr ⟨hentries, houter⟩, trivial⟩
  · cases h

/-- Every step keeps the invariant. -/
theorem step?_isRead (hs : s.IsRead) (h : s.step? strict u = some t) : t.IsRead := by
  have hd : ∀ d, mark u = .digit d → d < 10 := fun d => digit_lt_of_mark
  obtain ⟨stack, focus⟩ := s
  cases focus with
  | value | nextItem =>
    simp only [State.step?] at h
    split_ifs at h
    · cases h; exact hs
    · exact start?_isRead hs.1 hd h
  | firstItem =>
    simp only [State.step?] at h
    split_ifs at h
    · cases h; exact hs
    · exact close?_isRead hs.1 h
    · exact start?_isRead hs.1 hd h
  | firstKey =>
    simp only [State.step?] at h
    split_ifs at h
    · cases h; exact hs
    · exact close?_isRead hs.1 h
    · cases h; exact ⟨hs.1, trivial⟩
  | nextKey | colon =>
    simp only [State.step?] at h
    split_ifs at h
    · cases h; exact hs
    · cases h; exact ⟨hs.1, trivial⟩
  | separator => exact follow?_isRead hs h
  | finished v => exact follow?_isRead hs h
  | word spelt left v =>
    cases left with
    | nil => cases h
    | cons c rest =>
      simp only [State.step?] at h
      split_ifs at h
      · cases h; exact deliver_isRead hs.2 hs.1
      · cases h; exact hs
  | number n =>
    simp only [State.step?] at h
    split at h
    · rename_i n' hpush
      split_ifs at h
      cases h
      exact ⟨hs.1, push_isRead hs.2 hd hpush⟩
    · obtain ⟨v, hv, h⟩ := Option.bind_eq_some_iff.mp h
      exact follow?_isRead (deliver_isRead (value?_isRead hs.2 hv) hs.1) h
    · split_ifs at h
      cases h
      exact ⟨hs.1, trivial⟩
  | quoted k q =>
    simp only [State.step?] at h
    split_ifs at h
    · exact closeQuote?_isRead hs.1 h
    · obtain ⟨q', -, rfl⟩ := Option.map_eq_some_iff.mp h
      exact ⟨hs.1, trivial⟩

/-! ## Runs -/

theorem feed_isRead {us : List Nat} (hs : s.IsRead) (h : feed strict s us = .ok t) : t.IsRead := by
  induction us generalizing s with
  | nil => cases h; exact hs
  | cons u us ih =>
    rw [feed] at h
    split at h
    · rename_i s' hstep
      exact ih (step?_isRead hs hstep) h
    · cases h

theorem initial_isRead : (State.initial : State String Json).IsRead :=
  ⟨List.forall_mem_nil _, trivial⟩

/-- Everything in a value that was read is regular. -/
theorem read_isRead {bytes : List Nat} (h : read bytes = .ok v) : v.Regular := by
  unfold read parse at h
  cases hf : feed strict .initial bytes with
  | error stuck => rw [hf] at h; cases h
  | ok s =>
    rw [hf] at h
    have hs := feed_isRead initial_isRead hf
    cases hv : s.value? strict with
    | none => simp only [hv] at h; cases h
    | some w =>
      simp only [hv] at h
      cases h
      unfold State.value? at hv
      split at hv
      · rename_i hfocus _
        cases hv
        rw [State.IsRead, hfocus] at hs
        exact hs.2
      · rename_i hfocus _
        rw [State.IsRead, hfocus] at hs
        exact value?_isRead hs.2 hv
      · cases hv

end RemoteSigner.Json
