import Mathlib
import RemoteSigner.Json.Basic

/-!
# Entries under their keys

What `Entries.put` and `Entries.get?` do to entries of any kind, and what is left of repeated keys:
`Entries.ofPairs` keeps each key where it stood first (`keys_ofPairs_sublist`), never twice
(`nodup_keys_ofPairs`), and with the value that counts (`get?_ofPairs`).
-/

namespace RemoteSigner.Entries

variable {κ α : Type} [DecidableEq κ]

theorem put_of_not_mem {key : κ} {value : α} {es : List (κ × α)} (h : key ∉ keys es) :
    put key value es = es ++ [(key, value)] := by
  induction es with
  | nil => rfl
  | cons e es ih =>
    obtain ⟨k, v⟩ := e
    simp only [keys, List.map_cons, List.mem_cons, not_or] at h
    rw [put, if_neg (Ne.symm h.1), ih h.2, List.cons_append]

theorem keys_put_of_mem {key : κ} {value : α} {es : List (κ × α)} (h : key ∈ keys es) :
    keys (put key value es) = keys es := by
  induction es with
  | nil => cases h
  | cons e es ih =>
    obtain ⟨k, v⟩ := e
    by_cases hk : k = key
    · rw [put, if_pos hk]
      rfl
    · have hrest : key ∈ keys es := (List.mem_cons.mp h).resolve_left (Ne.symm hk)
      rw [put, if_neg hk]
      exact congrArg (k :: ·) (ih hrest)

theorem mem_put_self (key : κ) (value : α) (es : List (κ × α)) : (key, value) ∈ put key value es := by
  induction es with
  | nil => exact List.mem_singleton_self _
  | cons e es ih =>
    obtain ⟨k, v⟩ := e
    by_cases hk : k = key
    · rw [put, if_pos hk, hk]
      exact List.mem_cons_self ..
    · rw [put, if_neg hk]
      exact List.mem_cons_of_mem _ ih

theorem mem_put {key : κ} {value : α} {es : List (κ × α)} {e : κ × α} (he : e ∈ put key value es) :
    e = (key, value) ∨ e ∈ es := by
  induction es with
  | nil => exact .inl (by simpa [put] using he)
  | cons e' es ih =>
    obtain ⟨k, v⟩ := e'
    by_cases hk : k = key
    · rw [put, if_pos hk] at he
      rcases List.mem_cons.mp he with rfl | he
      · exact .inl (by rw [hk])
      · exact .inr (List.mem_cons_of_mem _ he)
    · rw [put, if_neg hk] at he
      rcases List.mem_cons.mp he with rfl | he
      · exact .inr (List.mem_cons_self ..)
      · exact (ih he).imp_right (List.mem_cons_of_mem _)

/-! ## Lookups -/

theorem get?_eq_none {key : κ} {es : List (κ × α)} : get? key es = none ↔ key ∉ keys es := by
  induction es with
  | nil => simp [get?, keys]
  | cons e es ih =>
    obtain ⟨k, v⟩ := e
    simp only [get?, keys, List.map_cons, List.mem_cons, not_or]
    cases hget : get? key es with
    | some w =>
      have hmem : key ∈ es.map Prod.fst := by
        by_contra hnot
        rw [ih.mpr hnot] at hget
        cases hget
      simp [hmem]
    | none =>
      have hnot : key ∉ es.map Prod.fst := ih.mp hget
      simp [hnot, eq_comm]

theorem isSome_get? {key : κ} {es : List (κ × α)} : (get? key es).isSome ↔ key ∈ keys es := by
  rw [Option.isSome_iff_ne_none, ne_eq, get?_eq_none, not_not]

theorem mem_of_get? {key : κ} {value : α} {es : List (κ × α)} (h : get? key es = some value) :
    (key, value) ∈ es := by
  induction es with
  | nil => cases h
  | cons e es ih =>
    obtain ⟨k, v⟩ := e
    rw [get?] at h
    cases hget : get? key es with
    | some w =>
      rw [hget] at h
      exact List.mem_cons_of_mem _ (ih (hget.trans h))
    | none =>
      rw [hget] at h
      by_cases hk : k = key
      · cases (if_pos hk).symm.trans h
        exact hk ▸ List.mem_cons_self ..
      · cases (if_neg hk).symm.trans h

theorem get?_cons_of_ne {key k : κ} {v : α} {es : List (κ × α)} (h : k ≠ key) :
    get? key ((k, v) :: es) = get? key es := by
  rw [get?, if_neg h]
  cases get? key es <;> rfl

theorem get?_cons_self {key : κ} {v : α} {es : List (κ × α)} (h : key ∉ keys es) :
    get? key ((key, v) :: es) = some v := by
  rw [get?, get?_eq_none.mpr h]
  exact if_pos rfl

theorem get?_of_mem {es : List (κ × α)} (h : (keys es).Nodup) {e : κ × α} (he : e ∈ es) :
    get? e.1 es = some e.2 := by
  induction es with
  | nil => cases he
  | cons e' es ih =>
    obtain ⟨k, v⟩ := e'
    simp only [keys, List.map_cons, List.nodup_cons] at h
    rcases List.mem_cons.mp he with rfl | he
    · exact get?_cons_self h.1
    · have hk : k ≠ e.1 := fun hk => h.1 (hk ▸ List.mem_map_of_mem he)
      rw [get?_cons_of_ne hk, ih h.2 he]

theorem get?_append (key : κ) (es fs : List (κ × α)) :
    get? key (es ++ fs) = (get? key fs).or (get? key es) := by
  induction es with
  | nil => simp [get?]
  | cons e es ih =>
    obtain ⟨k, v⟩ := e
    rw [List.cons_append, get?, ih, get?]
    cases get? key fs <;> cases get? key es <;> rfl

/-- The entries with `f` of their values. -/
theorem get?_map_snd {β : Type} (f : α → β) (key : κ) (es : List (κ × α)) :
    get? key (es.map fun e => (e.1, f e.2)) = (get? key es).map f := by
  induction es with
  | nil => rfl
  | cons e es ih =>
    rw [List.map_cons, get?, get?, ih]
    cases get? key es with
    | some w => rfl
    | none => exact (apply_ite (Option.map f) (e.1 = key) (some e.2) none).symm

/-! ## Entries put together -/

theorem ofPairs_append_singleton (es : List (κ × α)) (e : κ × α) :
    ofPairs (es ++ [e]) = put e.1 e.2 (ofPairs es) := by
  simp [ofPairs]

theorem nodup_keys_ofPairs (es : List (κ × α)) : (keys (ofPairs es)).Nodup := by
  induction es using List.reverseRecOn with
  | nil => exact List.nodup_nil
  | append_singleton es e ih =>
    rw [ofPairs_append_singleton]
    exact nodup_keys_put ih

theorem mem_of_mem_ofPairs {es : List (κ × α)} {e : κ × α} (he : e ∈ ofPairs es) : e ∈ es := by
  induction es using List.reverseRecOn with
  | nil => cases he
  | append_singleton es e' ih =>
    rw [ofPairs_append_singleton] at he
    rcases mem_put he with rfl | he
    · simp
    · exact List.mem_append_left _ (ih he)

theorem mem_keys_ofPairs {key : κ} {es : List (κ × α)} : key ∈ keys (ofPairs es) ↔ key ∈ keys es := by
  induction es using List.reverseRecOn with
  | nil => rfl
  | append_singleton es e ih =>
    rw [ofPairs_append_singleton, mem_keys_put, ih]
    simp [keys, or_comm]

theorem ofPairs_of_nodup {es : List (κ × α)} (h : (keys es).Nodup) : ofPairs es = es := by
  induction es using List.reverseRecOn with
  | nil => rfl
  | append_singleton es e ih =>
    rw [keys, List.map_append, List.nodup_append] at h
    have hnew : e.1 ∉ keys es := fun hmem => h.2.2 _ hmem _ (List.mem_singleton_self _) rfl
    rw [ofPairs_append_singleton, ih h.1, put_of_not_mem hnew]

theorem keys_ofPairs_sublist (es : List (κ × α)) : (keys (ofPairs es)).Sublist (keys es) := by
  induction es using List.reverseRecOn with
  | nil => exact List.Sublist.refl _
  | append_singleton es e ih =>
    have hkeys : keys (es ++ [e]) = keys es ++ [e.1] := List.map_append ..
    rw [ofPairs_append_singleton, hkeys]
    by_cases hmem : e.1 ∈ keys (ofPairs es)
    · rw [keys_put_of_mem hmem]
      exact ih.trans (List.sublist_append_left ..)
    · rw [put_of_not_mem hmem]
      rw [keys, List.map_append]
      exact ih.append (List.Sublist.refl _)

theorem get?_put_of_ne {key k : κ} {value : α} {es : List (κ × α)} (h : k ≠ key) :
    get? key (put k value es) = get? key es := by
  induction es with
  | nil => exact get?_cons_of_ne h
  | cons e es ih =>
    obtain ⟨k', v⟩ := e
    by_cases hk : k' = k
    · subst hk
      rw [put, if_pos rfl, get?_cons_of_ne h, get?_cons_of_ne h]
    · rw [put, if_neg hk, get?, get?, ih]

theorem get?_put {key k : κ} {value : α} {es : List (κ × α)} (h : (keys es).Nodup) :
    get? key (put k value es) = if k = key then some value else get? key es := by
  split_ifs with hk
  · subst hk
    exact get?_of_mem (nodup_keys_put h) (mem_put_self k value es)
  · exact get?_put_of_ne hk

theorem get?_ofPairs (key : κ) (es : List (κ × α)) : get? key (ofPairs es) = get? key es := by
  induction es using List.reverseRecOn with
  | nil => rfl
  | append_singleton es e ih =>
    rw [ofPairs_append_singleton, get?_put (nodup_keys_ofPairs es), ih, get?_append, get?, get?]
    split_ifs <;> rfl

end RemoteSigner.Entries
