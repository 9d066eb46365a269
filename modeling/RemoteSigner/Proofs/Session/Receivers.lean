import Mathlib
import RemoteSigner.Session.Basic
import RemoteSigner.Proofs.Channel.Uses

/-!
# Tasks that wait on one mock channel

Any number of tasks receive from one mock channel, and between their steps anything may happen to it
(`Session.Receiving`). Each item that is queued wakes at most one receiver, which looks again and may find
that another task has taken the item. Receives and items are counted against each other all the same
(`Session.Balanced`), so it is known how many tasks wait once every woken one has run
(`Session.Receiving.blocked_exactly`). Closing the channel queues one item: it releases the receiver that has
waited longest, and no other.
-/

namespace RemoteSigner

namespace Session

/-- The state of tasks that each receive once. -/
abbrev Receivers : Type := Session Mock (Option Message)

/-- A task that waits to receive. -/
def waits (i : Nat) : Nat × Waiting (Option Message) := (i, .message .done)

/-- A task that was woken and looks for a message again. -/
def looks (i : Nat) : Nat × Woken (Option Message) := (i, .look .done)

theorem filter_waits {i : Nat} {rest : List Nat} (hi : i ∉ rest) :
    ((i :: rest).map waits).filter (·.1 != i) = rest.map waits := by
  rw [List.map_cons, List.filter_cons_of_neg (by simp [waits]), List.filter_eq_self]
  refine List.forall_mem_map.mpr fun j hj => ?_
  have hne : j ≠ i := fun hji => hi (hji ▸ hj)
  simpa [waits] using hne

/-- Receivers are woken in the order in which they have waited. -/
theorem wakeReceivers_eq {s : Receivers} (hwaiting : s.waiting = s.receivers.map waits)
    (hnodup : s.receivers.Nodup) (n : Nat) :
    s.wakeReceivers n = { s with
      receivers := s.receivers.drop n
      waiting := (s.receivers.drop n).map waits
      woken := s.woken ++ (s.receivers.take n).map looks } := by
  obtain ⟨state, lockQueue, receivers, waiting, woken, results, log⟩ := s
  obtain rfl : waiting = receivers.map waits := hwaiting
  replace hnodup : receivers.Nodup := hnodup
  induction n generalizing receivers woken with
  | zero => simp [wakeReceivers]
  | succ n ih =>
    cases receivers with
    | nil => simp [wakeReceivers]
    | cons i rest =>
      obtain ⟨hi, hrest⟩ := List.nodup_cons.mp hnodup
      have hfind : ((i :: rest).map waits).find? (·.1 == i) = some (waits i) := by simp [waits]
      unfold wakeReceivers
      simp only [waiting?, hfind, wake, filter_waits hi]
      refine (ih rest (woken ++ [looks i]) hrest).trans ?_
      simp

/-- The session after a task has looked for a message: it ends with what it gets, or waits. -/
def look (waited : Bool) (i : Nat) (s : Receivers) : Receivers :=
  let s' := { s with state := (s.state.receive waited).2 }
  match (s.state.receive waited).1 with
  | some r => { s' with results := s.results ++ [(i, r)] }
  | none => { s' with receivers := s.receivers ++ [i], waiting := s.waiting ++ [waits i] }

section

variable {waited : Bool} {i : Nat} {s : Receivers}

theorem look_cons {item : InboxItem} {rest : List InboxItem} (hinbox : s.state.inbox = item :: rest) :
    s.look waited i = { s with
      state := { s.state with inbox := rest }
      results := s.results ++ [(i, item.reception)] } := by
  rw [look, Mock.receive_cons hinbox]

theorem look_end (hinbox : s.state.inbox = []) (hclosed : s.state.closed = true) :
    s.look false i = { s with results := s.results ++ [(i, .ok none)] } := by
  rw [look, Mock.receive_nil hinbox, hclosed]
  rfl

theorem look_nil (hinbox : s.state.inbox = []) (hopen : waited = true ∨ s.state.closed = false) :
    s.look waited i = { s with receivers := s.receivers ++ [i], waiting := s.waiting ++ [waits i] } := by
  have hwait : (s.state.closed && !waited) = false := by
    rcases hopen with rfl | hclosed
    · exact Bool.and_false _
    · rw [hclosed, Bool.false_and]
  rw [look, Mock.receive_nil hinbox, hwait]
  rfl

end

/-- Receives and items are balanced: every receive that was asked for waits, was woken, or has taken one of
the items that were supplied. -/
structure Balanced (asked supplied : Nat) (s : Receivers) : Prop where
  waiting : s.waiting = s.receivers.map waits
  woken : ∀ e ∈ s.woken, e.2 = .look .done
  nodup : (s.receivers ++ s.woken.map Prod.fst).Nodup
  stock : s.state.inbox.length ≤ supplied
  balance : asked + s.state.inbox.length = s.receivers.length + s.woken.length + supplied

/-- While a receiver waits, every item in the queue has woken a task that has not looked yet. -/
def Promised (s : Receivers) : Prop := s.receivers = [] ∨ s.state.inbox.length ≤ s.woken.length

namespace Balanced

variable {asked supplied i : Nat} {s : Receivers} {waited : Bool}

theorem look_cons (h : Balanced asked supplied s) {item : InboxItem} {rest : List InboxItem}
    (hinbox : s.state.inbox = item :: rest)
    (hpromised : s.receivers = [] ∨ s.state.inbox.length ≤ s.woken.length + 1) :
    Balanced (asked + 1) supplied (s.look waited i) ∧ Promised (s.look waited i) := by
  have hstock := h.stock
  have hbalance := h.balance
  rw [hinbox, List.length_cons] at hstock hbalance hpromised
  rw [Session.look_cons hinbox]
  refine ⟨⟨h.waiting, h.woken, h.nodup, ?_, ?_⟩, hpromised.imp_right Nat.le_of_succ_le_succ⟩
  · show rest.length ≤ supplied
    omega
  · show asked + 1 + rest.length = s.receivers.length + s.woken.length + supplied
    omega

theorem look_nil (h : Balanced asked supplied s) (hi : i ∉ s.receivers ++ s.woken.map Prod.fst)
    (hinbox : s.state.inbox = []) (hopen : waited = true ∨ s.state.closed = false) :
    Balanced (asked + 1) supplied (s.look waited i) ∧ Promised (s.look waited i) := by
  have hbalance := h.balance
  have hempty : s.state.inbox.length = 0 := by rw [hinbox, List.length_nil]
  have hperm : (s.receivers ++ [i] ++ s.woken.map Prod.fst).Perm
      (i :: (s.receivers ++ s.woken.map Prod.fst)) := by
    rw [List.append_assoc]
    exact List.perm_middle
  rw [Session.look_nil hinbox hopen]
  refine ⟨⟨?_, h.woken, ?_, h.stock, ?_⟩, .inr ?_⟩
  · show s.waiting ++ [waits i] = (s.receivers ++ [i]).map waits
    rw [h.waiting, List.map_append]
    rfl
  · exact hperm.nodup_iff.mpr (List.nodup_cons.mpr ⟨hi, h.nodup⟩)
  · show asked + 1 + s.state.inbox.length = (s.receivers ++ [i]).length + s.woken.length + supplied
    rw [List.length_append, List.length_singleton]
    omega
  · show s.state.inbox.length ≤ s.woken.length
    omega

theorem look_end (h : Balanced asked supplied s) (hpromised : Promised s) (hinbox : s.state.inbox = [])
    (hclosed : s.state.closed = true) :
    Balanced asked supplied (s.look false i) ∧ Promised (s.look false i) := by
  rw [Session.look_end hinbox hclosed]
  exact ⟨⟨h.waiting, h.woken, h.nodup, h.stock, h.balance⟩, hpromised⟩

theorem rouse (h : Balanced asked supplied s) {before rest : List (Nat × Woken (Option Message))}
    {w : Woken (Option Message)} (hwoken : s.woken = before ++ (i, w) :: rest) :
    w = .look .done ∧ i ∉ s.receivers ++ (before ++ rest).map Prod.fst ∧
      ∃ others, asked = others + 1 ∧ Balanced others supplied { s with woken := before ++ rest } := by
  have hstock := h.stock
  have hbalance := h.balance
  have hlength : s.woken.length = (before ++ rest).length + 1 := by
    rw [hwoken, List.length_append, List.length_append, List.length_cons, Nat.add_assoc]
  have hmem : (i, w) ∈ s.woken := hwoken ▸ List.mem_append_right _ (List.mem_cons_self ..)
  have hperm : (s.receivers ++ s.woken.map Prod.fst).Perm
      (i :: (s.receivers ++ (before ++ rest).map Prod.fst)) := by
    rw [hwoken, List.map_append, List.map_append, List.map_cons, ← List.append_assoc, ← List.append_assoc]
    exact List.perm_middle
  obtain ⟨hi, hnodup⟩ := List.nodup_cons.mp (hperm.nodup_iff.mp h.nodup)
  refine ⟨h.woken _ hmem, hi, asked - 1, by omega,
    h.waiting, fun e he => h.woken e ?_, hnodup, hstock, ?_⟩
  · rw [hwoken]
    exact ((List.sublist_cons_self (i, w) rest).append_left before).subset he
  · show asked - 1 + s.state.inbox.length = s.receivers.length + (before ++ rest).length + supplied
    omega

end Balanced

section

variable [Readers]

/-- The channel after a call, which is no receive; each item that it queued wakes a receiver. -/
def used (s : Receivers) (u : Mock.Use) : Receivers := s.absorb .mock ⟨(), s.state.apply u, []⟩

/-- What tasks that receive from a new mock channel can come to, whatever else is done with it and in whatever
order the woken ones go on. The first number counts the receives that were asked for, but for those that found
the stream at its end; the second one counts the items that were queued, but for those that were cleared. -/
inductive Receiving (responder : Option Responder) : Nat → Nat → Receivers → Prop
  | fresh : Receiving responder 0 0 (ofState (.fresh responder))
  | receive {asked supplied : Nat} {s : Receivers} (h : Receiving responder asked supplied s) {i : Nat}
      (hi : i ∉ s.receivers ++ s.woken.map Prod.fst) :
      Receiving responder (if s.state.closed ∧ s.state.inbox.isEmpty then asked else asked + 1) supplied
        (s.advance .mock i (.receive .done))
  | clear {asked supplied : Nat} {s : Receivers} (h : Receiving responder asked supplied s) :
      Receiving responder asked (supplied - s.state.inbox.length) (s.used .clear)
  | use {asked supplied : Nat} {s : Receivers} (h : Receiving responder asked supplied s) {u : Mock.Use}
      (hu : u.isClear = false) (hreceive : u ≠ .receive) :
      Receiving responder asked (supplied + (Mock.Event.mk u s.state).queued.length) (s.used u)
  | resume {asked supplied : Nat} {s : Receivers} (h : Receiving responder asked supplied s)
      {before rest : List (Nat × Woken (Option Message))} {i : Nat} {w : Woken (Option Message)}
      (hwoken : s.woken = before ++ (i, w) :: rest) :
      Receiving responder asked supplied (resume .mock i w { s with woken := before ++ rest })

theorem absorb_of_le {α : Type} {s : Receivers} {e : Effect Mock α}
    (h : e.state.inbox.length ≤ s.state.inbox.length) :
    s.absorb .mock e = { s with state := e.state, log := s.log ++ e.log } := by
  have hnone : Channel.mock.backlog e.state - Channel.mock.backlog s.state = 0 := Nat.sub_eq_zero_of_le h
  rw [absorb, hnone]
  rfl

theorem absorb_receive (waited : Bool) (s : Receivers) :
    s.absorb .mock (Channel.mock.receive waited s.state) =
      { s with state := (s.state.receive waited).2 } := by
  have hle : (s.state.receive waited).2.inbox.length ≤ s.state.inbox.length := by
    cases hinbox : s.state.inbox with
    | nil => rw [Mock.receive_nil hinbox, hinbox]
    | cons item rest => rw [Mock.receive_cons hinbox]; exact Nat.le_succ _
  refine (absorb_of_le hle).trans ?_
  show { s with state := (s.state.receive waited).2, log := s.log ++ [] } = _
  rw [List.append_nil]

theorem advance_eq_look (i : Nat) (s : Receivers) :
    s.advance .mock i (.receive .done) = s.look false i := by
  rw [advance, absorb_receive, look]
  show (match (s.state.receive false).1 with | some r => _ | none => _) = _
  cases (s.state.receive false).1 <;> rfl

theorem resume_eq_look (i : Nat) (s : Receivers) :
    s.resume .mock i (.look .done) = s.look true i := by
  rw [resume, absorb_receive, look]
  show (match (s.state.receive true).1 with | some r => _ | none => _) = _
  cases (s.state.receive true).1 <;> rfl

theorem drain_of_woken_nil {s : Receivers} (h : s.woken = []) (fuel : Nat) : s.drain .mock fuel = s := by
  cases fuel with
  | zero => rfl
  | succ fuel => rw [drain, h]

/-- If one woken task is left then it looks, and that is all. -/
theorem settle_of_woken_singleton {s : Receivers} {i : Nat} (h : s.woken = [looks i]) :
    s.settle .mock = look true i { s with woken := [] } := by
  have hfuel : s.fuelFor = 8 * (s.waiting.length + s.woken.length) + 7 + 1 := rfl
  have hwoken : (look true i { s with woken := [] }).woken = [] := by
    unfold look
    split <;> rfl
  rw [settle, hfuel, drain, h]
  simp only [looks]
  rw [resume_eq_look, drain_of_woken_nil hwoken]

namespace Balanced

variable {asked supplied : Nat} {s : Receivers}

/-- What a call queues wakes as many receivers, if so many wait. -/
theorem used_eq (h : Balanced asked supplied s) {u : Mock.Use} (hu : u.isClear = false)
    (hreceive : u ≠ .receive) :
    let n := (Mock.Event.mk u s.state).queued.length
    s.used u = { s with
      state := s.state.apply u
      receivers := s.receivers.drop n
      waiting := (s.receivers.drop n).map waits
      woken := s.woken ++ (s.receivers.take n).map looks } := by
  intro n
  have harrived : Channel.mock.backlog (s.state.apply u) - Channel.mock.backlog s.state = n := by
    show (s.state.apply u).inbox.length - s.state.inbox.length = n
    rw [s.state.inbox_apply_of_ne hu hreceive, List.length_append, Nat.add_sub_cancel_left]
  rw [used, absorb, harrived, List.append_nil]
  exact wakeReceivers_eq (s := { s with state := s.state.apply u }) h.waiting h.nodup.of_append_left n

theorem use (h : Balanced asked supplied s) (hpromised : Promised s) {u : Mock.Use}
    (hu : u.isClear = false) (hreceive : u ≠ .receive) :
    Balanced asked (supplied + (Mock.Event.mk u s.state).queued.length) (s.used u) ∧
      Promised (s.used u) := by
  have hinbox := s.state.inbox_apply_of_ne hu hreceive
  have hstock := h.stock
  have hbalance := h.balance
  rw [h.used_eq hu hreceive]
  set n := (Mock.Event.mk u s.state).queued.length
  have hlength : (s.state.apply u).inbox.length = s.state.inbox.length + n := by
    rw [hinbox, List.length_append]
  have htasks : (s.woken ++ (s.receivers.take n).map looks).map Prod.fst =
      s.woken.map Prod.fst ++ s.receivers.take n := by
    rw [List.map_append, List.map_map]
    exact congrArg _ (List.map_id _)
  have hperm : (s.receivers.drop n ++ (s.woken.map Prod.fst ++ s.receivers.take n)).Perm
      (s.receivers ++ s.woken.map Prod.fst) := by
    refine List.perm_append_comm.trans ?_
    rw [List.append_assoc, List.take_append_drop]
    exact List.perm_append_comm
  refine ⟨⟨rfl, ?_, ?_, ?_, ?_⟩, ?_⟩
  · exact List.forall_mem_append.mpr ⟨h.woken, List.forall_mem_map.mpr fun _ _ => rfl⟩
  · show (s.receivers.drop n ++ List.map Prod.fst (s.woken ++ _)).Nodup
    rw [htasks]
    exact hperm.nodup_iff.mpr h.nodup
  · show (s.state.apply u).inbox.length ≤ _
    omega
  · show asked + (s.state.apply u).inbox.length = _
    simp only [List.length_drop, List.length_append, List.length_map, List.length_take]
    omega
  · show s.receivers.drop n = [] ∨ (s.state.apply u).inbox.length ≤ _
    simp only [List.drop_eq_nil_iff, List.length_append, List.length_map, List.length_take]
    rcases hpromised with hnone | hle
    · exact .inl (by simp [hnone])
    · omega

theorem clear (h : Balanced asked supplied s) :
    Balanced asked (supplied - s.state.inbox.length) (s.used .clear) ∧ Promised (s.used .clear) := by
  have hstock := h.stock
  have hbalance := h.balance
  have hused : s.used .clear = { s with state := s.state.clear, log := s.log ++ [] } :=
    absorb_of_le (Nat.zero_le _)
  rw [hused]
  refine ⟨⟨h.waiting, h.woken, h.nodup, Nat.zero_le _, ?_⟩, .inr (Nat.zero_le _)⟩
  show asked + 0 = s.receivers.length + s.woken.length + (supplied - s.state.inbox.length)
  omega

end Balanced

namespace Receiving

variable {responder : Option Responder} {asked supplied : Nat} {s : Receivers}

theorem balanced (h : Receiving responder asked supplied s) : Balanced asked supplied s ∧ Promised s := by
  induction h with
  | fresh => exact ⟨⟨rfl, List.forall_mem_nil _, List.nodup_nil, le_rfl, rfl⟩, .inl rfl⟩
  | @receive asked supplied s _ i hi ih =>
    obtain ⟨hbalanced, hpromised⟩ := ih
    rw [advance_eq_look]
    cases hinbox : s.state.inbox with
    | cons item rest =>
      rw [if_neg (by simp)]
      exact hbalanced.look_cons hinbox (hpromised.imp_right Nat.le_succ_of_le)
    | nil =>
      cases hclosed : s.state.closed with
      | true => exact hbalanced.look_end hpromised hinbox hclosed
      | false => exact hbalanced.look_nil hi hinbox (.inr hclosed)
  | clear _ ih => exact ih.1.clear
  | use _ hu hreceive ih => exact ih.1.use ih.2 hu hreceive
  | @resume asked supplied s _ before rest i w hwoken ih =>
    obtain ⟨hbalanced, hpromised⟩ := ih
    obtain ⟨rfl, hi, others, rfl, hothers⟩ := hbalanced.rouse hwoken
    rw [resume_eq_look]
    cases hinbox : s.state.inbox with
    | cons item rest =>
      refine hothers.look_cons hinbox (hpromised.imp_right fun hle => ?_)
      rw [hwoken, List.length_append, List.length_cons, ← Nat.add_assoc, ← List.length_append] at hle
      exact hle
    | nil => exact hothers.look_nil hi hinbox (.inl rfl)

/-- What woken tasks come to when they run in order is among what they can come to. -/
theorem drain (h : Receiving responder asked supplied s) (fuel : Nat) :
    Receiving responder asked supplied (s.drain .mock fuel) := by
  induction fuel generalizing s with
  | zero => exact h
  | succ fuel ih =>
    rw [Session.drain]
    split
    · exact h
    · rename_i i w rest hwoken
      have hfirst : s.woken = [] ++ (i, w) :: rest := hwoken
      exact ih (h.resume hfirst)

/-- Closing an open channel, on which no woken task is left, releases the receiver that has waited longest. -/
theorem settle_close (h : Receiving responder asked supplied s) (hsettled : s.woken = [])
    (hopen : s.state.closed = false) :
    let t := (s.used .close).settle .mock
    t.woken = [] ∧ t.state.closed = true ∧ t.receivers = s.receivers.tail ∧
      t.results = s.results ++ s.receivers.head?.toList.map fun i => (i, .ok none) := by
  obtain ⟨hbalanced, hpromised⟩ := h.balanced
  have hused := hbalanced.used_eq (u := .close) rfl nofun
  rw [Mock.queued_close hopen, hsettled, Mock.apply, Mock.close_of_open hopen] at hused
  rw [hused]
  cases hreceivers : s.receivers with
  | nil =>
    rw [settle, drain_of_woken_nil (by rfl)]
    exact ⟨rfl, rfl, rfl, (List.append_nil _).symm⟩
  | cons i rest =>
    have hinbox : s.state.inbox = [] := by
      rw [Promised, hreceivers, hsettled] at hpromised
      exact List.length_eq_zero_iff.mp (Nat.le_zero.mp (hpromised.resolve_left (List.cons_ne_nil _ _)))
    rw [settle_of_woken_singleton (i := i) (by rfl), hinbox]
    exact ⟨rfl, rfl, rfl, rfl⟩

/-- How many tasks wait. Once every woken task has run, the receivers that wait are as many as the receives
that were asked for exceed the items that were supplied, and the queue holds as many items as these exceed
the receives. Closing an open channel supplies one item: of the receivers that wait then, the one that has
waited longest ends, at the end of the stream, and all others go on waiting. So closing releases every
receiver if and only if at most one waits. -/
theorem blocked_exactly (h : Receiving responder asked supplied s) (hsettled : s.woken = []) :
    s.receivers.length = asked - supplied ∧ s.state.inbox.length = supplied - asked ∧
    (s.state.closed = false →
      let t := (s.disturb .mock fun m => ((), m.close)).2
      Receiving responder asked (supplied + 1) t ∧ t.woken = [] ∧ t.state.closed = true ∧
        t.receivers = s.receivers.tail ∧
        t.results = s.results ++ s.receivers.head?.toList.map fun i => (i, .ok none)) := by
  obtain ⟨hbalanced, hpromised⟩ := h.balanced
  have hbalance := hbalanced.balance
  rw [Promised, hsettled, List.length_nil, ← List.length_eq_zero_iff] at hpromised
  rw [hsettled, List.length_nil] at hbalance
  refine ⟨by omega, by omega, fun hopen => ?_⟩
  have hused := h.use (u := .close) rfl nofun
  rw [Mock.queued_close hopen] at hused
  exact ⟨hused.drain _, h.settle_close hsettled hopen⟩

end Receiving

end

/-- Two tasks wait for a message when the channel is closed. The second one still waits when all is done. -/
theorem Receiving.blocked_exactly_two :
    let s : Receivers := ⟨.fresh none, [], [0, 1], [waits 0, waits 1], [], [], []⟩
    let t := (s.disturb .mock fun m => ((), m.close)).2
    Receiving none 2 0 s ∧ s.receivers.length = 2 ∧ Receiving none 2 1 t ∧ t.woken = [] ∧
      t.state.closed = true ∧ t.receivers = [1] ∧ t.results = [(0, .ok none)] := by
  intro s t
  let first : Receivers := ⟨.fresh none, [], [0], [waits 0], [], [], []⟩
  have hfirst : Receiving none 1 0 first := by
    have hfresh : Receiving none 0 0 (ofState (.fresh none)) := .fresh
    have h := hfresh.receive (i := 0) List.not_mem_nil
    rwa [advance_eq_look] at h
  have hs : Receiving none 2 0 s := by
    have h := hfirst.receive (i := 1) (by decide)
    rwa [advance_eq_look] at h
  obtain ⟨hblocked, -, hclose⟩ := hs.blocked_exactly rfl
  exact ⟨hs, hblocked, hclose rfl⟩

end Session

end RemoteSigner
