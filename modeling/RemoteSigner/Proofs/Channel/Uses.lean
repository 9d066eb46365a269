import Mathlib
import RemoteSigner.Proofs.Channel.Answering

/-!
# Whole runs of a mock channel

A mock channel is used by one call after another (`Mock.Use`). Nothing that it queues is lost, doubled or
overtaken, and it records what it was sent: `Mock.Accounted` says so of the calls since the last clear, and
every call keeps it (`Mock.Accounted.concat`). `Mock.run_accounted` says it of every run, with what a channel
that is closed or told to fail still does.
-/

namespace RemoteSigner

namespace Mock

variable {m : Mock}

/-! ## Calls -/

/-- A call on a mock channel. -/
inductive Use where
  | setReply (command : Text) (reply : Datum)
  | inject (reply : Datum)
  | endStream
  | failReceive (message : Option String) (cause : Option Fault)
  | failSend (f : Option Fault)
  | clear
  | send (frame : Text)
  /-- A receiver for which nothing is there does not wait. -/
  | receive
  | close

def Use.isClear : Use → Bool
  | clear => true
  | _ => false

/-- A call, and the channel as the call found it. -/
structure Event where
  use : Use
  found : Mock

/-- The calls after the last clear. -/
def sinceClear (events : List Event) : List Event := events.rtakeWhile fun e => !e.use.isClear

/-! ## What calls do without reading -/

theorem takes_iff : m.Takes ↔ m.closed = false ∧ m.sendFault.isNone :=
  ⟨fun h => ⟨h.isOpen, Option.isNone_iff_eq_none.mpr h.sendFault⟩,
    fun h => ⟨h.1, Option.isNone_iff_eq_none.mp h.2⟩⟩

instance : Decidable m.Takes := decidable_of_iff' _ takes_iff

theorem state_inject (m : Mock) (reply : Datum) :
    (m.inject reply).2 = m.queue ((toMessage reply).toOption.toList.map .message) := by
  unfold inject
  cases toMessage reply with
  | error f => exact m.queue_nil.symm
  | ok w => rfl

/-- What so many receives one after another give; nothing is given to one that has to wait. -/
def receptions : Nat → Mock → List (Option Reception)
  | 0, _ => []
  | n + 1, m => (m.receive false).1 :: receptions n (m.receive false).2

/-- No receive waits on a closed channel: it gives what is queued and then the end of the stream. -/
theorem receptions_of_closed (h : m.closed = true) (n : Nat) :
    m.receptions (m.inbox.length + n) =
      m.inbox.map (fun item => some item.reception) ++ List.replicate n (some (.ok none)) := by
  induction hinbox : m.inbox generalizing m with
  | nil =>
    simp only [List.length_nil, Nat.zero_add, List.map_nil, List.nil_append]
    induction n with
    | zero => rfl
    | succ n ih =>
      have hend : m.receive false = (some (.ok none), m) := by rw [receive_nil hinbox, h]; rfl
      rw [receptions, hend, ih, List.replicate_succ]
  | cons item rest ih =>
    have hlength : (item :: rest).length + n = (rest.length + n) + 1 := Nat.succ_add ..
    rw [hlength, receptions, receive_cons hinbox, ih (m := { m with inbox := rest }) h rfl]
    rfl

/-! ## Runs of calls -/

section

variable [Readers]

/-- The channel after a call. -/
def apply (m : Mock) : Use → Mock
  | .setReply command reply => m.setReply command reply
  | .inject reply => (m.inject reply).2
  | .endStream => m.endStream
  | .failReceive message cause => m.failReceiveWith (.transport message cause)
  | .failSend f => m.failSendWith f
  | .clear => m.clear
  | .send frame => (m.send frame).2
  | .receive => (m.receive false).2
  | .close => m.close

/-- The channel after a run of calls. -/
def after (m : Mock) (uses : List Use) : Mock := uses.foldl apply m

/-- The calls of a run, each with the channel as it found it. -/
def history (m : Mock) : List Use → List Event
  | [] => []
  | u :: rest => ⟨u, m⟩ :: history (m.apply u) rest

theorem after_concat (m : Mock) (uses : List Use) (u : Use) :
    m.after (uses ++ [u]) = (m.after uses).apply u := List.foldl_concat ..

theorem history_concat (m : Mock) (uses : List Use) (u : Use) :
    m.history (uses ++ [u]) = m.history uses ++ [⟨u, m.after uses⟩] := by
  induction uses generalizing m with
  | nil => rfl
  | cons v rest ih => exact congrArg (⟨v, m⟩ :: ·) (ih (m.apply v))

/-- A send that is taken records the frame and queues the answer, and one that is refused does nothing. -/
theorem state_send (m : Mock) (frame : Text) :
    (m.send frame).2 =
      if m.Takes then { m with frames := m.frames ++ [frame] }.queue (m.answerItems frame) else m := by
  split_ifs with h
  · rw [h.send, state_answer]
    rfl
  · cases hclosed : m.closed with
    | true => rw [send_of_closed hclosed]
    | false =>
      obtain ⟨f, hf⟩ := Option.ne_none_iff_exists'.mp fun hnone => h ⟨hclosed, hnone⟩
      rw [send_of_fault hclosed hf]

/-! ## What calls queue, deliver and record -/

namespace Event

/-- The items that the call queues: a message for a reply that has a written form, an end of the stream or a
fault, whatever a frame that is taken is answered with, and an end of the stream on the first close. -/
def queued (e : Event) : List InboxItem :=
  match e.use with
  | .inject reply => (toMessage reply).toOption.toList.map .message
  | .endStream => [.endOfStream]
  | .failReceive message cause => [.failure (.transport message cause)]
  | .send frame => if e.found.Takes then e.found.answerItems frame else []
  | .close => if e.found.closed then [] else [.endOfStream]
  | .setReply .. | .failSend _ | .clear | .receive => []

/-- What the call delivers, if it is a receive that finds something queued. -/
def delivered? (e : Event) : Option Reception :=
  match e.use with
  | .receive => if e.found.inbox.isEmpty then none else (e.found.receive false).1
  | _ => none

/-- The frame that the call sends, if the channel is open and not told to fail. -/
def recorded? (e : Event) : Option Text :=
  match e.use with
  | .send frame => if e.found.Takes then some frame else none
  | _ => none

end Event

theorem queued_close (h : m.closed = false) : (Event.mk .close m).queued = [.endOfStream] := by
  rw [Event.queued, h]
  rfl

/-- What a call does to the channel: it delivers what comes first in the queue, what it queues comes last, the
frame that it records is the last one, and the channel is closed if it was or if the call is a close. -/
structure Event.Leads (e : Event) (m : Mock) : Prop where
  inbox : ∃ taken : List InboxItem, e.delivered?.toList = taken.map InboxItem.reception ∧
    e.found.inbox ++ e.queued = taken ++ m.inbox
  frames : m.frames = e.found.frames ++ e.recorded?.toList
  closed : m.closed = true ↔ e.found.closed = true ∨ e.use = .close

/-- Every call but a clear does so. -/
theorem leads_apply (m : Mock) {u : Use} (hu : u.isClear = false) : Event.Leads ⟨u, m⟩ (m.apply u) := by
  have hsame {u : Use} (h : u ≠ .close) : m.closed = true ↔ m.closed = true ∨ u = .close :=
    ⟨.inl, fun hor => hor.resolve_right h⟩
  cases u with
  | clear => cases hu
  | setReply | failSend =>
    exact ⟨⟨[], rfl, List.append_nil _⟩, (List.append_nil _).symm, hsame nofun⟩
  | endStream | failReceive => exact ⟨⟨[], rfl, rfl⟩, (List.append_nil _).symm, hsame nofun⟩
  | inject reply =>
    rw [apply, state_inject]
    exact ⟨⟨[], rfl, rfl⟩, (List.append_nil _).symm, hsame nofun⟩
  | send frame =>
    rw [apply, state_send]
    by_cases htakes : m.Takes
    · have hqueued : (Event.mk (.send frame) m).queued = m.answerItems frame := if_pos htakes
      have hrecorded : (Event.mk (.send frame) m).recorded? = some frame := if_pos htakes
      rw [if_pos htakes]
      exact ⟨⟨[], rfl, hqueued ▸ rfl⟩, hrecorded ▸ rfl, hsame nofun⟩
    · have hqueued : (Event.mk (.send frame) m).queued = [] := if_neg htakes
      have hrecorded : (Event.mk (.send frame) m).recorded? = none := if_neg htakes
      rw [if_neg htakes]
      refine ⟨⟨[], rfl, ?_⟩, hrecorded ▸ (List.append_nil _).symm, hsame nofun⟩
      rw [hqueued]
      exact List.append_nil _
  | receive =>
    rw [apply]
    cases hinbox : m.inbox with
    | nil =>
      have hdelivered : (Event.mk .receive m).delivered? = none := by simp [Event.delivered?, hinbox]
      rw [receive_nil hinbox]
      exact ⟨⟨[], hdelivered ▸ rfl, List.append_nil _⟩, (List.append_nil _).symm, hsame nofun⟩
    | cons item rest =>
      have hdelivered : (Event.mk .receive m).delivered? = some item.reception := by
        simp [Event.delivered?, hinbox, receive_cons hinbox]
      rw [receive_cons hinbox]
      refine ⟨⟨[item], hdelivered ▸ rfl, ?_⟩, (List.append_nil _).symm, hsame nofun⟩
      exact (List.append_nil _).trans hinbox
  | close =>
    rw [apply]
    cases hclosed : m.closed with
    | true =>
      have hqueued : (Event.mk .close m).queued = [] := if_pos hclosed
      rw [close_of_closed hclosed]
      refine ⟨⟨[], rfl, ?_⟩, (List.append_nil _).symm, by simp [hclosed]⟩
      rw [hqueued]
      exact List.append_nil _
    | false =>
      rw [close_of_open hclosed]
      exact ⟨⟨[], rfl, queued_close hclosed ▸ rfl⟩, (List.append_nil _).symm, by simp⟩

theorem inbox_apply_of_ne (m : Mock) {u : Use} (hu : u.isClear = false) (hreceive : u ≠ .receive) :
    (m.apply u).inbox = m.inbox ++ (Event.mk u m).queued := by
  obtain ⟨taken, htaken, hinbox⟩ := (m.leads_apply hu).inbox
  have hnone : (Event.mk u m).delivered? = none := by cases u <;> first | rfl | exact (hreceive rfl).elim
  rw [hnone] at htaken
  rw [List.map_eq_nil_iff.mp htaken.symm, List.nil_append] at hinbox
  exact hinbox.symm

/-- The calls account for the channel: what they delivered and then what is in the queue is what they queued,
in order, and the frames are those that they recorded. -/
structure Accounted (events : List Event) (m : Mock) : Prop where
  inbox : ∃ taken : List InboxItem, events.filterMap Event.delivered? = taken.map InboxItem.reception ∧
    taken ++ m.inbox = events.flatMap Event.queued
  frames : m.frames = events.filterMap Event.recorded?

theorem Accounted.concat {events : List Event} (h : Accounted events m) {u : Use}
    (hu : u.isClear = false) : Accounted (events ++ [⟨u, m⟩]) (m.apply u) := by
  obtain ⟨⟨before, hdelivered, hqueued⟩, hframes⟩ := h
  obtain ⟨⟨taken, htaken, hinbox⟩, hframe, -⟩ := m.leads_apply hu
  have hfilterMap {α : Type} (g : Event → Option α) : (events ++ [Event.mk u m]).filterMap g =
      events.filterMap g ++ (g ⟨u, m⟩).toList := by
    rw [List.filterMap_append]
    cases hg : g ⟨u, m⟩ <;> simp [hg]
  refine ⟨⟨before ++ taken, ?_, ?_⟩, ?_⟩
  · rw [hfilterMap, hdelivered, htaken, List.map_append]
  · rw [List.flatMap_append, List.flatMap_singleton, ← hqueued, List.append_assoc, List.append_assoc,
      hinbox]
  · rw [hfilterMap, hframe, hframes]

theorem accounted_clear (m : Mock) : Accounted [] m.clear := ⟨⟨[], rfl, rfl⟩, rfl⟩

/-- The calls since the last clear account for the channel, in every run. -/
theorem accounted_after (responder : Option Responder) (uses : List Use) :
    Accounted (sinceClear ((fresh responder).history uses)) ((fresh responder).after uses) := by
  induction uses using List.reverseRecOn with
  | nil => exact accounted_clear (fresh responder)
  | append_singleton uses u ih =>
    rw [history_concat, after_concat, sinceClear]
    cases hu : u.isClear with
    | true =>
      rw [List.rtakeWhile_concat_neg _ _ _ (by simp [hu])]
      cases u <;> cases hu
      exact accounted_clear _
    | false =>
      rw [List.rtakeWhile_concat_pos _ _ _ (by simp [hu])]
      exact ih.concat hu

theorem closed_after (responder : Option Responder) (uses : List Use) :
    ((fresh responder).after uses).closed = true ↔ .close ∈ uses := by
  induction uses using List.reverseRecOn with
  | nil => exact ⟨nofun, nofun⟩
  | append_singleton uses u ih =>
    rw [after_concat, List.mem_append, List.mem_singleton, ← ih, eq_comm (b := u)]
    cases hu : u.isClear with
    | true =>
      cases u <;> cases hu
      exact ⟨.inl, fun h => h.resolve_right nofun⟩
    | false => exact (leads_apply _ hu).closed

/-- Every run of calls on a new channel. What the receives since the last clear delivered, and then what is
in the queue, is what was queued since then, in order; the frames are those of the sends since then that
found the channel open and not told to fail. A send on a closed channel, or one that is told to fail, changes
nothing. A channel is closed once it was closed, for good; closing it again changes nothing, and no receive
waits on it: each gives the next of what is queued, and then the end of the stream for as long as nothing
more is queued. -/
theorem run_accounted (responder : Option Responder) (uses : List Use) :
    let m := (fresh responder).after uses
    Accounted (sinceClear ((fresh responder).history uses)) m ∧
    (m.closed = true → ∀ frame, m.send frame = (.error (.transport (some "Channel is closed") none), m)) ∧
    (m.closed = false → ∀ f, m.sendFault = some f → ∀ frame, m.send frame = (.error f, m)) ∧
    (m.closed = true ↔ .close ∈ uses) ∧
    (m.closed = true → m.close = m ∧ ∀ n, m.receptions (m.inbox.length + n) =
      m.inbox.map (fun item => some item.reception) ++ List.replicate n (some (.ok none))) :=
  ⟨accounted_after responder uses, fun h frame => send_of_closed h frame,
    fun h _ hf frame => send_of_fault h hf frame, closed_after responder uses,
    fun h => ⟨close_of_closed h, receptions_of_closed h⟩⟩

end

/-- Two messages and a failure of receivers are queued, with a clear after the first message. Sends are told
to fail, the second message is received, and the channel is closed. -/
theorem run_accounted_closing :
    let f : Fault := .transport (some "refused") none
    let second : Text := .whole "second"
    let uses : List Use := [.inject (.text (.whole "first")), .clear, .inject (.text second),
      .failReceive (some "lost") none, .failSend (some f), .receive]
    let since := sinceClear ((fresh none).history uses)
    let m := (fresh none).after uses
    let closed := (fresh none).after (uses ++ [.close])
    (∃ taken : List InboxItem, [.ok (some (.ofText second))] = taken.map InboxItem.reception ∧
        taken ++ m.inbox = since.flatMap Event.queued) ∧
      m.send second = (.error f, m) ∧
      closed.send second = (.error (.transport (some "Channel is closed") none), closed) ∧
      closed.close = closed ∧
      closed.receptions 3 =
        [some (.error (.transport (some "lost") none)), some (.ok none), some (.ok none)] := by
  intro f second uses since m closed
  obtain ⟨haccounted, -, hrefused, -, -⟩ := run_accounted none uses
  obtain ⟨-, hsend, -, hclosed, hend⟩ := run_accounted none (uses ++ [.close])
  have hclosed := hclosed.mpr (List.mem_append_right _ (List.mem_singleton_self _))
  obtain ⟨hclose, hreceptions⟩ := hend hclosed
  exact ⟨haccounted.inbox, hrefused rfl f rfl second, hsend hclosed second, hclose, hreceptions 1⟩

end Mock

end RemoteSigner
