import Mathlib
import RemoteSigner.Proofs.Client.Plays
import RemoteSigner.Proofs.Session.Interleaving

/-!
# Operations one after another

A client that is not shared plays one operation after another against the peer (`Serves`). If everything
accepted so far has been answered and the answers received, an operation takes one of a few turns
(`Operation.Turn`), and as long as the client is usable afterwards, that is still so
(`Serves.in_step`): a failure that leaves the client usable does nothing to later operations.
-/

namespace RemoteSigner

variable {κ : Type} {channel : Channel κ} {α : Type}

/-! ## Faults that leave a client usable -/

/-- After an operation that ended so, the client can be used again. -/
def Usable (r : Except Fault α) : Prop := ∀ f, r = .error f → f.isMinor

theorem usable_error {f : Fault} (hf : f.isMinor) : Usable (.error f : Except Fault α) := by
  rintro g ⟨⟩
  exact hf

theorem usable_ok (a : α) : Usable (.ok a : Except Fault α) := by
  rintro f ⟨⟩

theorem not_usable {f : Fault} (hf : f.isMinor = false) : ¬ Usable (.error f : Except Fault α) := by
  intro h
  rw [h f rfl] at hf
  cases hf

/-- A fault of the channel ends the call with a fault that leaves the client unusable. -/
theorem Client.ending_failed (command : Command) {f : Fault} (hf : f.isMinor = false) :
    ∃ g, (failed command f : Act α).ending = some (.error g) ∧ g.isMinor = false := by
  cases f with
  | transport => exact ⟨_, rfl, rfl⟩
  | _ => exact ⟨_, rfl, hf⟩

theorem Client.plays_failed {peer : Peer channel} {p q : Position κ} {ws : List Answer}
    {command : Command} {f : Fault} (hf : f.isMinor = false)
    {r : Except Fault α} (h : (failed command f).Plays peer p ws r q) :
    ws = [] ∧ ∃ g, r = .error g ∧ g.isMinor = false := by
  obtain ⟨rfl, hr⟩ := h.of_silent (silent_failed command f)
  obtain ⟨g, hg, hminor⟩ := ending_failed (α := α) command hf
  exact ⟨rfl, g, Option.some.inj (hr.symm.trans hg), hminor⟩

/-! ## Turns -/

section

variable [Readers]

/-- What a message is read as. -/
def Shape.reading (shape : Shape α) (m : Message) : Except Fault α :=
  if m.isText then
    (shape.decode m.content).mapError fun r => .client .serialization (some (.rejected r))
  else .error (.client .invalidMessageFormat none)

/-- The turns of an operation that starts when the frames before have all been answered: what its calls
come to, and how it ends. -/
inductive Operation.Turn (peer : Peer channel) (frames : List Text) :
    Operation → List Answer → Except Fault Reply → Prop
  | unwritten {command : Command} {request : Datum} {f : DumpFault}
      (he : (Envelope.mk (.whole command.label) request).encode = .error f) :
      Turn peer frames (.call command request) []
        (.error (.client .serialization (some (.unwritable f))))
  | unsent {command : Command} {request : Datum} {frame : String} {f g : Fault}
      (he : (Envelope.mk (.whole command.label) request).encode = .ok frame)
      (hg : g.isMinor = false) :
      Turn peer frames (.call command request) [.sent (.whole frame) (.error f)] (.error g)
  | unanswered {command : Command} {request : Datum} {frame : String} {x : Reception} {g : Fault}
      (he : (Envelope.mk (.whole command.label) request).encode = .ok frame)
      (hx : (Answer.received x).message? = none) (hg : g.isMinor = false) :
      Turn peer frames (.call command request) [.sent (.whole frame) (.ok ()), .received x] (.error g)
  | answered {command : Command} {request : Datum} {frame : String} {m : Message}
      (he : (Envelope.mk (.whole command.label) request).encode = .ok frame)
      (hm : m = peer.answer (frames ++ [.whole frame])) :
      Turn peer frames (.call command request)
        [.sent (.whole frame) (.ok ()), .received (.ok (some m))]
        (Reply.value command <$> command.reply.shape.reading m)
  | closed : Turn peer frames .close [.closed (.ok ())] (.ok .closed)
  | unclosed {f : Fault} (hf : f.isMinor = false) :
      Turn peer frames .close [.closed (.error f)] (.error f)

theorem Client.ending_concluded (command : Command) (shape : Shape α) (m : Message) :
    (concluded command shape (some m)).ending = some (shape.reading m) := by
  unfold concluded Shape.reading
  simp only
  cases m.isText with
  | false => rfl
  | true => cases shape.decode m.content <;> rfl

section

variable {peer : Peer channel} {p q : Position κ} {ws : List Answer}

theorem Client.plays_listening (hpeer : peer.RaisesNoMinorFault) (hp : peer.Allows p)
    {frames : List Text} {frame : Text} (hframes : p.frames = frames ++ [frame])
    (hreceived : p.received = frames.length) {command : Command} {shape : Shape α}
    {next : Reception → Act α} (hnext : ∀ x, next x = match x with
      | .error f => failed command f
      | .ok m => concluded command shape m)
    {r : Except Fault α} (h : (Act.receive next).Plays peer p ws r q) :
    (∃ x g, ws = [.received x] ∧ (Answer.received x).message? = none ∧ r = .error g ∧
      g.isMinor = false) ∨
    ∃ m, ws = [.received (.ok (some m))] ∧ m = peer.answer (frames ++ [frame]) ∧
      r = shape.reading m := by
  obtain ⟨s, b, s', w, ws', hs, hanswer, rfl, h⟩ := h.of_call rfl hp
  have hmessage := (Act.answer_allowed hs hanswer).2
  obtain ⟨x, hx, hanswer⟩ := Option.map_eq_some_iff.mp hanswer
  cases hanswer
  rw [hnext] at h
  cases x with
  | error f =>
    obtain ⟨rfl, g, rfl, hg⟩ := plays_failed (hpeer.receive hs hx) h
    exact .inl ⟨_, g, rfl, rfl, rfl, hg⟩
  | ok m =>
    obtain ⟨rfl, hr⟩ := h.of_silent (silent_concluded command shape m)
    cases m with
    | none =>
      cases hr
      exact .inl ⟨_, _, rfl, rfl, rfl, rfl⟩
    | some m =>
      rw [ending_concluded] at hr
      refine .inr ⟨m, rfl, ?_, (Option.some.inj hr).symm⟩
      obtain ⟨-, hm⟩ := hmessage m rfl
      rw [hm, hframes, hreceived, List.take_of_length_le (by simp)]

end

namespace Operation

variable {peer : Peer channel} {p q : Position κ} {ws : List Answer}

/-- A call that starts when all frames have been answered takes one of its turns. -/
theorem turn_of_call (hpeer : peer.RaisesNoMinorFault) (hp : peer.Allows p)
    (hreceived : p.received = p.frames.length) {command : Command} {request : Datum}
    {r : Except Fault command.reply.Value} (h : (Client.call command request).Plays peer p ws r q) :
    (call command request).Turn peer p.frames ws (Reply.value command <$> r) := by
  cases he : (Envelope.mk (.whole command.label) request).encode with
  | error f =>
    rw [Client.call_unwritten he] at h
    obtain ⟨rfl, rfl⟩ := h.of_done
    exact .unwritten he
  | ok frame =>
    rw [Client.call_encoded he] at h
    obtain ⟨s, b, s', w, ws', hs, hanswer, rfl, h⟩ := h.of_call rfl hp
    have hat := (Act.answer_allowed hs hanswer).1
    cases hanswer
    cases hsend : (channel.send (.whole frame) s).result with
    | error f =>
      rw [hsend] at h
      obtain ⟨rfl, g, rfl, hg⟩ := Client.plays_failed (hpeer.send hs hsend) h
      exact .unsent he hg
    | ok =>
      rw [hsend] at h hat
      rcases Client.plays_listening hpeer hat rfl hreceived (fun x => by cases x <;> rfl) h.of_log with
        ⟨x, g, rfl, hx, rfl, hg⟩ | ⟨m, rfl, hm, rfl⟩
      · exact .unanswered he hx hg
      · exact .answered he hm

/-- An operation that starts when all frames have been answered takes one of its turns. -/
theorem turn_of_plays (hpeer : peer.RaisesNoMinorFault) (hp : peer.Allows p)
    (hreceived : p.received = p.frames.length) {op : Operation} {r : Except Fault Reply}
    (h : (op.act false).Plays peer p ws r q) : op.Turn peer p.frames ws r := by
  cases op with
  | call command request =>
    obtain ⟨r', hcall, rfl⟩ := Act.Plays.of_map (a := Client.call command request) h
    exact turn_of_call hpeer hp hreceived hcall
  | close =>
    obtain ⟨r', hact, rfl⟩ := Act.Plays.of_map (a := Client.close) h
    obtain ⟨s, b, s', w, ws', hs, hanswer, rfl, hdone⟩ := hact.of_call rfl hp
    cases hanswer
    obtain ⟨rfl, rfl⟩ := hdone.of_done
    cases hclose : (channel.close s).result with
    | error f => exact .unclosed (hpeer.close hs hclose)
    | ok => exact .closed

end Operation

namespace Operation.Turn

variable {peer : Peer channel} {frames : List Text} {op : Operation} {ws : List Answer}
  {r : Except Fault Reply}

/-- A message that is received answers the operation's own frame. -/
theorem of_message (h : op.Turn peer frames ws r) {m : Message}
    (hm : m ∈ ws.filterMap Answer.message?) : ∃ frame, ws.filterMap Answer.frame? = [frame] ∧
      ws.filterMap Answer.message? = [m] ∧ m = peer.answer (frames ++ [frame]) := by
  cases h with
  | unwritten | unsent | closed | unclosed => cases hm
  | @unanswered _ _ frame x g he hx =>
    have hnone : [Answer.sent (.whole frame) (.ok ()), .received x].filterMap Answer.message? = [] := by
      rw [List.filterMap_cons_none rfl, List.filterMap_cons_none hx, List.filterMap_nil]
    rw [hnone] at hm
    cases hm
  | @answered _ _ frame m' he hm' =>
    obtain rfl : m = m' := List.mem_singleton.mp hm
    exact ⟨.whole frame, rfl, rfl, hm'⟩

/-- An operation after which the client is usable has received an answer to each of its frames. -/
theorem of_usable (h : op.Turn peer frames ws r) (hr : Usable r) :
    ws.filterMap Answer.frame? = [] ∧ ws.filterMap Answer.message? = [] ∨
      ∃ frame, ws.filterMap Answer.frame? = [frame] ∧
        ws.filterMap Answer.message? = [peer.answer (frames ++ [frame])] := by
  cases h with
  | unwritten => exact .inl ⟨rfl, rfl⟩
  | unsent _ hg => exact absurd hr (not_usable hg)
  | unanswered _ _ hg => exact absurd hr (not_usable hg)
  | @answered _ _ frame m he hm => exact .inr ⟨.whole frame, rfl, hm ▸ rfl⟩
  | closed => exact .inl ⟨rfl, rfl⟩
  | unclosed hf => exact absurd hr (not_usable hf)

end Operation.Turn

/-- How the operation ends on a fresh connection to a peer that answers each frame as it would answer it
alone. -/
def Operation.resultOn (reply : Text → Message) : Operation → Except Fault Reply
  | close => .ok .closed
  | call command request =>
    Reply.value command <$>
      match (Envelope.mk (.whole command.label) request).encode with
      | .error f => .error (.client .serialization (some (.unwritable f)))
      | .ok frame => command.reply.shape.reading (reply (.whole frame))

/-- An operation after which the client is usable ends as the peer's answer to its frame decides. -/
theorem Operation.Turn.result {peer : Peer channel} {frames : List Text} {op : Operation}
    {ws : List Answer} {r : Except Fault Reply} (h : op.Turn peer frames ws r) (hr : Usable r)
    {reply : Text → Message} (hreply : ∀ frames frame, peer.answer (frames ++ [frame]) = reply frame) :
    r = op.resultOn reply := by
  cases h with
  | unwritten he =>
    rw [resultOn, he]
    rfl
  | unsent _ hg => exact absurd hr (not_usable hg)
  | unanswered _ _ hg => exact absurd hr (not_usable hg)
  | answered he hm =>
    rw [hm, hreply, resultOn, he]
  | closed => rfl
  | unclosed hf => exact absurd hr (not_usable hf)

/-! ## Sequences -/

/-- An operation that was served: what its calls came to, how it ended, and where. -/
structure Served (κ : Type) where
  operation : Operation
  answers : List Answer
  result : Except Fault Reply
  position : Position κ

namespace Served

/-- The frames that were accepted during the operation. -/
def frames (t : Served κ) : List Text := t.answers.filterMap Answer.frame?

/-- The messages that were received during the operation. -/
def messages (t : Served κ) : List Message := t.answers.filterMap Answer.message?

end Served

/-- Everything that was accepted has been answered, and the answers received. -/
structure Position.InStep (peer : Peer channel) (p : Position κ) : Prop where
  allowed : peer.Allows p
  received : p.received = p.frames.length

namespace Served

variable {peer : Peer channel} {p : Position κ} {t : Served κ}

/-- The operation was served from the position on. -/
def From (peer : Peer channel) (p : Position κ) (t : Served κ) : Prop :=
  (t.operation.act false).Plays peer p t.answers t.result t.position

namespace From

theorem turn (hpeer : peer.RaisesNoMinorFault) (hp : p.InStep peer) (h : t.From peer p) :
    t.operation.Turn peer p.frames t.answers t.result :=
  Operation.turn_of_plays hpeer hp.allowed hp.received h

/-- An operation after which the client is usable keeps it in step. -/
theorem inStep (hpeer : peer.RaisesNoMinorFault) (hp : p.InStep peer) (h : t.From peer p)
    (ht : Usable t.result) : t.position.InStep peer ∧ t.position.frames = p.frames ++ t.frames ∧
      answersTo peer.answer (p.frames ++ t.frames) =
        answersTo peer.answer p.frames ++ t.messages := by
  have hframes : t.position.frames = p.frames ++ t.frames := h.frames_eq
  have hcount : t.position.received = p.received + t.messages.length := h.received_eq
  have hanswers : t.messages.length = t.frames.length ∧
      answersTo peer.answer (p.frames ++ t.frames) =
        answersTo peer.answer p.frames ++ t.messages := by
    unfold frames messages
    rcases (h.turn hpeer hp).of_usable ht with ⟨hf, hm⟩ | ⟨frame, hf, hm⟩
    · simp [hf, hm]
    · simp [hf, hm, answersTo_concat]
  refine ⟨⟨h.allowed hp.allowed, ?_⟩, hframes, hanswers.2⟩
  rw [hcount, hframes, List.length_append, hp.received, hanswers.1]

end From

end Served

/-- Operations are served one after another. -/
inductive Serves (peer : Peer channel) : Position κ → List (Served κ) → Prop
  | nil (p : Position κ) : Serves peer p []
  | cons {p : Position κ} {t : Served κ} {rest : List (Served κ)} (h : t.From peer p)
      (hrest : Serves peer t.position rest) : Serves peer p (t :: rest)

namespace Serves

variable {peer : Peer channel} {p : Position κ}

/-- As long as the client is usable it stays in step. -/
theorem in_step (hpeer : peer.RaisesNoMinorFault) (hp : p.InStep peer)
    {before rest : List (Served κ)} (h : Serves peer p (before ++ rest))
    (husable : ∀ t ∈ before, Usable t.result) :
    ∃ q, q.InStep peer ∧ q.frames = p.frames ++ before.flatMap Served.frames ∧
      answersTo peer.answer q.frames =
        answersTo peer.answer p.frames ++ before.flatMap Served.messages ∧
      Serves peer q rest := by
  induction before generalizing p with
  | nil => exact ⟨p, hp, by simp, by simp, h⟩
  | cons t before ih =>
    obtain ⟨ht, hbefore⟩ := List.forall_mem_cons.mp husable
    cases h with
    | cons hfirst hrest =>
      obtain ⟨hposition, hframes, hanswers⟩ := hfirst.inStep hpeer hp ht
      obtain ⟨q, hq, hqframes, hqanswers, hserves⟩ := ih hposition hrest hbefore
      refine ⟨q, hq, ?_, ?_, hserves⟩
      · rw [hqframes, hframes, List.flatMap_cons, List.append_assoc]
      · rw [hqanswers, hframes, hanswers, List.flatMap_cons, List.append_assoc]

/-- Operations are served in step, from a fresh connection on, up to the first that leaves the client
unusable. What such an operation receives is the answer to the one frame of its own. After it, unless it is
the one that leaves the client unusable, every frame has been answered and every answer received. If then
the answer to a frame depends on the frame alone, the operation ends as it would alone on a fresh
connection. -/
theorem operation_in_step (hpeer : peer.RaisesNoMinorFault) {s₀ : κ} (hs : peer.At s₀ [] 0)
    {before after : List (Served κ)} {t : Served κ}
    (h : Serves peer (.start s₀) (before ++ t :: after)) (husable : ∀ u ∈ before, Usable u.result) :
    (∀ m ∈ t.messages, ∃ frame, t.frames = [frame] ∧ t.messages = [m] ∧
      m = peer.answer (before.flatMap Served.frames ++ [frame])) ∧
    (Usable t.result →
      (before ++ [t]).flatMap Served.messages =
        answersTo peer.answer ((before ++ [t]).flatMap Served.frames) ∧
      peer.At t.position.state ((before ++ [t]).flatMap Served.frames)
        ((before ++ [t]).flatMap Served.frames).length ∧
      ∀ reply : Text → Message, (∀ frames frame, peer.answer (frames ++ [frame]) = reply frame) →
        t.result = t.operation.resultOn reply ∧
        ∀ s₁ ws r q, peer.At s₁ [] 0 →
          (t.operation.act false).Plays peer (.start s₁) ws r q → Usable r → t.result = r) := by
  have hstart : ∀ {s}, peer.At s [] 0 → (Position.start s).InStep peer := fun hs => ⟨hs, rfl⟩
  obtain ⟨p, hp, hframes, hanswers, hserves⟩ := in_step hpeer (hstart hs) h husable
  change p.frames = before.flatMap Served.frames at hframes
  change answersTo peer.answer p.frames = before.flatMap Served.messages at hanswers
  cases hserves with
  | cons hthis =>
    have hturn := hthis.turn hpeer hp
    refine ⟨fun m hm => ?_, fun ht => ?_⟩
    · rw [← hframes]
      exact hturn.of_message hm
    · obtain ⟨hposition, htframes, htanswers⟩ := hthis.inStep hpeer hp ht
      have hall : (before ++ [t]).flatMap Served.frames = t.position.frames := by
        rw [htframes, hframes, List.flatMap_append, List.flatMap_singleton]
      rw [hall]
      refine ⟨?_, ?_, ?_⟩
      · rw [htframes, htanswers, hanswers, List.flatMap_append, List.flatMap_singleton]
      · rw [← hposition.received]
        exact hposition.allowed
      · intro reply hreply
        have hresult := hturn.result ht hreply
        refine ⟨hresult, ?_⟩
        intro s₁ ws r q hs₁ halone hr
        have hown := Operation.turn_of_plays hpeer (hstart hs₁).allowed (hstart hs₁).received halone
        rw [hresult, hown.result hr hreply]

end Serves

end

/-- Bytes in answer to any frame but the one that asks for the address. -/
def bytesOrNoAddress (frame : Text) : Message :=
  if frame = .whole "\x7b\"command\":\"address\",\"request\":\"Get\"\x7d" then .ofText (.whole "null")
  else .ofBytes []

/-- A request that has no written form, one that is answered by bytes, and one after both that is answered
as it would be alone. -/
theorem Serves.operation_in_step_mixed :
    ∃ unwritten unread asked : Served Mock,
      Serves (.ordinaryMock fun frames => bytesOrNoAddress (frames.getLastD (.whole "")))
        (.start (Mock.fresh none)) [unwritten, unread, asked] ∧
      unwritten.result = .error (.client .serialization (some (.unwritable .unknownType))) ∧
      unread.result = .error (.client .invalidMessageFormat none) ∧
      asked.result = .ok (.value .address none) ∧
      asked.result = asked.operation.resultOn bytesOrNoAddress ∧
      (∃ ws r q, (asked.operation.act false).Plays
        (.ordinaryMock fun frames => bytesOrNoAddress (frames.getLastD (.whole "")))
        (.start (Mock.fresh none)) ws r q ∧ asked.result = r) ∧
      [unwritten, unread, asked].flatMap Served.messages = [.ofBytes [], .ofText (.whole "null")] := by
  let answer : List Text → Message := fun frames => bytesOrNoAddress (frames.getLastD (.whole ""))
  have hwaiting := Peer.ordinaryMock_waiting answer
  have hserves : Serves (.ordinaryMock answer) (.start (Mock.fresh none))
      [⟨.call .identity .unknown, _, _, _⟩, ⟨.call .identity .null, _, _, _⟩,
        ⟨.call .address (.text (.whole getRequest)), _, _, _⟩] :=
    .cons (.done _ _) <|
    .cons (.answer rfl <| .log <| .arrive (hwaiting [] _) <| .answer rfl <| .log <| .done _ _) <|
    .cons (.answer rfl <| .log <| .arrive (hwaiting [_] _) <| .answer rfl <| .log <| .done _ _) <|
    .nil _
  obtain ⟨-, hafter⟩ := operation_in_step (Peer.ordinaryMock_raisesNoMinorFault answer)
    (Peer.ordinaryMock_fresh answer) (show Serves _ _ ([_, _] ++ _ :: []) from hserves)
    (List.forall_mem_cons.mpr ⟨usable_error rfl, List.forall_mem_singleton.mpr (usable_error rfl)⟩)
  obtain ⟨hmessages, -, hresult⟩ := hafter (usable_ok _)
  have hlast : ∀ frames frame, answer (frames ++ [frame]) = bytesOrNoAddress frame := by
    intro frames frame
    exact congrArg bytesOrNoAddress List.getLastD_concat
  obtain ⟨hreply, hsame⟩ := hresult _ hlast
  have hplays : ((Operation.call .address (.text (.whole getRequest))).act false).Plays
      (.ordinaryMock answer) (.start (Mock.fresh none)) _ _ _ :=
    .answer rfl <| .log <| .arrive (hwaiting [] _) <| .answer rfl <| .log <| .done _ _
  exact ⟨_, _, _, hserves, rfl, rfl, rfl, hreply,
    ⟨_, _, _, hplays, hsame _ _ _ _ (Peer.ordinaryMock_fresh answer) hplays (usable_ok _)⟩, hmessages⟩

end RemoteSigner
