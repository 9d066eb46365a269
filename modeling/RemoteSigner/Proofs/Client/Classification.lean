import Mathlib
import RemoteSigner.Channel.WebSocket
import RemoteSigner.Proofs.Client.Programs

/-!
# How a call over a WebSocket connection ends

The connection may do anything: `Course` says what a call meets on it. The course decides which calls are
made on the connection and how the call ends (`Client.ended_call`). Nothing else decides it, so each way to
end has its own courses (`Client.call_classified`).
-/

namespace RemoteSigner

variable {κ : Type}

/-! ## Calls made on a connection -/

/-- The connection, with a record of the calls made on it. -/
def Connection.recording (c : Connection κ) : Connection (κ × List Call) where
  send frame s := ((c.send frame s.1).1, (c.send frame s.1).2, s.2 ++ [.send frame])
  receive s := ((c.receive s.1).1, (c.receive s.1).2, s.2 ++ [.receive])
  close s := ((c.close s.1).1, (c.close s.1).2, s.2 ++ [.close])

/-! ## Courses -/

/-- What a call meets on a connection. -/
inductive Course where
  /-- The request has no written form. -/
  | unwritten (f : DumpFault)
  /-- Sending the frame raised a fault. -/
  | unsent (frame : String) (f : Fault)
  /-- The frame was sent, and receiving raised a fault. -/
  | unanswered (frame : String) (f : Fault)
  /-- The frame was sent, and something was received. -/
  | answered (frame : String) (content : Content)

/-- The course of a command and its request on the connection. -/
def Connection.course (c : Connection κ) (command : Command) (request : Datum) (k : κ) : Course :=
  match (Envelope.mk (.whole command.label) request).encode with
  | .error f => .unwritten f
  | .ok frame =>
    match c.send (.whole frame) k with
    | (.error f, _) => .unsent frame f
    | (.ok (), k) =>
      match (c.receive k).1 with
      | .error f => .unanswered frame f
      | .ok content => .answered frame content

namespace Fault

/-- Faults of sending that are transport faults to the client: the connection was found closed, in good
order or not, the system failed, or the fault was one already. -/
def breaksSending : Fault → Bool
  | closed _ | transport _ _ => true
  | f => f.isSystem

/-- Faults of receiving that are transport faults to the client: the same, except for an orderly end. -/
def breaksReceiving : Fault → Bool
  | closed c => !c.clean
  | transport _ _ => true
  | f => f.isSystem

/-- Faults of receiving that are the end of the stream. -/
def endsStream : Fault → Bool
  | closed c => c.clean
  | _ => false

end Fault

section

variable {c : Connection κ} {command : Command} {request : Datum} {k k' : κ}

theorem Connection.course_of_unwritten {f : DumpFault}
    (he : (Envelope.mk (.whole command.label) request).encode = .error f) :
    c.course command request k = .unwritten f := by
  rw [course, he]

variable {frame : String} (he : (Envelope.mk (.whole command.label) request).encode = .ok frame)

include he

theorem Connection.course_of_unsent {f : Fault} (hs : c.send (.whole frame) k = (.error f, k')) :
    c.course command request k = .unsent frame f := by
  rw [course, he]
  simp only [hs]

variable (hs : c.send (.whole frame) k = (.ok (), k'))

include hs

theorem Connection.course_of_unanswered {f : Fault} (hr : (c.receive k').1 = .error f) :
    c.course command request k = .unanswered frame f := by
  rw [course, he]
  simp only [hs, hr]

theorem Connection.course_of_answered {content : Content} (hr : (c.receive k').1 = .ok content) :
    c.course command request k = .answered frame content := by
  rw [course, he]
  simp only [hs, hr]

end

namespace Course

/-- The calls that are made on the connection. -/
def calls : Course → List Call
  | unwritten _ => []
  | unsent frame _ => [.send (.whole frame)]
  | unanswered frame _ | answered frame _ => [.send (.whole frame), .receive]

/-- The connection raised a fault that is nothing to the channel or the client. -/
def PassesOn (course : Course) (f : Fault) : Prop :=
  (∃ frame, course = .unsent frame f ∧ ¬ f.breaksSending) ∨
    ∃ frame, course = .unanswered frame f ∧ ¬ f.breaksReceiving ∧ ¬ f.endsStream

/-- How the call ends. -/
def outcome [Readers] (command : Command) : Course → Except Fault command.reply.Value
  | unwritten f => .error (.client .serialization (some (.unwritable f)))
  | unsent _ f =>
    .error (if f.breaksSending then .client .transport (some (WebSocket.sendFault f)) else f)
  | unanswered _ f =>
    if f.endsStream then .error (.client .endOfStream none)
    else .error (if f.breaksReceiving then .client .transport (some (WebSocket.receiveFault f)) else f)
  | answered _ (.binary _) => .error (.client .invalidMessageFormat none)
  | answered _ (.text t) =>
    (command.reply.shape.decode (.text t)).mapError fun r =>
      .client .serialization (some (.rejected r))

end Course

namespace Client

open WebSocket

variable {α : Type} (c : Connection κ) (url : Option String) (command : Command) (request : Datum)

/-! ## Stages of a call -/

theorem run_failed_send (f : Fault) (channel : Channel κ) (s : κ) :
    ((failed command (sendFault f) : Act α).run channel s).result =
      some (.error (if f.breaksSending then .client .transport (some (sendFault f)) else f)) := by
  cases f <;> rfl

theorem run_failed_receive {f : Fault} (hf : f.endsStream = false) (channel : Channel κ) (s : κ) :
    ((failed command (receiveFault f) : Act α).run channel s).result =
      some (.error (if f.breaksReceiving then .client .transport (some (receiveFault f)) else f)) := by
  cases f with
  | closed closure =>
    have hbreaks : (Fault.closed closure).breaksReceiving = true := by
      simpa [Fault.breaksReceiving, Fault.endsStream] using hf
    rw [hbreaks]
    rfl
  | _ => rfl

theorem reception_error {f : Fault} :
    reception (.error f) = if f.endsStream then .ok none else .error (receiveFault f) := by
  cases f <;> rfl

/-- How a call over the recording connection ends, and the calls that were made by then. -/
def ended {ρ : Type} (r : Act.Ran (κ × List Call) ρ) :
    Option (Except Fault ρ) × List Call :=
  (r.result, r.state.2)

theorem ended_send {ρ : Type} (frame : Text) (next : Except Fault Unit → Act ρ) (k : κ)
    (calls : List Call) :
    ended ((Act.send frame next).run (.webSocket c.recording url) (k, calls)) =
      ended ((next ((c.send frame k).1.mapError sendFault)).run (.webSocket c.recording url)
        ((c.send frame k).2, calls ++ [.send frame])) := rfl

theorem ended_receive {ρ : Type} (next : Reception → Act ρ) (k : κ) (calls : List Call) :
    ended ((Act.receive next).run (.webSocket c.recording url) (k, calls)) =
      ended ((next (reception (c.receive k).1)).run (.webSocket c.recording url)
        ((c.receive k).2, calls ++ [.receive])) := by
  simp only [Act.run]
  rfl

theorem ended_failed (f : Fault) (channel : Channel (κ × List Call))
    (s : κ × List Call) :
    ended ((failed command f : Act α).run channel s) =
      (((failed command f : Act α).run channel s).result, s.2) := by
  cases f <;> rfl

variable [Readers]

theorem run_concluded_text (shape : Shape α) (t : Text) (channel : Channel κ) (s : κ) :
    ((concluded command shape (some (.ofText t))).run channel s).result =
      some ((shape.decode (.text t)).mapError fun r => .client .serialization (some (.rejected r))) := by
  have htext : (Message.ofText t).isText = true := rfl
  have hcontent : (Message.ofText t).content = .text t := rfl
  unfold concluded
  simp only [htext, hcontent, if_true]
  cases shape.decode (.text t) with
  | ok reply => rfl
  | error r => rfl

theorem ended_concluded (shape : Shape α) (m : Option Message)
    (channel : Channel (κ × List Call)) (s : κ × List Call) :
    ended ((concluded command shape m).run channel s) =
      (((concluded command shape m).run channel s).result, s.2) := by
  unfold concluded
  split
  · rfl
  · split_ifs
    · split <;> rfl
    · rfl

/-- The course decides how a call ends and which calls are made. -/
theorem ended_call (k : κ) :
    ended ((call command request).run (.webSocket c.recording url) (k, [])) =
      (some ((c.course command request k).outcome command), (c.course command request k).calls) := by
  unfold call exchange
  cases he : (Envelope.mk (.whole command.label) request).encode with
  | error f =>
    rw [Connection.course_of_unwritten he]
    rfl
  | ok frame =>
    show ended ((exchangeFrame command frame command.reply.shape).run _ _) = _
    rw [exchangeFrame, ended_send]
    obtain ⟨r, k', hs⟩ : ∃ r k', c.send (.whole frame) k = (r, k') := ⟨_, _, rfl⟩
    rw [hs]
    cases r with
    | error f =>
      show ended ((failed command (sendFault f)).run _ (k', _)) = _
      rw [ended_failed, run_failed_send, Connection.course_of_unsent he hs]
      rfl
    | ok =>
      show ended ((Act.receive _).run (.webSocket c.recording url) (k', _)) = _
      rw [ended_receive]
      cases hr : (c.receive k').1 with
      | error f =>
        rw [reception_error, Connection.course_of_unanswered he hs hr]
        cases hf : f.endsStream with
        | true =>
          show ended ((concluded command command.reply.shape none).run _ _) = _
          rw [ended_concluded, Course.outcome, if_pos hf]
          rfl
        | false =>
          show ended ((failed command (receiveFault f)).run _ _) = _
          rw [ended_failed, run_failed_receive command hf, Course.outcome, hf]
          rfl
      | ok content =>
        show ended ((concluded command command.reply.shape (some (.ofFrame content))).run _ _) = _
        rw [ended_concluded, Connection.course_of_answered he hs hr]
        cases content with
        | binary b => rfl
        | text t =>
          show (((concluded _ _ (some (.ofText t))).run _ _).result, _) = _
          rw [run_concluded_text]
          rfl

/-! ## The ways to end -/

/-- A call over the connection, with a record of the calls made on it. -/
def callOver (k : κ) : Act.Ran (κ × List Call) command.reply.Value :=
  (call command request).run (.webSocket c.recording url) (k, [])

theorem result_callOver (k : κ) : (callOver c url command request k).result =
    some ((c.course command request k).outcome command) :=
  congrArg Prod.fst (ended_call c url command request k)

theorem calls_callOver (k : κ) :
    (callOver c url command request k).state.2 = (c.course command request k).calls :=
  congrArg Prod.snd (ended_call c url command request k)

end Client

namespace Course

open WebSocket

theorem endsStream_of_breaksReceiving {f : Fault} (h : f.breaksReceiving = true) :
    f.endsStream = false := by
  cases f <;> simp_all [Fault.breaksReceiving, Fault.endsStream]

variable [Readers] {command : Command} {course : Course}

theorem outcome_eq_error {g : Fault} : course.outcome command = .error g ↔
    (∃ f, course = .unwritten f ∧ .client .serialization (some (.unwritable f)) = g) ∨
    (∃ frame f, course = .unsent frame f ∧ f.breaksSending ∧
      .client .transport (some (sendFault f)) = g) ∨
    (∃ frame f, course = .unanswered frame f ∧ f.breaksReceiving ∧
      .client .transport (some (receiveFault f)) = g) ∨
    (∃ frame f, course = .unanswered frame f ∧ f.endsStream ∧ .client .endOfStream none = g) ∨
    (∃ frame b, course = .answered frame (.binary b) ∧ .client .invalidMessageFormat none = g) ∨
    (∃ frame t r, course = .answered frame (.text t) ∧
      command.reply.shape.decode (.text t) = .error r ∧
      .client .serialization (some (.rejected r)) = g) ∨
    course.PassesOn g := by
  cases course with
  | unwritten f => simp [outcome, PassesOn]
  | unsent frame f =>
    cases hf : f.breaksSending <;>
    · simp [outcome, PassesOn, hf]
      rintro rfl
      simp [hf]
  | unanswered frame f =>
    cases hr : f.breaksReceiving with
    | true =>
      simp [outcome, PassesOn, hr, endsStream_of_breaksReceiving hr]
      rintro rfl
      simp [hr]
    | false =>
      cases he : f.endsStream <;>
      · simp [outcome, PassesOn, hr, he]
        rintro rfl
        simp [hr, he]
  | answered frame content =>
    cases content with
    | binary b => simp [outcome, PassesOn]
    | text t =>
      cases hd : command.reply.shape.decode (.text t) <;>
      simp [outcome, PassesOn, hd, Except.mapError]

theorem outcome_eq_ok {v : command.reply.Value} : course.outcome command = .ok v ↔
    ∃ frame t, course = .answered frame (.text t) ∧
      command.reply.shape.decode (.text t) = .ok v := by
  cases course with
  | unwritten f => simp [outcome]
  | unsent frame f => simp [outcome]
  | unanswered frame f => cases hf : f.endsStream <;> simp [outcome, hf]
  | answered frame content =>
    cases content with
    | binary b => simp [outcome]
    | text t =>
      cases hd : command.reply.shape.decode (.text t) <;> simp [outcome, hd, Except.mapError]

end Course

/-- The run ended with a client fault of this origin. -/
def Act.Ran.Raises {ρ : Type} (r : Act.Ran κ ρ) (origin : Origin) : Prop :=
  ∃ cause, r.result = some (.error (.client origin cause))

namespace Client

variable [Readers] (c : Connection κ) (url : Option String) (command : Command) (request : Datum)

theorem raises_callOver {origin : Origin} (k : κ) :
    (callOver c url command request k).Raises origin ↔
      ∃ cause, (c.course command request k).outcome command = .error (.client origin cause) := by
  unfold Act.Ran.Raises
  rw [result_callOver]
  simp only [Option.some.injEq]

/-- A call always ends, and each way to end has its own courses. Without a written form of the request
nothing is done on the connection; otherwise the frame is sent once, and something is received once if
sending did not fail. A fault that is not about the transport is passed on as it is; so is one of the
client's own, should the connection raise it. -/
theorem call_classified (k : κ) :
    (∀ f, (Envelope.mk (.whole command.label) request).encode = .error f →
      (callOver c url command request k).state = (k, [])) ∧
    (∀ frame, (Envelope.mk (.whole command.label) request).encode = .ok frame →
      (callOver c url command request k).state.2 =
        match (c.send (.whole frame) k).1 with
        | .error _ => [.send (.whole frame)]
        | .ok () => [.send (.whole frame), .receive]) ∧
    (callOver c url command request k).result ≠ none ∧
    ((callOver c url command request k).Raises .transport ↔
      (∃ frame f, c.course command request k = .unsent frame f ∧ f.breaksSending) ∨
      (∃ frame f, c.course command request k = .unanswered frame f ∧ f.breaksReceiving) ∨
      ∃ cause, (c.course command request k).PassesOn (.client .transport cause)) ∧
    ((callOver c url command request k).Raises .endOfStream ↔
      (∃ frame f, c.course command request k = .unanswered frame f ∧ f.endsStream) ∨
      ∃ cause, (c.course command request k).PassesOn (.client .endOfStream cause)) ∧
    ((callOver c url command request k).Raises .invalidMessageFormat ↔
      (∃ frame b, c.course command request k = .answered frame (.binary b)) ∨
      ∃ cause, (c.course command request k).PassesOn (.client .invalidMessageFormat cause)) ∧
    ((callOver c url command request k).Raises .serialization ↔
      (∃ f, c.course command request k = .unwritten f) ∨
      (∃ frame t r, c.course command request k = .answered frame (.text t) ∧
        command.reply.shape.decode (.text t) = .error r) ∨
      ∃ cause, (c.course command request k).PassesOn (.client .serialization cause)) ∧
    (∀ v, (callOver c url command request k).result = some (.ok v) ↔
      ∃ frame t, c.course command request k = .answered frame (.text t) ∧
        command.reply.shape.decode (.text t) = .ok v) ∧
    (∀ f, (∀ origin cause, f ≠ .client origin cause) →
      ((callOver c url command request k).result = some (.error f) ↔
        (c.course command request k).PassesOn f)) := by
  refine ⟨?_, ?_, ?_, ?_, ?_, ?_, ?_, ?_, ?_⟩
  · intro f he
    unfold callOver call exchange
    rw [he]
    rfl
  · intro frame he
    rw [calls_callOver]
    obtain ⟨r, k', hs⟩ : ∃ r k', c.send (.whole frame) k = (r, k') := ⟨_, _, rfl⟩
    cases r with
    | error f => rw [Connection.course_of_unsent he hs, hs]; rfl
    | ok =>
      cases hr : (c.receive k').1 with
      | error f => rw [Connection.course_of_unanswered he hs hr, hs]; rfl
      | ok content => rw [Connection.course_of_answered he hs hr, hs]; rfl
  · rw [result_callOver]
    exact Option.some_ne_none _
  · simp [raises_callOver, Course.outcome_eq_error, exists_or]
  · simp [raises_callOver, Course.outcome_eq_error, exists_or]
  · simp [raises_callOver, Course.outcome_eq_error, exists_or]
  · simp [raises_callOver, Course.outcome_eq_error, exists_or]
  · intro v
    rw [result_callOver, Option.some.injEq, Course.outcome_eq_ok]
  · intro f hf
    rw [result_callOver, Option.some.injEq, Course.outcome_eq_error]
    simp [(hf _ _).symm]

end Client

/-- A connection that takes every frame, and is found closed in good order afterwards. -/
def Connection.closing : Connection Unit where
  send _ k := (.ok (), k)
  receive k := (.error (.closed ⟨true, some ⟨1000, ""⟩, none, true⟩), k)
  close k := (.ok (), k)

/-- The address cannot be fetched over such a connection. -/
theorem Client.call_classified_closing :
    ∃ frame, (Envelope.mk (.whole Command.address.label) (.text (.whole getRequest))).encode =
        .ok frame ∧
      (callOver .closing none .address (.text (.whole getRequest)) ()).state.2 =
        [.send (.whole frame), .receive] ∧
      (callOver .closing none .address (.text (.whole getRequest)) ()).Raises .endOfStream := by
  obtain ⟨frame, he⟩ : ∃ frame, (Envelope.mk (.whole Command.address.label)
    (.text (.whole getRequest))).encode = .ok frame := ⟨_, rfl⟩
  have hcourse : Connection.closing.course .address (.text (.whole getRequest)) () =
      .unanswered frame (.closed ⟨true, some ⟨1000, ""⟩, none, true⟩) :=
    Connection.course_of_unanswered he rfl rfl
  obtain ⟨-, hcalls, -, -, hend, -⟩ :=
    call_classified .closing none .address (.text (.whole getRequest)) ()
  exact ⟨frame, he, hcalls frame he, hend.mpr (.inl ⟨frame, _, hcourse, rfl⟩)⟩

end RemoteSigner
