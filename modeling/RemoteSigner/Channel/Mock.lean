import RemoteSigner.Channel.Basic
import RemoteSigner.Json.Loose
import RemoteSigner.Json.Printer

/-!
# The mock channel

A channel in memory. It records each frame that is sent, and answers a frame by the canned reply for its
command, or else through its responder. What waits to be received is a queue, first in first out.
-/

namespace RemoteSigner

/-- What is queued for a receiver. -/
inductive InboxItem where
  | message (m : Message)
  | endOfStream
  | failure (f : Fault)

/-- What a receiver gets for a queued item. -/
def InboxItem.reception : InboxItem → Reception
  | .message m => .ok (some m)
  | .endOfStream => .ok none
  | .failure f => .error f

/-- Answers a command and a request; no reply is an answer too. -/
abbrev Responder := Datum → Datum → Except Fault (Option Datum)

/-- The state of a mock channel. -/
structure Mock where
  responder : Option Responder
  /-- The canned replies by command. -/
  replies : List (Text × Datum)
  /-- Every frame sent, in order. -/
  frames : List Text
  inbox : List InboxItem
  /-- What every send fails with, if anything. -/
  sendFault : Option Fault
  closed : Bool

namespace Mock

/-- A channel on which nothing has happened. -/
def fresh (responder : Option Responder) : Mock := ⟨responder, [], [], [], none, false⟩

/-! ## Replies -/

/-- A reply as a message: a prepared message as it is, bytes and text verbatim, anything else as JSON. -/
def toMessage : Datum → Except Fault Message
  | .message m => .ok m
  | .bytes b => .ok (.ofBytes b)
  | .text t => .ok (.ofText t)
  | d =>
    match d.toJson with
    | .ok j => .ok (.ofText (.whole (j.compact .byName)))
    | .error f => .error (.unwritable f)

/-- The channel with one more item queued. -/
def put (m : Mock) (item : InboxItem) : Mock := { m with inbox := m.inbox ++ [item] }

/-- The channel with a reply queued, unless the reply has no written form. -/
def inject (m : Mock) (reply : Datum) : Except Fault Unit × Mock :=
  match toMessage reply with
  | .ok message => (.ok (), m.put (.message message))
  | .error f => (.error f, m)

/-- The next receiver finds the end of the stream. -/
def endStream (m : Mock) : Mock := m.put .endOfStream

/-- The next receiver fails with the fault. -/
def failReceiveWith (m : Mock) (f : Fault) : Mock := m.put (.failure f)

/-- The next receiver fails with a transport fault. -/
def failReceive (m : Mock) (message : String) : Mock :=
  m.failReceiveWith (.transport (some message) none)

/-- Every send from now on fails with the fault, or none does. -/
def failSendWith (m : Mock) (f : Option Fault) : Mock := { m with sendFault := f }

/-- Every send from now on fails with a transport fault, or none does. -/
def failSend (m : Mock) (message : Option String) : Mock :=
  m.failSendWith (message.map fun s => .transport (some s) none)

/-- The canned reply for a command. -/
def setReply (m : Mock) (command : Text) (reply : Datum) : Mock :=
  { m with replies := Entries.put command reply m.replies }

/-- The channel without frames, canned replies and queued items. -/
def clear (m : Mock) : Mock := { m with frames := [], replies := [], inbox := [] }

/-! ## Receiving and closing -/

/-- The channel after a receive. Once it is closed and empty the stream has ended; a receiver that has
waited was promised an item and goes on waiting for one. -/
def receive (waited : Bool) (m : Mock) : Option Reception × Mock :=
  match m.inbox with
  | item :: rest => (some item.reception, { m with inbox := rest })
  | [] => if m.closed && !waited then (some (.ok none), m) else (none, m)

/-- The channel after closing. A receiver that waits finds the end of the stream. -/
def close (m : Mock) : Mock :=
  if m.closed then m else { m with closed := true }.put .endOfStream

section

variable {m : Mock}

theorem receive_cons {item : InboxItem} {rest : List InboxItem} (h : m.inbox = item :: rest)
    (waited : Bool) : m.receive waited = (some item.reception, { m with inbox := rest }) := by
  rw [receive, h]

theorem receive_nil (h : m.inbox = []) (waited : Bool) :
    m.receive waited = (if m.closed && !waited then some (.ok none) else none, m) := by
  rw [receive, h]
  simp only
  split <;> rfl

theorem close_of_closed (h : m.closed = true) : m.close = m := if_pos h

theorem close_of_open (h : m.closed = false) :
    m.close = { m with closed := true, inbox := m.inbox ++ [.endOfStream] } := by
  rw [close, h]
  rfl

end

/-! ## The answer to a frame -/

/-- The value of an entry, null if there is none. -/
def entry (name : String) (entries : List (Text × Datum)) : Datum :=
  (Entries.get? (.whole name) entries).getD .null

/-- A value by which replies can be looked up: anything but a list or an object. -/
def checkCommand : Datum → Except Fault Unit
  | .list _ => .error (.plain .type (some "unhashable type: 'list'") none)
  | .map _ => .error (.plain .type (some "unhashable type: 'dict'") none)
  | _ => .ok ()

/-- The canned reply for a command that is text. -/
def cannedReply? (m : Mock) : Datum → Option Datum
  | .text t => Entries.get? t m.replies
  | _ => none

/-- The reply to a command, canned or from the responder. -/
def replyTo (m : Mock) (command request : Datum) : Except Fault (Option Datum) :=
  match m.cannedReply? command with
  | some reply => .ok (some reply)
  | none =>
    match m.responder with
    | some respond => respond command request
    | none => .ok none

variable [Readers]

/-- The channel after answering a frame. A frame that is no JSON object has no answer. -/
def answer (m : Mock) (frame : Text) : Except Fault Unit × Mock :=
  match Json.readLoose frame with
  | .error (.malformed ..) => (.ok (), m)
  | .error f => (.error (.unreadable f), m)
  | .ok (.map entries) =>
    match checkCommand (entry "command" entries) with
    | .error f => (.error f, m)
    | .ok () =>
      match m.replyTo (entry "command" entries) (entry "request" entries) with
      | .error f => (.error f, m)
      | .ok none => (.ok (), m)
      | .ok (some reply) => m.inject reply
  | .ok _ => (.ok (), m)

/-! ## Sending -/

/-- The channel after a send. One that is closed or told to fail does not even record the frame. -/
def send (frame : Text) (m : Mock) : Except Fault Unit × Mock :=
  if m.closed then (.error (.transport (some "Channel is closed") none), m)
  else
    match m.sendFault with
    | some f => (.error f, m)
    | none => { m with frames := m.frames ++ [frame] }.answer frame

section

variable {m : Mock}

/-- A closed channel takes no frame. -/
theorem send_of_closed (h : m.closed = true) (frame : Text) :
    m.send frame = (.error (.transport (some "Channel is closed") none), m) := by
  rw [send, if_pos h]

/-- Neither does one that is told to fail. -/
theorem send_of_fault (h : m.closed = false) {f : Fault} (hf : m.sendFault = some f) (frame : Text) :
    m.send frame = (.error f, m) := by
  rw [send, h, hf]
  rfl

end

/-- The value of every frame sent. -/
def commands (m : Mock) : Except Fault (List Datum) :=
  m.frames.mapM fun frame => (Json.readLoose frame).mapError .unreadable

end Mock

/-- The mock as a channel. -/
def Channel.mock [Readers] : Channel Mock where
  send frame m := let (r, m) := m.send frame; ⟨r, m, []⟩
  receive waited m := let (r, m) := m.receive waited; ⟨r, m, []⟩
  close m := ⟨.ok (), m.close, []⟩
  backlog m := m.inbox.length

end RemoteSigner
