import Mathlib
import RemoteSigner.Proofs.Channel.Peer
import RemoteSigner.Proofs.Client.Requests
import RemoteSigner.Proofs.Json.Loosely

/-!
# What a mock channel makes of a typed frame

A mock channel reads every frame that it is sent. From the frame of a typed request it reads the command and
the request (`Command.readLoose_frameText`), so it looks up the reply to that command
(`Mock.answer_frameText`) and nothing goes wrong on the way.
-/

namespace RemoteSigner

/-- A command and its request, as a mock channel records them. -/
def Command.recorded (c : Command) (request : Json) : List (Text × Datum) :=
  [(.whole "command", .text (.whole c.label)), (.whole "request", .ofJson request)]

section

variable [Readers] {c : Command} {p : c.Request} (hshort : c.requestShape.IsShort p) {j : Json}
  (hj : c.requestShape.dump p = .ok j)

include hshort hj

theorem Command.readLoose_frameText :
    Json.readLoose (.whole (c.frameText (j.compact .byName))) = .ok (.map (c.recorded j)) := by
  have hexact : (Envelope.object c.label j).Everywhere Json.IsExact :=
    Envelope.everywhere_object (c.requestShape.everywhere_dump c.wellFormed_requestShape hshort hj)
  have hdepth : j.depth ≤ Envelope.maxPayloadDepth :=
    (c.requestShape.depth_dump hj).trans c.depth_requestShape
  have hroom : Envelope.maxPayloadDepth + 1 ≤ Readers.looseDepth :=
    le_trans (by decide) Readers.roomy
  rw [← compact_object]
  refine Json.readLoose_compact .byName hexact ?_
  rw [Envelope.depth_object]
  exact (Nat.succ_le_succ hdepth).trans hroom

theorem Mock.answer_frameText (m : Mock) :
    m.answer (.whole (c.frameText (j.compact .byName))) =
      match m.replyTo (.text (.whole c.label)) (.ofJson j) with
      | .error f => (.error f, m)
      | .ok none => (.ok (), m)
      | .ok (some reply) => m.inject reply := by
  rw [answer, Command.readLoose_frameText hshort hj]
  rfl

end

namespace Mock

variable {m : Mock} {c : Command} {p : c.Request}

/-- A channel that takes what is sent. -/
structure Takes (m : Mock) : Prop where
  isOpen : m.closed = false
  sendFault : m.sendFault = none

variable [Readers]

theorem Takes.send (h : m.Takes) (frame : Text) :
    m.send frame = { m with frames := m.frames ++ [frame] }.answer frame := by
  rw [Mock.send, h.isOpen, h.sendFault]
  rfl

/-- A typed frame is recorded, and if there is no reply to it then nothing else happens. -/
theorem Takes.send_of_silent (h : m.Takes) (hresponder : m.responder = none) (hreplies : m.replies = [])
    (hshort : c.requestShape.IsShort p) {j : Json} (hj : c.requestShape.dump p = .ok j) :
    m.send (.whole (c.frameText (j.compact .byName))) =
      (.ok (), { m with frames := m.frames ++ [.whole (c.frameText (j.compact .byName))] }) := by
  have hreply := replyTo_of_silent
    (m := { m with frames := m.frames ++ [.whole (c.frameText (j.compact .byName))] })
    hresponder hreplies
  rw [h.send, answer_frameText hshort hj]
  simp only [hreply]

/-- A typed frame is recorded, and the canned reply to its command is queued. -/
theorem Takes.send_of_canned (h : m.Takes) {reply : Datum} {w : Message}
    (hreply : Entries.get? (.whole c.label) m.replies = some reply) (hw : toMessage reply = .ok w)
    (hshort : c.requestShape.IsShort p) {j : Json} (hj : c.requestShape.dump p = .ok j) :
    m.send (.whole (c.frameText (j.compact .byName))) =
      (.ok (), { m with
        frames := m.frames ++ [.whole (c.frameText (j.compact .byName))]
        inbox := m.inbox ++ [.message w] }) := by
  rw [h.send, answer_frameText hshort hj, replyTo, cannedReply?, hreply]
  simp only [inject, hw]
  rfl

end Mock

end RemoteSigner
