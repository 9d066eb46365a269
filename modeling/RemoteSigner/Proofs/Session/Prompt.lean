import Mathlib
import RemoteSigner.Proofs.Session.Sequence
import RemoteSigner.Proofs.Session.Serial

/-!
# Operations that need not wait

On a channel that takes the frame of an operation and has something to receive then, the operation sends,
receives and ends as what it received says (`Operation.ended_prompt`). An operation whose request has no
written form does nothing (`Operation.ended_unwritten`).
-/

namespace RemoteSigner

variable {κ α β ρ : Type}

namespace Act

theorem Silent.ended_run {a : Act ρ} (ha : a.Silent) (channel : Channel κ) (s : κ) :
    (a.run channel s).ended = (a.ending, s) := by
  induction a with
  | done => rfl
  | release _ ih => exact ih ha
  | log _ _ ih => exact ih ha
  | send | receive | close | acquire => exact ha.elim

theorem Silent.map {a : Act α} (ha : a.Silent) (f : α → β) : (a.map f).Silent :=
  ha.andThen fun _ => trivial

theorem Silent.ending_map {a : Act α} (ha : a.Silent) (f : α → β) :
    (a.map f).ending = a.ending.map (f <$> ·) := by
  induction a with
  | done => rfl
  | release _ ih => exact ih ha
  | log _ _ ih => exact ih ha
  | send | receive | close | acquire => exact ha.elim

end Act

variable [Readers]

/-- How an operation ends that has received this, or failed to. -/
def Shape.conclusion (shape : Shape α) : Reception → Except Fault α
  | .error (.transport message cause) =>
    .error (.client .transport (some (.transport message cause)))
  | .error f => .error f
  | .ok none => .error (.client .endOfStream none)
  | .ok (some m) => shape.reading m

namespace Client

/-- The end of an exchange that has received this, or failed to. -/
def afterReception (command : Command) (shape : Shape α) : Reception → Act α
  | .error f => failed command f
  | .ok m => concluded command shape m

theorem silent_afterReception (command : Command) (shape : Shape α) :
    ∀ x, (afterReception command shape x).Silent
  | .error f => silent_failed command f
  | .ok m => silent_concluded command shape m

theorem ending_afterReception (command : Command) (shape : Shape α) (x : Reception) :
    (afterReception command shape x).ending = some (shape.conclusion x) := by
  rcases x with f | _ | m
  · cases f <;> rfl
  · rfl
  · exact ending_concluded command shape m

end Client

namespace Operation

variable {channel : Channel κ} {command : Command} {request : Datum} {s s₁ s₂ : κ}

theorem act_call (command : Command) (request : Datum) :
    (call command request).act false = (Client.call command request).map (.value command) := rfl

/-- An operation whose request has no written form makes no call and leaves the channel as it is. -/
theorem ended_unwritten {f : DumpFault}
    (he : (Envelope.mk (.whole command.label) request).encode = .error f) :
    (((call command request).act false).run channel.recording (s, [])).ended =
      (some (.error (.client .serialization (some (.unwritable f)))), (s, [])) := by
  rw [act_call, Client.call_unwritten he]
  rfl

/-- An operation whose frame the channel takes, and which has something to receive then, ends as that
says. -/
theorem ended_prompt {frame : String}
    (he : (Envelope.mk (.whole command.label) request).encode = .ok frame) {log log' : List LogRecord}
    (hsend : channel.send (.whole frame) s = ⟨.ok (), s₁, log⟩) {x : Reception}
    (hreceive : channel.receive false s₁ = ⟨some x, s₂, log'⟩) :
    (((call command request).act false).run channel.recording (s, [])).ended =
      (some (Reply.value command <$> command.reply.shape.conclusion x),
        (s₂, [.send (.whole frame), .receive])) := by
  let last := Client.afterReception command command.reply.shape x
  have hact : (((call command request).act false).run channel.recording (s, [])).ended =
      ((last.map (Reply.value command)).run channel.recording
        (s₂, [.send (.whole frame), .receive])).ended := by
    rw [act_call, Client.call_encoded he, Client.exchangeFrame]
    simp only [Act.map, Act.andThen, Act.run, Channel.recording, hsend, hreceive, Act.ended_after]
    cases x <;> rfl
  have hsilent : last.Silent := Client.silent_afterReception _ _ x
  rw [hact, (hsilent.map _).ended_run, hsilent.ending_map, Client.ending_afterReception]
  rfl

end Operation

end RemoteSigner
