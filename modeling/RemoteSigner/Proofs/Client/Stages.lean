import Mathlib
import RemoteSigner.Proofs.Client.Programs

/-!
# Stages of an exchange

An exchange sends once and then receives once, or makes no call at all (`Client.speaking_exchange`). So
which calls are made on the channel is decided by how sending ends (`Client.calls_call`).
-/

namespace RemoteSigner

namespace Act

variable {κ α β ρ : Type}

/-- Programs that make no more calls. -/
def Silent : Act ρ → Prop
  | done _ => True
  | release next => next.Silent
  | log _ next => next.Silent
  | _ => False

/-- Programs that receive once. -/
def Listening : Act ρ → Prop
  | receive next => ∀ r, (next r).Silent
  | log _ next => next.Listening
  | _ => False

/-- Programs that send once and then receive once, or close, or make no call. -/
def Speaking : Act ρ → Prop
  | send _ next => (next (.ok ())).Listening ∧ ∀ f, (next (.error f)).Silent
  | close next => ∀ r, (next r).Silent
  | done _ => True
  | release next => next.Silent
  | log _ next => next.Speaking
  | _ => False

theorem Silent.speaking {a : Act ρ} (ha : a.Silent) : a.Speaking := by
  induction a with
  | done => trivial
  | release _ _ => exact ha
  | log _ _ ih => exact ih ha
  | send | receive | close | acquire => exact ha.elim

theorem Silent.andThen {a : Act α} {k : Except Fault α → Act β} (ha : a.Silent)
    (hk : ∀ r, (k r).Silent) : (a.andThen k).Silent := by
  induction a with
  | done r => exact hk r
  | release _ ih => exact ih ha
  | log _ _ ih => exact ih ha
  | send | receive | close | acquire => exact ha.elim

theorem Listening.andThen {a : Act α} {k : Except Fault α → Act β} (ha : a.Listening)
    (hk : ∀ r, (k r).Silent) : (a.andThen k).Listening := by
  induction a with
  | receive next _ => exact fun r => (ha r).andThen hk
  | log _ _ ih => exact ih ha
  | done | send | close | acquire | release => exact ha.elim

theorem Speaking.andThen {a : Act α} {k : Except Fault α → Act β} (ha : a.Speaking)
    (hk : ∀ r, (k r).Silent) : (a.andThen k).Speaking := by
  induction a with
  | done r => exact (hk r).speaking
  | send _ next _ => exact ⟨ha.1.andThen hk, fun f => (ha.2 f).andThen hk⟩
  | close next _ => exact fun r => (ha r).andThen hk
  | release next _ => exact Silent.andThen (a := next) ha hk
  | log _ _ ih => exact ih ha
  | receive | acquire => exact ha.elim

theorem Silent.state_run {a : Act ρ} (ha : a.Silent) (channel : Channel κ) (s : κ) :
    (a.run channel s).state = s := by
  induction a with
  | done => rfl
  | release _ ih => exact ih ha
  | log _ _ ih => exact ih ha
  | send | receive | close | acquire => exact ha.elim

theorem Listening.calls_run {a : Act ρ} (ha : a.Listening) (channel : Channel κ) (s : κ)
    (calls : List Call) : (a.run channel.recording (s, calls)).state.2 = calls ++ [.receive] := by
  induction a with
  | receive next _ =>
    rw [run]
    split
    · exact congrArg Prod.snd ((ha _).state_run _ _)
    · rfl
  | log _ _ ih => exact ih ha
  | done | send | close | acquire | release => exact ha.elim

theorem Speaking.calls_run {frame : Text} {next : Except Fault Unit → Act ρ}
    (ha : (send frame next).Speaking) (channel : Channel κ) (s : κ) :
    ((send frame next).run channel.recording (s, [])).state.2 =
      match (channel.send frame s).result with
      | .error _ => [.send frame]
      | .ok () => [.send frame, .receive] := by
  show ((next (channel.send frame s).result).run channel.recording (_, [.send frame])).state.2 = _
  cases (channel.send frame s).result with
  | error f => exact congrArg Prod.snd ((ha.2 f).state_run _ _)
  | ok => exact ha.1.calls_run _ _ _

end Act

namespace Client

variable {κ α : Type}

theorem silent_failed (command : Command) (f : Fault) : (failed command f : Act α).Silent := by
  cases f <;> trivial

variable [Readers]

theorem silent_concluded (command : Command) (shape : Shape α) (m : Option Message) :
    (concluded command shape m).Silent := by
  unfold concluded
  split
  · trivial
  · split_ifs
    · split <;> trivial
    · trivial

theorem speaking_exchange (command : Command) (request : Datum) (shape : Shape α) :
    (exchange command request shape).Speaking := by
  unfold exchange
  split
  · trivial
  · refine ⟨?_, fun f => silent_failed command f⟩
    intro r
    cases r with
    | error f => exact silent_failed command f
    | ok m => exact silent_concluded command shape m

/-- A request that has no written form makes no call. -/
theorem call_unwritten {command : Command} {request : Datum} {f : DumpFault}
    (he : (Envelope.mk (.whole command.label) request).encode = .error f) :
    call command request = .done (.error (.client .serialization (some (.unwritable f)))) := by
  unfold call exchange
  rw [he]

theorem call_encoded {command : Command} {request : Datum} {frame : String}
    (he : (Envelope.mk (.whole command.label) request).encode = .ok frame) :
    call command request = exchangeFrame command frame command.reply.shape := by
  unfold call exchange
  rw [he]

theorem calls_call {command : Command} {request : Datum} {frame : String}
    (he : (Envelope.mk (.whole command.label) request).encode = .ok frame) (channel : Channel κ)
    (s : κ) : ((call command request).run channel.recording (s, [])).state.2 =
      match (channel.send (.whole frame) s).result with
      | .error _ => [.send (.whole frame)]
      | .ok () => [.send (.whole frame), .receive] := by
  have hspeaking : (call command request).Speaking := speaking_exchange _ _ _
  rw [call_encoded he] at hspeaking ⊢
  exact hspeaking.calls_run channel s

end Client

end RemoteSigner
