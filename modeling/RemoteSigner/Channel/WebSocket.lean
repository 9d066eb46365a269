import RemoteSigner.Channel.Basic
import RemoteSigner.Fault.Wording

/-!
# The WebSocket channel

A channel over an open connection. The connection has faults of its own; the channel turns those that
concern the connection or the system into transport faults, takes an orderly close by the peer as the end
of the stream, and passes any other fault on.
-/

namespace RemoteSigner

/-- An open connection with states of type `κ`. Its operations never wait. -/
structure Connection (κ : Type) where
  send : Text → κ → Except Fault Unit × κ
  receive : κ → Except Fault Content × κ
  close : κ → Except Fault Unit × κ

namespace WebSocket

/-- A transport fault that explains another fault. -/
def because (what : String) (f : Fault) : Fault :=
  .transport (some (what ++ ": " ++ f.describe)) (some f)

/-- A fault of sending, as the channel reports it. -/
def sendFault : Fault → Fault
  | .closed c => because "Connection closed while sending" (.closed c)
  | f => if f.isSystem then because "Send failed" f else f

/-- A fault of receiving, as the channel reports it. -/
def receiveFault : Fault → Fault
  | .closed c => because "Connection closed abnormally" (.closed c)
  | f => if f.isSystem then because "Receive failed" f else f

/-- What a receiver gets for what the connection gave. -/
def reception : Except Fault Content → Reception
  | .ok content => .ok (some (.ofFrame content))
  | .error (.closed c) => if c.clean then .ok none else .error (receiveFault (.closed c))
  | .error f => .error (receiveFault f)

/-- A record about the connection to `url`. -/
def logged (what : String) (url : Option String) : LogRecord :=
  ⟨.info, .webSocket, what ++ ": " ++ url.getD "None"⟩

/-- What is logged about a reception. -/
def receptionLog (url : Option String) : Reception → List LogRecord
  | .ok none => [logged "WebSocket closed by peer" url]
  | _ => []

end WebSocket

open WebSocket in
/-- The channel over a connection to `url`. -/
def Channel.webSocket {κ : Type} (connection : Connection κ) (url : Option String) : Channel κ where
  send frame k := let (r, k) := connection.send frame k; ⟨r.mapError sendFault, k, []⟩
  receive _ k :=
    let (r, k) := connection.receive k
    ⟨some (reception r), k, receptionLog url (reception r)⟩
  close k :=
    let (r, k) := connection.close k
    ⟨r, k, match r with | .ok () => [logged "WebSocket disconnected" url] | .error _ => []⟩
  backlog _ := 0

end RemoteSigner
