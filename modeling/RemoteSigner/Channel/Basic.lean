import RemoteSigner.Channel.Log
import RemoteSigner.Channel.Message
import RemoteSigner.Fault.Basic

/-!
# Channels

A channel carries text to the signer and messages back. Its state is a value, and each operation gives the
state afterwards. A receiver for whom nothing has arrived has to wait; the channel says so, and whoever
runs the receiver decides when it tries again.
-/

namespace RemoteSigner

/-- What an operation on a channel gives. -/
structure Effect (κ α : Type) where
  result : α
  state : κ
  log : List LogRecord

/-- What a receiver gets: a message, the end of the stream, or a fault. -/
abbrev Reception := Except Fault (Option Message)

/-- The operations of a channel with states of type `κ`. -/
structure Channel (κ : Type) where
  send : Text → κ → Effect κ (Except Fault Unit)
  /-- No result if nothing has arrived. A receiver that has waited before is told so. -/
  receive : (waited : Bool) → κ → Effect κ (Option Reception)
  close : κ → Effect κ (Except Fault Unit)
  /-- How many items have arrived that nobody has received. -/
  backlog : κ → Nat

end RemoteSigner
