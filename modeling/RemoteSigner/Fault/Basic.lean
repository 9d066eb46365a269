import RemoteSigner.Wire.Misfit
import RemoteSigner.Json.Loose

/-!
# Faults

Everything that can end an operation early, from a closed connection to a cancelled task. Faults of the
channel are transport faults and may carry the fault beneath them; a failed exchange is one client fault,
whose origin says which of its four stages failed.
-/

namespace RemoteSigner

/-- A frame that closes a connection. -/
structure CloseFrame where
  code : Nat
  reason : String
  deriving DecidableEq, Repr

/-- How a connection was closed. -/
structure Closure where
  /-- Whether the connection ended in good order. -/
  clean : Bool
  received : Option CloseFrame
  sent : Option CloseFrame
  /-- Which frame came first, where there are both. -/
  receivedFirst : Bool
  deriving DecidableEq, Repr

/-- What the operating system reports: a timeout, or an error that may have a number. -/
structure SystemFault where
  timeout : Bool
  number : Option Int
  message : Option String
  deriving DecidableEq, Repr

/-- Kinds of faults that are told apart by name only. -/
inductive PlainKind where
  | runtime
  | value
  | key
  | type
  | missingAttribute
  deriving DecidableEq, Repr

/-- The stage of an exchange that failed. -/
inductive Origin where
  | invalidMessageFormat
  | endOfStream
  | serialization
  | transport
  deriving DecidableEq, Repr

/-- What ends an operation early. -/
inductive Fault where
  /-- The connection was found closed. -/
  | closed (closure : Closure)
  | badUri (uri reason : String)
  | badHandshake (message : Option String)
  | system (fault : SystemFault)
  /-- No secure connection can be set up, for a reason that has a short name. -/
  | tls (reason : String)
  | plain (kind : PlainKind) (message : Option String) (cause : Option Fault)
  | transport (message : Option String) (cause : Option Fault)
  | client (origin : Origin) (cause : Option Fault)
  /-- A value does not fit its type. -/
  | rejected (rejection : Rejection)
  /-- A value has no written form. -/
  | unwritable (fault : DumpFault)
  /-- A frame has no value. -/
  | unreadable (fault : Json.LooseFault)
  /-- Text has no encoding. -/
  | ragged (text : Text)
  /-- Bytes are not text. -/
  | malformed (fault : Utf8.Malformed)
  | cancelled

namespace Origin

def all : List Origin := [.invalidMessageFormat, .endOfStream, .serialization, .transport]

def label : Origin → String
  | invalidMessageFormat => "invalid_message_format"
  | endOfStream => "end_of_stream"
  | serialization => "serialization"
  | transport => "transport"

def ofLabel? (s : String) : Option Origin := all.find? (·.label == s)

def message : Origin → String
  | invalidMessageFormat => "Received a non-text message from the signer"
  | endOfStream => "Signer connection closed while waiting for a reply"
  | serialization => "Failed to encode or decode signer message"
  | transport => "Signer transport error"

/-- Whether the connection has to be given up. -/
def isTerminal : Origin → Bool
  | endOfStream | transport => true
  | invalidMessageFormat | serialization => false

end Origin

namespace Fault

/-- Whether the fault is reported by the operating system or by setting up a secure connection. -/
def isSystem : Fault → Bool
  | system _ | tls _ => true
  | _ => false

/-- Whether the fault concerns the connection's own protocol. -/
def isConnection : Fault → Bool
  | closed _ | badUri _ _ | badHandshake _ => true
  | _ => false

end Fault

end RemoteSigner
