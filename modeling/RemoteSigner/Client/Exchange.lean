import RemoteSigner.Client.Act
import RemoteSigner.Signer.Typed
import RemoteSigner.Fault.Wording

/-!
# Exchanges

Every call is one exchange: a request goes out in its envelope and the one message that comes back is its
reply. Four things can go wrong, each with an origin of its own; whatever else goes wrong is passed on as
it is. On a connection that tasks share, each call holds the lock for the whole exchange.
-/

namespace RemoteSigner

namespace Command

/-- The type of the reply to a command. -/
abbrev reply : Command → WireType
  | sync => .syncOutcome
  | sign => .signOutcome
  | address => .addressOrNull
  | transactionData => .transactionDataResponse
  | identity => .identityResponse
  | signWithTransactionData => .signWithTransactionDataOutcome

/-- The type of the request of a command, if it takes one. -/
abbrev requestType? : Command → Option WireType
  | sync => some .syncRequest
  | sign => some .signRequest
  | address => none
  | transactionData => some .transactionDataRequest
  | identity => some .identityRequest
  | signWithTransactionData => some .signRequest

end Command

namespace Client

/-! ## Log records -/

def debugRecord (message : String) : LogRecord := ⟨.debug, .client, message⟩

def warningRecord (message : String) : LogRecord := ⟨.warning, .client, message⟩

def sentRecord (command : Command) (frame : String) : LogRecord :=
  debugRecord ("Sent " ++ command.label ++ " request (" ++ toString frame.length ++ " bytes)")

def receivedRecord (command : Command) : LogRecord :=
  debugRecord ("Received " ++ command.label ++ " reply")

def transportRecord (command : Command) (f : Fault) : LogRecord :=
  warningRecord ("Transport error during " ++ command.label ++ ": " ++ f.describe)

def closedRecord (command : Command) : LogRecord :=
  warningRecord ("Signer closed the connection during " ++ command.label)

def nonTextRecord (command : Command) (kind : MessageKind) : LogRecord :=
  warningRecord ("Non-text reply to " ++ command.label ++ ": " ++ kind.label)

/-! ## One exchange -/

variable [Readers] {α : Type}

/-- The end of an exchange whose channel failed. -/
def failed (command : Command) : Fault → Act α
  | .transport message cause =>
    .log (transportRecord command (.transport message cause)) <|
      .done (.error (.client .transport (some (.transport message cause))))
  | f => .done (.error f)

/-- The end of an exchange that received something. -/
def concluded (command : Command) (shape : Shape α) : Option Message → Act α
  | none => .log (closedRecord command) <| .done (.error (.client .endOfStream none))
  | some m =>
    if m.isText then
      match shape.decode m.content with
      | .ok reply => .log (receivedRecord command) <| .done (.ok reply)
      | .error r => .done (.error (.client .serialization (some (.rejected r))))
    else
      .log (nonTextRecord command m.kind) <|
        .done (.error (.client .invalidMessageFormat none))

/-- The exchange of an encoded request. -/
def exchangeFrame (command : Command) (frame : String) (shape : Shape α) : Act α :=
  .send (.whole frame) fun
    | .error f => failed command f
    | .ok () =>
      .log (sentRecord command frame) <| .receive fun
        | .error f => failed command f
        | .ok m => concluded command shape m

/-- One exchange: the request goes out under the command, and the reply is read as `shape` says. -/
def exchange (command : Command) (request : Datum) (shape : Shape α) : Act α :=
  match (Envelope.mk (.whole command.label) request).encode with
  | .error f => .done (.error (.client .serialization (some (.unwritable f))))
  | .ok frame => exchangeFrame command frame shape

/-! ## Operations of a client -/

/-- A command with its request, and the reply of the command's type. -/
def call (command : Command) (request : Datum) : Act command.reply.Value :=
  exchange command request command.reply.shape

/-- Closes the channel. -/
def close : Act Unit := .close .done

/-- An operation of a client that shares its connection with other tasks, or of one that does not. -/
def sharing (shared : Bool) (a : Act α) : Act α := if shared then a.locked else a

/-- A call after which the client is closed, whatever the outcome of the call. -/
def callWithin (shared : Bool) (command : Command) (request : Datum) : Act command.reply.Value :=
  (sharing shared (call command request)).ensuring (sharing shared close)

end Client

end RemoteSigner
