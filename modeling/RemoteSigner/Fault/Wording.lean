import RemoteSigner.Fault.Basic
import RemoteSigner.Text.Quoted

/-!
# How faults are worded

`Fault.describe` is the message of a fault, `Fault.name` its kind by name, and `Fault.debug` shows it with
its parts.
-/

namespace RemoteSigner

/-! ## Closed connections -/

/-- What a closing code means. -/
def CloseFrame.meaning (code : Nat) : String :=
  match code with
  | 1000 => "OK"
  | 1001 => "going away"
  | 1002 => "protocol error"
  | 1003 => "unsupported data"
  | 1005 => "no status received [internal]"
  | 1006 => "abnormal closure [internal]"
  | 1007 => "invalid frame payload data"
  | 1008 => "policy violation"
  | 1009 => "message too big"
  | 1010 => "mandatory extension"
  | 1011 => "internal error"
  | 1012 => "service restart"
  | 1013 => "try again later"
  | 1014 => "bad gateway"
  | 1015 => "TLS handshake failure [internal]"
  | _ =>
    if 3000 ≤ code ∧ code ≤ 3999 then "registered"
    else if 4000 ≤ code ∧ code ≤ 4999 then "private use"
    else "unknown"

def CloseFrame.describe (f : CloseFrame) : String :=
  toString f.code ++ " (" ++ meaning f.code ++ ")" ++
    (if f.reason = "" then "" else " " ++ f.reason)

def CloseFrame.debug (f : CloseFrame) : String :=
  "Close(code=" ++ toString f.code ++ ", reason=" ++ quoted f.reason ++ ")"

def Closure.describe (c : Closure) : String :=
  match c.received, c.sent with
  | none, none => "no close frame received or sent"
  | some r, none => "received " ++ r.describe ++ "; no close frame sent"
  | none, some s => "sent " ++ s.describe ++ "; no close frame received"
  | some r, some s =>
    if c.receivedFirst then "received " ++ r.describe ++ "; then sent " ++ s.describe
    else "sent " ++ s.describe ++ "; then received " ++ r.describe

/-! ## System errors -/

/-- The name of the kind of a numbered system error. -/
def SystemFault.numberedName (number : Int) : String :=
  match number with
  | 1 | 13 => "PermissionError"
  | 2 => "FileNotFoundError"
  | 3 => "ProcessLookupError"
  | 4 => "InterruptedError"
  | 10 => "ChildProcessError"
  | 11 | 114 | 115 => "BlockingIOError"
  | 17 => "FileExistsError"
  | 20 => "NotADirectoryError"
  | 21 => "IsADirectoryError"
  | 32 | 108 => "BrokenPipeError"
  | 103 => "ConnectionAbortedError"
  | 104 => "ConnectionResetError"
  | 110 => "TimeoutError"
  | 111 => "ConnectionRefusedError"
  | _ => "OSError"

def SystemFault.name (f : SystemFault) : String :=
  if f.timeout then "TimeoutError" else (f.number.map numberedName).getD "OSError"

def SystemFault.describe (f : SystemFault) : String :=
  match f.number, f.message with
  | some n, some m => "[Errno " ++ toString n ++ "] " ++ m
  | some n, none => toString n
  | none, some m => m
  | none, none => ""

namespace PlainKind

def name : PlainKind → String
  | runtime => "RuntimeError"
  | value => "ValueError"
  | key => "KeyError"
  | type => "TypeError"
  | missingAttribute => "AttributeError"

/-- The message of a fault of this kind; a missing key is quoted. -/
def describe (kind : PlainKind) (message : Option String) : String :=
  match kind, message with
  | key, some m => quoted m
  | _, some m => m
  | _, none => ""

end PlainKind

namespace Fault

/-- The name of the kind of fault. -/
def name : Fault → String
  | closed c => if c.clean then "ConnectionClosedOK" else "ConnectionClosedError"
  | badUri _ _ => "InvalidURI"
  | badHandshake _ => "InvalidHandshake"
  | system f => f.name
  | tls _ => "SSLError"
  | plain kind _ _ => kind.name
  | transport _ _ => "TransportError"
  | client _ _ => "ClientError"
  | rejected _ => "ValidationError"
  | unwritable _ => "PydanticSerializationError"
  | unreadable (.malformed ..) => "JSONDecodeError"
  | unreadable (.oversized _) => "ValueError"
  | unreadable (.tooDeep _) => "RecursionError"
  | ragged _ => "UnicodeEncodeError"
  | malformed _ => "UnicodeDecodeError"
  | cancelled => "CancelledError"

/-- The message of the fault. -/
def describe : Fault → String
  | closed c => c.describe
  | badUri uri reason => uri ++ " isn't a valid URI: " ++ reason
  | badHandshake m => m.getD ""
  | system f => f.describe
  | tls reason => reason
  | plain kind m _ => kind.describe m
  | transport m _ => m.getD ""
  | client origin none => origin.message
  | client origin (some cause) => origin.message ++ ": " ++ cause.describe
  | rejected r => r.headline
  | unwritable f => f.message
  | unreadable f => f.message
  | ragged t => t.unencodable
  | malformed m => m.report
  | cancelled => ""

/-- A name with its arguments. -/
def applied (name : String) (args : List String) : String :=
  name ++ "(" ++ ", ".intercalate args ++ ")"

/-- The fault with its parts. -/
def debug : Fault → String
  | closed c =>
    let frame (f : Option CloseFrame) : String := (f.map CloseFrame.debug).getD "None"
    let order :=
      if c.received.isSome && c.sent.isSome then if c.receivedFirst then "True" else "False"
      else "None"
    applied (closed c).name [frame c.received, frame c.sent, order]
  | badUri uri reason => applied (badUri uri reason).name [quoted uri, quoted reason]
  | badHandshake m => applied (badHandshake m).name (m.map quoted).toList
  | system f => applied f.name ((f.number.map toString).toList ++ (f.message.map quoted).toList)
  | plain kind m _ => applied kind.name (m.map quoted).toList
  | transport m cause => applied (transport m cause).name (m.map quoted).toList
  | client origin none =>
    applied "ClientError" ["kind=" ++ quoted origin.label, "cause=None"]
  | client origin (some cause) =>
    applied "ClientError" ["kind=" ++ quoted origin.label, "cause=" ++ cause.debug]
  | f => applied f.name [quoted f.describe]

end Fault

end RemoteSigner
