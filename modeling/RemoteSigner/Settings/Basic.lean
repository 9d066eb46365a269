import RemoteSigner.Datum.Basic
import RemoteSigner.Fault.Basic

/-!
# Settings

How to connect to a signer. A setting holds whatever value it was given; a value of an unfit type shows
only where the setting is used.
-/

namespace RemoteSigner

/-- The settings by name. -/
inductive Setting where
  | url
  | openTimeout
  | closeTimeout
  | pingInterval
  | pingTimeout
  | maxSize
  | verifyTls
  | caFile
  deriving DecidableEq, Repr

namespace Setting

def all : List Setting :=
  [url, openTimeout, closeTimeout, pingInterval, pingTimeout, maxSize, verifyTls, caFile]

def name : Setting → String
  | url => "url"
  | openTimeout => "open_timeout"
  | closeTimeout => "close_timeout"
  | pingInterval => "ping_interval"
  | pingTimeout => "ping_timeout"
  | maxSize => "max_size"
  | verifyTls => "verify_tls"
  | caFile => "ca_file"

def ofName? (s : String) : Option Setting := all.find? (·.name == s)

theorem ofName?_name (s : Setting) : ofName? s.name = some s := by cases s <;> rfl

end Setting

/-- The value of each setting. -/
abbrev Settings := Setting → Datum

namespace Settings

/-- Where a signer on the same machine listens. -/
def defaultUrl : String := "ws://127.0.0.1:29987"

/-- Timeouts and intervals are in seconds, sizes in bytes; null stands for no limit. -/
def default : Settings
  | .url => .text (.whole defaultUrl)
  | .openTimeout | .closeTimeout => .float (Binary64.ofDecimal false 10 0)
  | .pingInterval | .pingTimeout => .float (Binary64.ofDecimal false 20 0)
  | .maxSize => .int (16 * 1024 * 1024)
  | .verifyTls => .bool true
  | .caFile => .null

/-- The settings with one of them changed. -/
def set (settings : Settings) (s : Setting) (v : Datum) : Settings :=
  fun t => if t = s then v else settings t

@[simp] theorem set_self (settings : Settings) (s : Setting) (v : Datum) : settings.set s v s = v := by
  simp [set]

theorem set_of_ne (settings : Settings) {s t : Setting} (v : Datum) (h : t ≠ s) :
    settings.set s v t = settings t := by
  simp [set, h]

/-- The fault of a name that stands for something else where settings are made. -/
def nameTaken (maker name : String) : Fault :=
  .plain .type (some ("SignerClientConfig." ++ maker ++ "() got multiple values for argument '" ++
    name ++ "'")) none

/-- The default settings with some of them given by name. -/
def ofFields (fields : List (String × Datum)) : Except Fault Settings :=
  match fields.find? fun f => (Setting.ofName? f.1).isNone with
  | some f =>
    if f.1 = "self" then .error (nameTaken "__init__" f.1)
    else
      .error (.plain .type
        (some ("SignerClientConfig.__init__() got an unexpected keyword argument '" ++ f.1 ++ "'")) none)
  | none =>
    .ok (fields.foldl (fun settings f =>
      match Setting.ofName? f.1 with
      | some s => settings.set s f.2
      | none => settings) default)

end Settings

namespace Datum

/-- The name of the value's type, as error texts have it. -/
def typeName : Datum → String
  | .null => "NoneType"
  | .bool _ => "bool"
  | .int _ => "int"
  | .float _ => "float"
  | .text _ => "str"
  | .bytes _ => "bytes"
  | .list _ => "list"
  | .map _ => "dict"
  | .record title _ => title
  | .message _ => "IncomingMessage"
  | .unknown => "object"

/-- Whether the value counts as set: it is not null, not zero and not empty. -/
def isTruthy : Datum → Bool
  | .null => false
  | .bool b => b
  | .int n => n != 0
  | .float x => !Binary64.isZero x
  | .text t => t.length != 0
  | .bytes b => !b.isEmpty
  | .list items => !items.isEmpty
  | .map entries => !entries.isEmpty
  | _ => true

end Datum

end RemoteSigner
