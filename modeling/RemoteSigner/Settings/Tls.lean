import RemoteSigner.Settings.Basic

/-!
# Secure connections

Whether the settings ask for a secure connection, and what that connection trusts. A file of trusted
certificates is read when the connection is set up, and only for a secure one. What makes the content of
such a file usable is left to the library that secures connections: `Files.certify`.
-/

namespace RemoteSigner

/-- What stands under a file name. -/
inductive FileState where
  | missing
  | directory
  /-- A file that must not be read. -/
  | locked
  | file (content : Bytes)
  deriving DecidableEq, Repr

/-- What there is to read. -/
structure Files where
  /-- What stands under each file name. -/
  state : String → FileState
  /-- The certificates of a file with this content are loaded, or the short name of the reason why they
  cannot be. -/
  certify : Bytes → Except String Unit

/-- What a secure connection trusts. -/
structure TlsContext where
  /-- Whether the certificate and the host name of the peer are verified. -/
  verifies : Bool
  /-- The file that the trusted certificates were read from, if not the ones of the system. -/
  anchors : Option String
  deriving DecidableEq, Repr

/-- The fault of a file that is not there. -/
def Fault.noFile : Fault := .system ⟨false, some 2, some "No such file or directory"⟩

/-- The certificates of a file are usable, or there is a fault. -/
def loadAnchors (files : Files) (name : String) : Except Fault Unit :=
  match files.state name with
  | .missing => .error .noFile
  | .directory => .error (.system ⟨false, some 21, some "Is a directory"⟩)
  | .locked => .error (.system ⟨false, some 13, some "Permission denied"⟩)
  | .file content => (files.certify content).mapError .tls

namespace Settings

/-- Whether a connection to the URL is secure. -/
def isSecure (settings : Settings) : Except Fault Bool :=
  match settings .url with
  | .text t => .ok ((codesOf "wss://").isPrefixOf t.codes)
  | v =>
    .error (.plain .missingAttribute
      (some ("'" ++ v.typeName ++ "' object has no attribute 'startswith'")) none)

/-- What the connection trusts; none if it is not secure. -/
def tls (settings : Settings) (files : Files) : Except Fault (Option TlsContext) := do
  if ← settings.isSecure then
    let file := settings .caFile
    let verifies := (settings .verifyTls).isTruthy
    if file.isTruthy then
      match file with
      | .text (.whole name) =>
        loadAnchors files name
        return some ⟨verifies, some name⟩
      | .text t => throw (.ragged t)
      | _ =>
        throw (.plain .type (some "cafile should be a valid filesystem path") none)
    else return some ⟨verifies, none⟩
  else return none

end Settings

end RemoteSigner
