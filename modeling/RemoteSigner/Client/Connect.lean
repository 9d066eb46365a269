import RemoteSigner.Channel.WebSocket
import RemoteSigner.Settings.Tls

/-!
# Connecting

The settings say what to dial. Faults of dialling that concern the connection or the system become
transport faults; what a secure connection trusts is read before dialling, and a fault there is passed on
as it is.
-/

namespace RemoteSigner

/-- A request to open a connection. -/
structure Dial where
  url : Text
  /-- The limits of the connection, by setting. -/
  limits : List (Setting × Datum)
  tls : Option TlsContext

namespace Settings

/-- The settings that go with every request to open a connection. -/
def limitSettings : List Setting :=
  [.openTimeout, .closeTimeout, .pingInterval, .pingTimeout, .maxSize]

/-- The URL; empty if the setting is no text. -/
def location (settings : Settings) : Text :=
  match settings .url with
  | .text t => t
  | _ => .whole ""

/-- The URL as messages show it. -/
def urlText (settings : Settings) : String := settings.location.shown

/-- The connection that the settings ask for. -/
def dial (settings : Settings) (files : Files) : Except Fault Dial := do
  let tls ← settings.tls files
  return ⟨settings.location, limitSettings.map fun s => (s, settings s), tls⟩

end Settings

/-- How an attempt to connect went: what was dialled, and the connection or a fault. -/
structure Attempt (κ : Type) where
  dialled : List Dial
  result : Except Fault κ
  log : List LogRecord

/-- The fault of dialling `url`, as the client reports it. -/
def connectFault (url : String) (f : Fault) : Fault :=
  if f.isConnection || f.isSystem then WebSocket.because ("Failed to connect to " ++ url) f else f

/-- Connects as the settings say. -/
def connect {κ : Type} (settings : Settings) (files : Files) (dialler : Dial → Except Fault κ) :
    Attempt κ :=
  match settings.dial files with
  | .error f => ⟨[], .error f, []⟩
  | .ok d =>
    match dialler d with
    | .error f => ⟨[d], .error (connectFault d.url.shown f), []⟩
    | .ok k => ⟨[d], .ok k, [WebSocket.logged "WebSocket connected" (some d.url.shown)]⟩

end RemoteSigner
