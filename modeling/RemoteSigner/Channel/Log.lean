/-!
# Log records

What the library logs: a level, the part of the library that speaks, and a line of text.
-/

namespace RemoteSigner

inductive LogLevel where
  | debug
  | info
  | warning
  | error
  deriving DecidableEq, Repr

namespace LogLevel

def all : List LogLevel := [debug, info, warning, error]

def label : LogLevel → String
  | debug => "DEBUG"
  | info => "INFO"
  | warning => "WARNING"
  | error => "ERROR"

/-- How much the level matters. -/
def rank : LogLevel → Nat
  | debug => 10
  | info => 20
  | warning => 30
  | error => 40

end LogLevel

/-- The parts of the library that log. -/
inductive Logger where
  | client
  | webSocket
  deriving DecidableEq, Repr

def Logger.name : Logger → String
  | .client => "signer_client.client"
  | .webSocket => "signer_client.transport.websocket"

/-- One record. -/
structure LogRecord where
  level : LogLevel
  logger : Logger
  message : String
  deriving DecidableEq, Repr

/-- The record as one line. -/
def LogRecord.line (r : LogRecord) : String :=
  r.level.label ++ " " ++ r.logger.name ++ ": " ++ r.message

end RemoteSigner
