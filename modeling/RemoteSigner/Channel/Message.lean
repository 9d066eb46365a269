import RemoteSigner.Text.Utf8
import RemoteSigner.Text.Basic

/-!
# Inbound messages

What a channel yields: content that is text or raw bytes, under a label that says whether it counts as
text. A channel labels its messages by their content; a prepared message may be labelled otherwise.
-/

namespace RemoteSigner

/-- The label of an inbound message. -/
inductive MessageKind where
  | text
  | other
  deriving DecidableEq, Repr

namespace MessageKind

def all : List MessageKind := [.text, .other]

def label : MessageKind → String
  | .text => "text"
  | .other => "other"

def ofLabel? (s : String) : Option MessageKind := all.find? (·.label == s)

end MessageKind

/-- Text or raw bytes, as they cross the wire. -/
inductive Content where
  | text (t : Text)
  | binary (b : Bytes)
  deriving DecidableEq, Repr

/-- One inbound message. -/
structure Message where
  kind : MessageKind
  content : Content
  deriving DecidableEq, Repr

namespace Message

/-- A text message. -/
def ofText (t : Text) : Message := ⟨.text, .text t⟩

/-- A message of raw bytes. -/
def ofBytes (b : Bytes) : Message := ⟨.other, .binary b⟩

/-- The message that a frame is, labelled by its content. -/
def ofFrame : Content → Message
  | .text t => ofText t
  | .binary b => ofBytes b

def isText (m : Message) : Bool := m.kind == .text

end Message

end RemoteSigner
