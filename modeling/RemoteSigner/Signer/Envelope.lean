import RemoteSigner.Wire.Decode

/-!
# Commands and envelopes

Every request goes out in an envelope, which names a command and holds its payload. Replies have no
envelope: the command that was sent says how to read them.
-/

namespace RemoteSigner

/-- What a signer can be asked to do. -/
inductive Command where
  | sync
  | sign
  | address
  | transactionData
  | identity
  | signWithTransactionData
  deriving DecidableEq, Repr

namespace Command

def all : List Command :=
  [.sync, .sign, .address, .transactionData, .identity, .signWithTransactionData]

def label : Command → String
  | sync => "sync"
  | sign => "sign"
  | address => "address"
  | transactionData => "transaction_data"
  | identity => "identity"
  | signWithTransactionData => "sign_with_transaction_data"

def ofLabel? (s : String) : Option Command := all.find? (·.label == s)

theorem label_inj {a b : Command} (h : a.label = b.label) : a = b := by
  cases a <;> cases b <;> simp [label] at h ⊢

end Command

/-- The payload of a command that takes no parameters. -/
def getRequest : String := "Get"

/-- A command and its payload. -/
structure Envelope where
  command : Text
  request : Datum

namespace Envelope

def title : String := "Envelope"

/-- The entries of the envelope. -/
def entries (e : Envelope) : List (Text × Datum) :=
  [(.whole "command", .text e.command), (.whole "request", e.request)]

/-- The envelope as data in memory. -/
def toDatum (e : Envelope) : Datum := .record title e.entries

/-- The envelope as one frame of text. What is no number is written as null. -/
def encode (e : Envelope) : Except DumpFault String := do
  let command ← e.command.written
  let request ← e.request.toJson
  return (Json.object [("command", .str command), ("request", request)]).compact .asNull

/-- The envelope that a value stands for, or everything that is wrong with it. The payload may be
anything. -/
def check {σ : Type} [Source σ] (datum : σ → Datum) (v : σ) : Verdict Envelope :=
  match Source.entries title v with
  | .error m => .error [.here m]
  | .ok entries =>
    let command := checkField ⟨"command", none⟩ none (fun v => .ofMisfit (Source.text v)) entries
    let request := checkField ⟨"request", none⟩ none (fun v => .ok (datum v)) entries
    (fun p => ⟨p.1, p.2⟩) <$>
      judgeEntries (Source.strangersFirst σ) (command.both request) [.whole "command", .whole "request"]
        entries

/-- The envelope, or its rejection. -/
def accept {σ : Type} [Source σ] (datum : σ → Datum) (v : σ) : Except Rejection Envelope :=
  (check datum v).mapError (⟨title, ·⟩)

variable [Readers]

/-- The envelope that content spells, or its rejection. -/
def decode (c : Content) : Except Rejection Envelope :=
  match c.readJson with
  | .ok j => accept Datum.ofRead j
  | .error m => .error ⟨title, [.here m]⟩

end Envelope

end RemoteSigner
