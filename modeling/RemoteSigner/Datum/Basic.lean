import RemoteSigner.Json.Basic
import RemoteSigner.Channel.Message

/-!
# Data in memory

A request or a canned reply is a `Datum` before it is written: JSON-like data in which text may be ragged,
and which may also hold raw bytes, typed records, prepared messages and things that have no written form.
`Datum.toJson` is the written form of a value that is not nested too deep; `Datum.ofRead` is what reading
gives.
-/

namespace RemoteSigner

/-- A value in memory. -/
inductive Datum where
  | null
  | bool (b : Bool)
  | int (n : Int)
  | float (x : Float)
  | text (t : Text)
  | bytes (b : Bytes)
  | list (items : List Datum)
  | map (entries : List (Text × Datum))
  /-- A typed record: the title of its type and its entries. -/
  | record (title : String) (entries : List (Text × Datum))
  | message (m : Message)
  /-- Something that has no written form. -/
  | unknown
  deriving Inhabited

/-- Why a value has no written form. -/
inductive DumpFault where
  | badBytes (m : Utf8.Malformed)
  | raggedText (t : Text)
  | tooDeep
  | unknownType
  deriving DecidableEq, Repr

/-- The text of the fault. That of `tooDeep` differs between releases of the serializer: others speak of a
circular reference. -/
def DumpFault.message : DumpFault → String
  | .badBytes m => "Error serializing to JSON: " ++ m.summary
  | .raggedText t => "Error serializing to JSON: UnicodeEncodeError: " ++ t.unencodable
  | .tooDeep => "Error serializing to JSON: ValueError: Maximum serialization depth exceeded"
  | .unknownType => "Unable to serialize unknown type: <class 'object'>"

/-- The text that raw bytes stand for when written. -/
def Bytes.written (b : Bytes) : Except DumpFault String :=
  match Utf8.decodeText b with
  | .ok s => .ok s
  | .error m => .error (.badBytes m)

/-- The string that text stands for when written. -/
def Text.written (t : Text) : Except DumpFault String :=
  match t.toString? with
  | some s => .ok s
  | none => .error (.raggedText t)

def Content.written : Content → Except DumpFault String
  | .text t => t.written
  | .binary b => b.written

/-- A message is written as its label and its content. -/
def Message.written (m : Message) : Except DumpFault Json := do
  let s ← m.content.written
  return .object [("kind", .str m.kind.label), ("data", .str s)]

namespace Datum

/-- So many values may stand inside one another in what is written. -/
def maxDepth : Nat := 255

mutual

/-- The value that is written for this one, in which at most `room` values stand inside one another. The
first part without a written form is the fault. -/
def toJsonWithin : (room : Nat) → Datum → Except DumpFault Json
  | 0, _ => .error .tooDeep
  | _ + 1, .null => .ok .null
  | _ + 1, .bool b => .ok (.bool b)
  | _ + 1, .int n => .ok (.int n)
  | _ + 1, .float x => .ok (.float x)
  | _ + 1, .text t => .str <$> t.written
  | _ + 1, .bytes b => .str <$> b.written
  | room + 1, .list items => .list <$> itemsToJson room items
  | room + 1, .map entries => .object <$> entriesToJson room entries
  | room + 1, .record _ entries => .object <$> entriesToJson room entries
  | room + 1, .message m => if room = 0 then .error .tooDeep else m.written
  | _ + 1, .unknown => .error .unknownType

/-- The values that are written for the items of a list. -/
def itemsToJson (room : Nat) : List Datum → Except DumpFault (List Json)
  | [] => .ok []
  | x :: rest => do
    let j ← toJsonWithin room x
    let js ← itemsToJson room rest
    return j :: js

/-- The entries that are written for the entries of a map. -/
def entriesToJson (room : Nat) : List (Text × Datum) → Except DumpFault (List (String × Json))
  | [] => .ok []
  | (k, v) :: rest => do
    let s ← k.written
    let j ← toJsonWithin room v
    let js ← entriesToJson room rest
    return (s, j) :: js

end

/-- The value that is written for this one, or the first part without a written form. -/
def toJson (d : Datum) : Except DumpFault Json := d.toJsonWithin maxDepth

mutual

/-- The value as data in memory. -/
def ofJson : Json → Datum
  | .null => .null
  | .bool b => .bool b
  | .int n => .int n
  | .float x => .float x
  | .str s => .text (.whole s)
  | .list items => .list (itemsOfJson items)
  | .object entries => .map (entriesOfJson entries)

def itemsOfJson : List Json → List Datum
  | [] => []
  | x :: rest => ofJson x :: itemsOfJson rest

def entriesOfJson : List (String × Json) → List (Text × Datum)
  | [] => []
  | (k, v) :: rest => (.whole k, ofJson v) :: entriesOfJson rest

end

/-- The data in memory that reading gives. -/
def ofRead (j : Json) : Datum := ofJson j.joined

end Datum

end RemoteSigner
