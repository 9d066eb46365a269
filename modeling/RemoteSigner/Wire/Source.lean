import RemoteSigner.Wire.Integer
import RemoteSigner.Datum.Basic

/-!
# What a check can ask of a value

The same checks run over values that were read from JSON text and over values in memory. `Source` lists
the questions. In memory a little more is accepted: raw bytes count as the text they spell, text may be
ragged, and a record may stand where a record of its title is wanted.
-/

namespace RemoteSigner

/-- Text as a string, if it is one. -/
def Text.unragged (t : Text) : Except Misfit String :=
  match t.toString? with
  | some s => .ok s
  | none => .error .malformedText

/-- Values that can be checked. -/
class Source (σ : Type) where
  /-- The lenient integer that the value is. -/
  integer : σ → Except Misfit Int
  text : σ → Except Misfit Text
  /-- The text that the value is, exactly. -/
  word? : σ → Option Text
  isNull : σ → Bool
  items : σ → Except Misfit (List σ)
  /-- The entries of an object, where a record titled `title` is wanted. -/
  entries : (title : String) → σ → Except Misfit (List (Text × σ))
  /-- Whether the entries of an object that belong to no field are reported first. -/
  strangersFirst : Bool

variable [Readers]

namespace Json

instance : Source Json where
  integer
    | .bool b => .ok (Lenient.integerOfBool b)
    | .int n => .ok n
    | .float x => Lenient.integerOfFloat x
    | .str s => Lenient.integerOfText s
    | _ => .error .notInteger
  text
    | .str s => .ok (.whole s)
    | _ => .error .notText
  word?
    | .str s => some (.whole s)
    | _ => none
  isNull
    | .null => true
    | _ => false
  items
    | .list items => .ok items
    | _ => .error .notArray
  entries _
    | .object entries => .ok (entries.map fun e => (.whole e.1, e.2))
    | _ => .error .notObject
  strangersFirst := Readers.strangersFirst

end Json

namespace Datum

instance : Source Datum where
  integer
    | .bool b => .ok (Lenient.integerOfBool b)
    | .int n => .ok n
    | .float x => Lenient.integerOfFloat x
    | .text t => t.unragged >>= Lenient.integerOfText
    | .bytes b =>
      match Utf8.decodeText b with
      | .ok s => Lenient.integerOfText s
      | .error _ => .error .unreadableInteger
    | _ => .error .notInteger
  text
    | .text t => .ok t
    | .bytes b =>
      match Utf8.decodeText b with
      | .ok s => .ok (.whole s)
      | .error _ => .error .malformedText
    | _ => .error .notText
  word?
    | .text t => some t
    | _ => none
  isNull
    | .null => true
    | _ => false
  items
    | .list items => .ok items
    | _ => .error .notList
  entries title
    | .map entries => .ok entries
    | .record t entries =>
      if t = title then .ok entries else .error (.notInstance title)
    | _ => .error (.notInstance title)
  strangersFirst := false

end Datum

end RemoteSigner
