import RemoteSigner.Wire.Shape
import RemoteSigner.Datum.Basic
import RemoteSigner.Json.Printer
import RemoteSigner.Text.Quoted

/-!
# Writing typed values

`Shape.dump` is the wire form of a typed value: every field, in the order of the fields. A value with ragged
text in it has none. `Shape.describe` is how error texts show a typed value.
-/

namespace RemoteSigner

mutual

/-- The wire form of a value, or the first text in it that has none. -/
def Shape.dump {α : Type} : Shape α → α → Except DumpFault Json
  | .integer, n => .ok (.int n)
  | .count, n => .ok (.int (Int.ofNat n))
  | .text, t => .str <$> t.written
  | .filled, t => .ok (.str t.text)
  | .hex, h => .ok (.str h.text)
  | .choice c, a => .ok (.str (c.label a))
  | .nullable _, none => .ok .null
  | .nullable s, some a => s.dump a
  | .list s, as => .list <$> as.mapM s.dump
  | .record form fields, r => .object <$> fields.dump (form.parts r)

/-- The wire forms of the fields. -/
def Fields.dump {τ : Type} : Fields τ → τ → Except DumpFault (List (String × Json))
  | .nil, _ => .ok []
  | .cons key _ shape rest, (a, t) => do
    let j ← shape.dump a
    let entries ← rest.dump t
    return (key.written, j) :: entries

end

namespace Choices

/-- A choice as error texts show it: by its name within its enumeration, if that has a name. -/
def describe {α : Type} (c : Choices α) (a : α) : String :=
  match c.enumeration with
  | none => quoted (c.label a)
  | some name => "<" ++ name ++ "." ++ (c.label a).toUpper ++ ": " ++ quoted (c.label a) ++ ">"

end Choices

mutual

/-- A value as error texts show it inside another. -/
def Shape.describe {α : Type} : Shape α → α → String
  | .integer, n => toString n
  | .count, n => toString n
  | .text, t => t.quoted
  | .filled, t => quoted t.text
  | .hex, h => quoted h.text
  | .choice c, a => c.describe a
  | .nullable _, none => "None"
  | .nullable s, some a => s.describe a
  | .list s, as => "[" ++ ", ".intercalate (as.map s.describe) ++ "]"
  | .record form fields, r =>
    form.title ++ "(" ++ ", ".intercalate (fields.describe (form.parts r)) ++ ")"

/-- The fields with their names. -/
def Fields.describe {τ : Type} : Fields τ → τ → List String
  | .nil, _ => []
  | .cons key _ shape rest, (a, t) => (key.name ++ "=" ++ shape.describe a) :: rest.describe t

end

/-- A value as error texts show it by itself: the fields of a record stand side by side. -/
def Shape.outline {α : Type} (shape : Shape α) (a : α) : String :=
  match shape with
  | .record form fields => " ".intercalate (fields.describe (form.parts a))
  | other => other.describe a

end RemoteSigner
