import RemoteSigner.Wire.Check
import RemoteSigner.Wire.Dump

/-!
# Typed values as text and as data

`Shape.decode` reads a typed value from what crossed the wire: the whole text is parsed before anything is
checked. `Shape.toDatum` is a typed value as data in memory, every record under its title.
-/

namespace RemoteSigner

variable [Readers]

/-- The JSON value that content spells. -/
def Content.readJson : Content → Except Misfit Json
  | .text t =>
    match t.toString? with
    | some s => (Json.readText s).mapError .notJson
    | none => .error .malformedText
  | .binary b => (Json.read b.codes).mapError .notJson

namespace Shape

variable {α : Type}

/-- The typed value that content spells, or its rejection. -/
def decode (shape : Shape α) (c : Content) : Except Rejection α :=
  match c.readJson with
  | .ok j => shape.accept j
  | .error m => .error ⟨shape.title, [.here m]⟩

/-- The typed value as compact text. -/
def dumpText (shape : Shape α) (a : α) : Except DumpFault String :=
  (·.compact .byName) <$> shape.dump a

end Shape

mutual

/-- The typed value as data in memory. -/
def Shape.toDatum {α : Type} : Shape α → α → Datum
  | .integer, n => .int n
  | .count, n => .int (Int.ofNat n)
  | .text, t => .text t
  | .filled, t => .text (.whole t.text)
  | .hex, h => .text (.whole h.text)
  | .choice c, a => .text (.whole (c.label a))
  | .nullable _, none => .null
  | .nullable s, some a => s.toDatum a
  | .list s, as => .list (as.map s.toDatum)
  | .record form fields, r => .record form.title (fields.toDatum (form.parts r))

/-- The field values as entries of a record. -/
def Fields.toDatum {τ : Type} : Fields τ → τ → List (Text × Datum)
  | .nil, _ => []
  | .cons key _ shape rest, (a, t) => (.whole key.written, shape.toDatum a) :: rest.toDatum t

end

end RemoteSigner
