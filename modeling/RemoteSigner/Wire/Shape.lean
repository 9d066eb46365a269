import RemoteSigner.Wire.Misfit
import RemoteSigner.Text.Hex

/-!
# Shapes of wire types

A `Shape α` says how values of type `α` look on the wire. A record is a list of fields together with a
`Form`, which takes records apart into field values and puts them together again, unless a rule about the
record as a whole is broken.
-/

namespace RemoteSigner

/-- Text of at least one character. -/
structure FilledText where
  text : String
  text_ne : text ≠ ""
  deriving DecidableEq

/-- A choice between values that stand as fixed labels on the wire. -/
structure Choices (α : Type) where
  /-- The name of the enumeration, if it has one. -/
  enumeration : Option String
  all : List α
  label : α → String
  mem_all : ∀ a, a ∈ all
  label_inj : ∀ a b, label a = label b → a = b

namespace Choices

variable {α : Type}

/-- The value with this label. -/
def find? (c : Choices α) (s : String) : Option α := c.all.find? fun a => c.label a == s

/-- What is wrong with a value that has none of the labels. -/
def misfit (c : Choices α) : Misfit :=
  match c.enumeration, c.all with
  | none, [a] => .notLiteral (c.label a)
  | _, all => .notMember (all.map c.label)

theorem find?_label (c : Choices α) (a : α) : c.find? (c.label a) = some a := by
  have h : (c.all.find? fun x => c.label x == c.label a).isSome :=
    List.find?_isSome.mpr ⟨a, c.mem_all a, by simp⟩
  obtain ⟨b, hb⟩ := Option.isSome_iff_exists.mp h
  have := List.find?_some hb
  rw [find?, hb, c.label_inj b a (by simpa using this)]

end Choices

/-- How records of type `ρ` are made of field values of type `τ`. -/
structure Form (ρ τ : Type) where
  title : String
  /-- The record of the field values, or the rule that they break. -/
  build : τ → Except String ρ
  parts : ρ → τ
  build_parts : ∀ r, build (parts r) = .ok r
  parts_of_build : ∀ t r, build t = .ok r → parts r = t

/-- The names of a field: its wire name, if it has one, is what it is written under. -/
structure FieldKey where
  name : String
  wireName : Option String
  deriving DecidableEq, Repr

namespace FieldKey

/-- The name that the field is written under. -/
def written (k : FieldKey) : String := k.wireName.getD k.name

/-- The names that the field is read under, the one that wins first. -/
def spellings (k : FieldKey) : List String :=
  match k.wireName with
  | some a => [a, k.name]
  | none => [k.name]

end FieldKey

mutual

/-- How values of a type look on the wire. -/
inductive Shape : Type → Type 1 where
  | integer : Shape Int
  /-- An integer that is not negative. -/
  | count : Shape Nat
  | text : Shape Text
  | filled : Shape FilledText
  | hex : Shape HexText
  | choice {α : Type} (choices : Choices α) : Shape α
  | nullable {α : Type} (shape : Shape α) : Shape (Option α)
  | list {α : Type} (shape : Shape α) : Shape (List α)
  | record {ρ τ : Type} (form : Form ρ τ) (fields : Fields τ) : Shape ρ

/-- The fields of a record, whose values make up a tuple. A field with a fallback may be left out. -/
inductive Fields : Type → Type 1 where
  | nil : Fields Unit
  | cons {α τ : Type} (key : FieldKey) (fallback : Option α) (shape : Shape α) (rest : Fields τ) :
      Fields (α × τ)

end

namespace Fields

variable {α τ : Type}

/-- A field that has to be there. -/
def required (name : String) (shape : Shape α) (rest : Fields τ) : Fields (α × τ) :=
  .cons ⟨name, none⟩ none shape rest

/-- A field that may be left out. -/
def withFallback (name : String) (fallback : α) (shape : Shape α) (rest : Fields τ) :
    Fields (α × τ) :=
  .cons ⟨name, none⟩ (some fallback) shape rest

/-- A field that may be left out or null. -/
def optional (name : String) (shape : Shape α) (rest : Fields τ) : Fields (Option α × τ) :=
  .cons ⟨name, none⟩ (some none) (.nullable shape) rest

end Fields

/-- The title under which values of the shape are rejected. -/
def Shape.title {α : Type} : Shape α → String
  | .integer | .count => "int"
  | .text | .filled | .hex => "str"
  | .choice c => c.enumeration.getD "literal"
  | .nullable s => "nullable[" ++ s.title ++ "]"
  | .list s => "list[" ++ s.title ++ "]"
  | .record form _ => form.title

end RemoteSigner
