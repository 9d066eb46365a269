import RemoteSigner.Json.Strict

/-!
# Why a value does not fit

A `Misfit` says what is wrong with one value, an `Issue` also where it stands in the whole, and a
`Rejection` is the list of all issues of a value under the title of the type it should have had. Each
misfit has a short code beside its wording; the codes do not tell JSON text and values in memory apart.
-/

namespace RemoteSigner

/-- What is wrong with a value. -/
inductive Misfit where
  | missing
  | extra
  /-- Not an object of a JSON text. -/
  | notObject
  /-- Neither a map in memory nor a record of this title. -/
  | notInstance (title : String)
  | notArray
  | notList
  | notText
  | malformedText
  | tooShort
  | notHexPairs
  | notInteger
  | unreadableInteger
  | oversizedInteger
  | fractional
  | notFinite
  | negative
  /-- None of the labels of an enumeration. -/
  | notMember (labels : List String)
  /-- Not the one label that is allowed. -/
  | notLiteral (label : String)
  /-- A rule about the value as a whole is broken. -/
  | broken (rule : String)
  | notJson (fault : Json.Fault)
  deriving DecidableEq, Repr

namespace Misfit

def code : Misfit → String
  | missing => "missing"
  | extra => "extra_forbidden"
  | notObject | notInstance _ => "model_type"
  | notArray | notList => "list_type"
  | notText => "string_type"
  | malformedText => "string_unicode"
  | tooShort => "string_too_short"
  | notHexPairs => "string_pattern_mismatch"
  | notInteger => "int_type"
  | unreadableInteger => "int_parsing"
  | oversizedInteger => "int_parsing_size"
  | fractional => "int_from_float"
  | notFinite => "finite_number"
  | negative => "greater_than_equal"
  | notMember _ => "enum"
  | notLiteral _ => "literal_error"
  | broken _ => "value_error"
  | notJson _ => "json_invalid"

/-- Labels in quotes, the last after "or". -/
def alternatives : List String → String
  | [] => ""
  | [a] => "'" ++ a ++ "'"
  | [a, b] => "'" ++ a ++ "' or '" ++ b ++ "'"
  | a :: rest => "'" ++ a ++ "', " ++ alternatives rest

def message : Misfit → String
  | missing => "Field required"
  | extra => "Extra inputs are not permitted"
  | notObject => "Input should be an object"
  | notInstance title => "Input should be a valid dictionary or instance of " ++ title
  | notArray => "Input should be a valid array"
  | notList => "Input should be a valid list"
  | notText => "Input should be a valid string"
  | malformedText => "Input should be a valid string, unable to parse raw data as a unicode string"
  | tooShort => "String should have at least 1 character"
  | notHexPairs => "String should match pattern '^([0-9a-fA-F]\x7b2\x7d)*$'"
  | notInteger => "Input should be a valid integer"
  | unreadableInteger => "Input should be a valid integer, unable to parse string as an integer"
  | oversizedInteger => "Unable to parse input string as an integer, exceeded maximum size"
  | fractional => "Input should be a valid integer, got a number with a fractional part"
  | notFinite => "Input should be a finite number"
  | negative => "Input should be greater than or equal to 0"
  | notMember labels => "Input should be " ++ alternatives labels
  | notLiteral label => "Input should be '" ++ label ++ "'"
  | broken rule => "Value error, " ++ rule
  | notJson fault => "Invalid JSON: " ++ fault.message

end Misfit

/-- One step from a value to a part of it. -/
inductive Step where
  | key (k : Text)
  | index (i : Nat)
  deriving DecidableEq, Repr

/-- A misfit and the way to it. -/
structure Issue where
  misfit : Misfit
  path : List Step
  deriving DecidableEq, Repr

namespace Issue

/-- An issue with the value itself. -/
def here (m : Misfit) : Issue := ⟨m, []⟩

/-- The issue of a part, as an issue of the whole. -/
def under (s : Step) (i : Issue) : Issue := { i with path := s :: i.path }

end Issue

/-- A value of the type titled `title` was not accepted. -/
structure Rejection where
  title : String
  issues : List Issue
  deriving DecidableEq, Repr

namespace Rejection

/-- The first line of the rejection as a text; the lines after it are not part of any output. -/
def headline (r : Rejection) : String :=
  let n := r.issues.length
  toString n ++ " validation error" ++ (if n = 1 then "" else "s") ++ " for " ++ r.title

end Rejection

/-! ## Verdicts -/

/-- What a check gives: a value, or everything that is wrong. -/
abbrev Verdict (α : Type) := Except (List Issue) α

namespace Verdict

variable {α β : Type}

/-- A check that has one thing to say. -/
def ofMisfit : Except Misfit α → Verdict α
  | .ok a => .ok a
  | .error m => .error [.here m]

/-- The verdict on a part, as a verdict on the whole. -/
def under (s : Step) : Verdict α → Verdict α
  | .ok a => .ok a
  | .error es => .error (es.map (Issue.under s))

/-- Both verdicts; what is wrong with either is collected. -/
def both : Verdict α → Verdict β → Verdict (α × β)
  | .ok a, .ok b => .ok (a, b)
  | .ok _, .error es => .error es
  | .error es, .ok _ => .error es
  | .error es, .error fs => .error (es ++ fs)

/-- The verdicts on the members of a list, from position `i` on. -/
def each (i : Nat) : List (Verdict α) → Verdict (List α)
  | [] => .ok []
  | v :: rest =>
    match both (v.under (.index i)) (each (i + 1) rest) with
    | .ok (a, as) => .ok (a :: as)
    | .error es => .error es

/-- The verdict, with more issues after its own, or before them. -/
def also (before : Bool) (v : Verdict α) (more : List Issue) : Verdict α :=
  match v, more with
  | .ok a, [] => .ok a
  | .ok _, more => .error more
  | .error es, more => .error (if before then more ++ es else es ++ more)

theorem both_eq_ok {a : α} {b : β} {v : Verdict α} {w : Verdict β} :
    both v w = .ok (a, b) ↔ v = .ok a ∧ w = .ok b := by
  cases v <;> cases w <;> simp [both]

theorem also_eq_ok {before : Bool} {a : α} {v : Verdict α} {more : List Issue} :
    v.also before more = .ok a ↔ v = .ok a ∧ more = [] := by
  cases v <;> cases more <;> simp [also]

end Verdict

end RemoteSigner
