import RemoteSigner.Json.Basic
import RemoteSigner.Decimal.Style
import RemoteSigner.Text.Basic

/-!
# JSON text

`Json.compact` writes a value without any space, `Json.indented` over lines with two spaces for each
level. Strings escape what JSON demands and nothing else, so text outside ASCII stays as it is.
-/

namespace RemoteSigner

/-- How NaN and the infinities are written, for which JSON has no number. -/
inductive NonFinite where
  | asNull
  | byName
  deriving DecidableEq, Repr

namespace Json

/-- One character of a string. -/
def escape (c : Char) : List Char :=
  if c = '"' then ['\\', '"']
  else if c = '\\' then ['\\', '\\']
  else if c = '\n' then ['\\', 'n']
  else if c = '\r' then ['\\', 'r']
  else if c = '\t' then ['\\', 't']
  else if c = '\x08' then ['\\', 'b']
  else if c = '\x0c' then ['\\', 'f']
  else if c.toNat < 0x20 then '\\' :: 'u' :: hexPadded 4 c.toNat
  else [c]

/-- A string in its quotes. -/
def quotedChars (s : String) : List Char := '"' :: s.toList.flatMap escape ++ ['"']

/-- An integer in decimal. -/
def intChars (n : Int) : List Char :=
  if n < 0 then '-' :: Nat.toDigits 10 n.natAbs else Nat.toDigits 10 n.natAbs

/-- A float, by the policy for what is no number. -/
def floatChars (policy : NonFinite) (x : Float) : List Char :=
  if policy = .asNull ∧ ¬ Binary64.isFinite x then "null".toList else FloatStyle.json.chars x

/-- A value that holds no other value. -/
def boolChars (b : Bool) : List Char := if b then "true".toList else "false".toList

mutual

/-- The value without any space. -/
def compactChars (policy : NonFinite) : Json → List Char
  | .null => "null".toList
  | .bool b => boolChars b
  | .int n => intChars n
  | .float x => floatChars policy x
  | .str s => quotedChars s
  | .list items => '[' :: compactItems policy items ++ [']']
  | .object entries => '{' :: compactEntries policy entries ++ ['}']

/-- The items, with a comma between any two. -/
def compactItems (policy : NonFinite) : List Json → List Char
  | [] => []
  | [x] => compactChars policy x
  | x :: y :: rest => compactChars policy x ++ ',' :: compactItems policy (y :: rest)

/-- The entries, with a comma between any two. -/
def compactEntries (policy : NonFinite) : List (String × Json) → List Char
  | [] => []
  | [(k, v)] => quotedChars k ++ ':' :: compactChars policy v
  | (k, v) :: e :: rest =>
    quotedChars k ++ ':' :: compactChars policy v ++ ',' :: compactEntries policy (e :: rest)

end

/-- A line break and the space of `level` levels. -/
def newline (level : Nat) : List Char := '\n' :: List.replicate (2 * level) ' '

mutual

/-- The value over lines, from a line at `level` on. A container without content stays on its line. -/
def indentedChars (policy : NonFinite) (level : Nat) : Json → List Char
  | .null => "null".toList
  | .bool b => boolChars b
  | .int n => intChars n
  | .float x => floatChars policy x
  | .str s => quotedChars s
  | .list [] => ['[', ']']
  | .list (x :: rest) =>
    '[' :: newline (level + 1) ++ indentedItems policy (level + 1) (x :: rest) ++
      newline level ++ [']']
  | .object [] => ['{', '}']
  | .object (e :: rest) =>
    '{' :: newline (level + 1) ++ indentedEntries policy (level + 1) (e :: rest) ++
      newline level ++ ['}']

/-- The items, each on lines of its own. -/
def indentedItems (policy : NonFinite) (level : Nat) : List Json → List Char
  | [] => []
  | [x] => indentedChars policy level x
  | x :: y :: rest =>
    indentedChars policy level x ++ ',' :: newline level ++ indentedItems policy level (y :: rest)

/-- The entries, each on lines of its own. -/
def indentedEntries (policy : NonFinite) (level : Nat) : List (String × Json) → List Char
  | [] => []
  | [(k, v)] => quotedChars k ++ ':' :: ' ' :: indentedChars policy level v
  | (k, v) :: e :: rest =>
    quotedChars k ++ ':' :: ' ' :: indentedChars policy level v ++
      ',' :: newline level ++ indentedEntries policy level (e :: rest)

end

/-- The value as one line of text. -/
def compact (policy : NonFinite) (j : Json) : String := String.ofList (compactChars policy j)

/-- The value as indented text. -/
def indented (policy : NonFinite) (j : Json) : String := String.ofList (indentedChars policy 0 j)

end Json

end RemoteSigner
