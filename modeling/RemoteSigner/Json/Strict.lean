import RemoteSigner.Json.Reader
import RemoteSigner.Text.Utf8

/-!
# Strict JSON

Messages and request files are read strictly, from bytes: strings are UTF-8, escapes name characters,
no value stands in more than 200 containers, and no number takes more than `maxDigits` places before its
point. `Json.read` gives the value or the first fault, with its place as a line and a column; columns
count bytes.
-/

namespace RemoteSigner.Json

variable [Readers]

/-- JSON values from bytes. -/
def strict : Dialect String Json where
  depthLimit := 201
  limitsScalars := true
  limitsFloats := true
  countsSign := Readers.countsSign
  loneSurrogates := false
  spell := Utf8.spell
  complete bytes :=
    match Utf8.decode bytes with
    | .ok cs => .ok (String.ofList cs)
    | .error m => .error m.start
  null := .null
  bool := .bool
  int := .int
  float := .float
  text := .str
  list := .list
  object entries := .object (if Readers.keepsRepeats then entries else Entries.ofPairs entries)

/-- Why a text is not strict JSON. -/
inductive Cause where
  | endInValue
  | endInList
  | endInObject
  | endInString
  | expectedValue
  | expectedWord
  | expectedColon
  | expectedListSeparator
  | expectedObjectSeparator
  | keyNotString
  | trailingComma
  | trailingCharacters
  | invalidNumber
  | oversizedNumber
  | invalidEscape
  | controlCharacter
  | missingSurrogate
  | loneSurrogate
  | invalidUtf8
  | tooDeep
  deriving DecidableEq, Repr

def Cause.message : Cause → String
  | .endInValue => "EOF while parsing a value"
  | .endInList => "EOF while parsing a list"
  | .endInObject => "EOF while parsing an object"
  | .endInString => "EOF while parsing a string"
  | .expectedValue => "expected value"
  | .expectedWord => "expected ident"
  | .expectedColon => "expected `:`"
  | .expectedListSeparator => "expected `,` or `]`"
  | .expectedObjectSeparator => "expected `,` or `\x7d`"
  | .keyNotString => "key must be a string"
  | .trailingComma => "trailing comma"
  | .trailingCharacters => "trailing characters"
  | .invalidNumber => "invalid number"
  | .oversizedNumber => "number out of range"
  | .invalidEscape => "invalid escape"
  | .controlCharacter => "control character (\\u0000-\\u001F) found while parsing a string"
  | .missingSurrogate => "unexpected end of hex escape"
  | .loneSurrogate => "lone leading surrogate in hex escape"
  | .invalidUtf8 => "invalid unicode code point"
  | .tooDeep => "recursion limit exceeded"

/-- A cause and the line and column of the offending byte. -/
structure Fault where
  cause : Cause
  line : Nat
  column : Nat
  deriving DecidableEq, Repr

def Fault.message (f : Fault) : String :=
  f.cause.message ++ " at line " ++ toString f.line ++ " column " ++ toString f.column

/-- The line and column of the byte at an offset. A line feed counts as the start of its next line;
past the end stands the last column. -/
def place (bytes : List Nat) (offset : Nat) : Nat × Nat :=
  let before := bytes.take (offset + 1)
  (1 + before.count 10, (before.reverse.takeWhile (· ≠ 10)).length)

/-- What is missing after a value in a container. -/
def separatorCause {σ α : Type} : List (Frame σ α) → Cause
  | [] => .trailingCharacters
  | .list _ :: _ => .expectedListSeparator
  | _ => .expectedObjectSeparator

/-- What is missing when a text ends after a value in a container. -/
def endCause {σ α : Type} : List (Frame σ α) → Cause
  | [] => .endInValue
  | .list _ :: _ => .endInList
  | _ => .endInObject

/-- The cause if the text ends in this state. -/
def causeAtEnd {σ α : Type} (s : State σ α) : Cause :=
  match s.focus with
  | .firstItem => .endInList
  | .firstKey | .colon => .endInObject
  | .separator => endCause s.stack
  | .number n => if n.isComplete then endCause s.stack else .endInValue
  | .quoted .. => .endInString
  | .value | .nextItem | .nextKey | .word .. | .finished _ => .endInValue

/-- The cause if a string cannot go on with the byte `u`, and how many bytes back; `left` bytes are
left, this one included. At the end of the text a hexadecimal escape is cut short whatever its digits. -/
def causeInString (q : Quotation) (u left : Nat) : Cause × (Nat ⊕ Nat) :=
  match q.phase with
  | .plain =>
    if q.high.isSome then (.missingSurrogate, .inl 0)
    else if u = 34 then
      match strict.complete q.content.reverse with
      | .error good => (.invalidUtf8, .inr good)
      | .ok _ => (.invalidUtf8, .inl 0)
    else (.controlCharacter, .inl 0)
  | .escape => (if q.high.isSome then .missingSurrogate else .invalidEscape, .inl 0)
  | .hex ds =>
    if left + ds.length < 4 then (.endInString, .inl 0)
    else if (hexDigit? u).isNone then (.invalidEscape, .inl 0)
    else (.loneSurrogate, .inl 0)

/-- The fault of a reader that got stuck. The place of a digit too many is the next byte after it. -/
def faultOf (bytes : List Nat) (stuck : Stuck String Json) : Fault :=
  let total := bytes.length
  let here := total - stuck.rest.length
  let s := stuck.state
  let at' (cause : Cause) (offset : Nat) : Fault :=
    let (line, column) := place bytes offset
    ⟨cause, line, column⟩
  match stuck.rest with
  | [] => at' (causeAtEnd s) total
  | u :: _ =>
    let m := mark u
    let value : Cause := if State.admits strict s.stack m then .expectedValue else .tooDeep
    match s.focus with
    | .value | .firstItem => at' value here
    | .nextItem => at' (if m = .closeList then .trailingComma else value) here
    | .firstKey => at' .keyNotString here
    | .nextKey => at' (if m = .closeObject then .trailingComma else .keyNotString) here
    | .colon => at' .expectedColon here
    | .separator => at' (separatorCause s.stack) here
    | .finished _ => at' .trailingCharacters here
    | .word .. => at' .expectedWord here
    | .number n =>
      match n.push m with
      | .more _ => at' .oversizedNumber (here + 1)
      | .ended => at' (separatorCause s.stack) here
      | .wrong => at' .invalidNumber here
    | .quoted _ q =>
      match causeInString q u stuck.rest.length with
      | (.endInString, _) => at' .endInString total
      | (cause, .inl back) => at' cause (here - back)
      | (cause, .inr good) => at' cause (here - q.size + good)

/-- The value that the bytes spell, or the first fault. -/
def read (bytes : List Nat) : Except Fault Json :=
  match parse strict bytes with
  | .ok j => .ok j
  | .error stuck => .error (faultOf bytes stuck)

/-- The value that a text spells, or the first fault. -/
def readText (s : String) : Except Fault Json := read (Utf8.encode s.toList)

end RemoteSigner.Json
