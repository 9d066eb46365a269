import RemoteSigner.Json.Reader
import RemoteSigner.Datum.Basic

/-!
# Loose JSON

Recorded frames and values in memory are read loosely, from text: escapes may leave a surrogate alone and
containers may nest deep. A fault is placed by characters, and names what the reader expected. An integer
that is too long to convert and a container that stands too deep are faults of their own kinds: the text
up to there is well formed.
-/

namespace RemoteSigner.Json

variable [Readers]

/-- Values in memory from text. -/
def loose : Dialect Text Datum where
  depthLimit := Readers.looseDepth
  limitsScalars := false
  limitsFloats := false
  countsSign := false
  loneSurrogates := true
  spell code := [code]
  complete codes := .ok (.ofCodes codes)
  null := .null
  bool := .bool
  int := .int
  float := .float
  text := .text
  list := .list
  object entries := .map (Entries.ofPairs entries)

/-- What a text lacks or has too much to be loose JSON. -/
inductive Complaint where
  | byteOrderMark
  | expectingValue
  | expectingKey
  | expectingColon
  | expectingComma
  | extraData
  | controlCharacter
  | badEscape
  | badHexEscape
  | unterminated
  deriving DecidableEq, Repr

def Complaint.message : Complaint → String
  | .byteOrderMark => "Unexpected UTF-8 BOM (decode using utf-8-sig)"
  | .expectingValue => "Expecting value"
  | .expectingKey => "Expecting property name enclosed in double quotes"
  | .expectingColon => "Expecting ':' delimiter"
  | .expectingComma => "Expecting ',' delimiter"
  | .extraData => "Extra data"
  | .controlCharacter => "Invalid control character at"
  | .badEscape => "Invalid \\escape"
  | .badHexEscape => "Invalid \\uXXXX escape"
  | .unterminated => "Unterminated string starting at"

/-- Why a text has no value. -/
inductive LooseFault where
  | malformed (complaint : Complaint) (line column offset : Nat)
  /-- The number of digits of an integer literal. -/
  | oversized (digits : Nat)
  /-- Whether the container that stands too deep is an object. -/
  | tooDeep (isObject : Bool)
  deriving DecidableEq, Repr

/-- The wording for a decimal integer that is too long to convert. -/
def oversizedMessage (digits : Nat) : String :=
  "Exceeds the limit (" ++ toString maxDigits ++ " digits) for integer string conversion: value has "
    ++ toString digits ++ " digits; use sys.set_int_max_str_digits() to increase the limit"

def LooseFault.message : LooseFault → String
  | .malformed complaint line column offset =>
    complaint.message ++ ": line " ++ toString line ++ " column " ++ toString column ++
      " (char " ++ toString offset ++ ")"
  | .oversized digits => oversizedMessage digits
  | .tooDeep isObject =>
    "maximum recursion depth exceeded while decoding a JSON " ++
      (if isObject then "object" else "array") ++ " from a unicode string"

/-- The fault at an offset: lines and columns count from one. -/
def LooseFault.at (codes : List Nat) (complaint : Complaint) (offset : Nat) : LooseFault :=
  let before := codes.take offset
  .malformed complaint (1 + before.count 10) (1 + (before.reverse.takeWhile (· ≠ 10)).length) offset

/-- What is wrong with more text after a value. -/
def afterValue {σ α : Type} : List (Frame σ α) → Complaint
  | [] => .extraData
  | _ => .expectingComma

/-- How many units of an incomplete number follow the longest number that it starts with; `none` if it
starts with no number. -/
def Numeral.surplus? (n : Numeral) : Option Nat :=
  match n.phase with
  | .sign => none
  | .point | .exponent => some 1
  | .exponentSign => some 2
  | _ => some 0

/-- The complaint about a number that cannot go on, and how many units back. -/
def looseNumber (stack : List (Frame Text Datum)) (n : Numeral) : Complaint × Nat :=
  match n.surplus? with
  | none => (.expectingValue, 1)
  | some back => (afterValue stack, back)

/-- Whether the longest number that `n` starts with is an integer with too many digits. -/
def Numeral.startsOversized (n : Numeral) : Bool :=
  n.wholeCount > maxDigits && n.fractionCount == 0 && n.phase != .exponentDigits

/-- The complaint about a string that cannot go on, and how many units back. -/
def looseString (q : Quotation) (atEnd : Bool) : Complaint × Nat :=
  match q.phase with
  | .hex ds => (.badHexEscape, ds.length + 1)
  | .plain =>
    if !atEnd then (.controlCharacter, 0)
    else if q.afterHex then (.badHexEscape, 5)
    else (.unterminated, q.size + 1)
  | .escape => if atEnd then (.unterminated, q.size + 1) else (.badEscape, 1)

/-- The fault of a reader that got stuck. -/
def looseFaultOf (codes : List Nat) (stuck : Stuck Text Datum) : LooseFault :=
  let here := codes.length - stuck.rest.length
  let s := stuck.state
  let blame (c : Complaint × Nat) : LooseFault := .at codes c.1 (here - c.2)
  match s.focus with
  | .value | .firstItem | .nextItem =>
    match stuck.rest.head?.map mark with
    | some .openList => .tooDeep false
    | some .openObject => .tooDeep true
    | _ => blame (.expectingValue, 0)
  | .firstKey | .nextKey => blame (.expectingKey, 0)
  | .colon => blame (.expectingColon, 0)
  | .separator => blame (.expectingComma, 0)
  | .finished _ => blame (.extraData, 0)
  | .word spelt _ _ => blame (.expectingValue, spelt)
  | .number n =>
    if n.startsOversized then .oversized n.wholeCount else blame (looseNumber s.stack n)
  | .quoted _ q => blame (looseString q stuck.rest.isEmpty)

/-- The value that the text spells, or the first fault. -/
def readLoose (t : Text) : Except LooseFault Datum :=
  let codes := t.codes
  if codes.head? = some 0xFEFF then .error (.at codes .byteOrderMark 0)
  else
    match parse loose codes with
    | .ok v => .ok v
    | .error stuck => .error (looseFaultOf codes stuck)

end RemoteSigner.Json
