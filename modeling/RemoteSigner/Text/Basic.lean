/-!
# Text in memory

Text that arrived as UTF-8 is a `String`. Text that was written with `\u` escapes in a frame may hold
a lone surrogate, which no `String` holds; such text is `ragged`. It can be passed around and counted,
but it has no encoding.
-/

namespace RemoteSigner

/-- Text in memory: a string, or code points among which is a lone surrogate. -/
inductive Text where
  | whole (s : String)
  | ragged (codes : List Nat)
  deriving DecidableEq, Repr, Inhabited

/-- A code point that pairs with another one in UTF-16 and stands for nothing by itself. -/
def isSurrogate (code : Nat) : Bool := 0xD800 ≤ code && code ≤ 0xDFFF

def isHighSurrogate (code : Nat) : Bool := 0xD800 ≤ code && code ≤ 0xDBFF

def isLowSurrogate (code : Nat) : Bool := 0xDC00 ≤ code && code ≤ 0xDFFF

/-- The code point that a surrogate pair stands for. -/
def joinSurrogates (high low : Nat) : Nat := 0x10000 + (high - 0xD800) * 0x400 + (low - 0xDC00)

namespace Text

instance : Coe String Text := ⟨.whole⟩

/-- The code points of the text. -/
def codes : Text → List Nat
  | .whole s => s.toList.map Char.toNat
  | .ragged cs => cs

/-- The text of the code points. -/
def ofCodes (cs : List Nat) : Text :=
  if cs.any isSurrogate then .ragged cs else .whole (String.ofList (cs.map Char.ofNat))

/-- The number of code points. -/
def length (t : Text) : Nat := t.codes.length

/-- The text as a string, if it is one. -/
def toString? : Text → Option String
  | .whole s => some s
  | .ragged _ => none

@[simp] theorem toString?_whole (s : String) : toString? (.whole s) = some s := rfl

@[simp] theorem codes_whole (s : String) : codes (.whole s) = s.toList.map Char.toNat := rfl

/-- The first run of lone surrogates: its offset and its code points. -/
def surrogateRun (t : Text) : Nat × List Nat :=
  let before := t.codes.takeWhile (!isSurrogate ·)
  (before.length, (t.codes.drop before.length).takeWhile isSurrogate)

end Text

/-- The code points of a string. -/
def codesOf (s : String) : List Nat := s.toList.map Char.toNat

/-- `n` in hexadecimal, lower case, at least `width` digits. -/
def hexPadded (width n : Nat) : List Char :=
  let ds := Nat.toDigits 16 n
  List.replicate (width - ds.length) '0' ++ ds

/-- The text as messages show it: lone surrogates are escaped, and all else stands for itself. -/
def Text.shown : Text → String
  | .whole s => s
  | .ragged codes => String.ofList (codes.flatMap fun code =>
      if isSurrogate code then '\\' :: 'u' :: hexPadded 4 code else [Char.ofNat code])

/-- Why ragged text has no encoding. -/
def Text.unencodable (t : Text) : String :=
  let (start, run) := t.surrogateRun
  let place :=
    match run with
    | [c] => "character '\\u" ++ String.ofList (hexPadded 4 c) ++ "' in position " ++ toString start
    | _ => "characters in position " ++ toString start ++ "-" ++ toString (start + run.length - 1)
  "'utf-8' codec can't encode " ++ place ++ ": surrogates not allowed"

end RemoteSigner
