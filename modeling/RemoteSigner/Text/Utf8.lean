/-!
# UTF-8

Bytes are numbers below 256. `Utf8.decode` reads a byte list strictly: no overlong form, no
surrogate, nothing above U+10FFFF. A refusal names the longest prefix of a character that the bytes
still had, which is what error texts quote.
-/

namespace RemoteSigner

/-- Raw bytes of a frame or a file. -/
abbrev Bytes := List UInt8

/-- The bytes as numbers. -/
def Bytes.codes (b : Bytes) : List Nat := b.map UInt8.toNat

namespace Utf8

/-- Why a byte sequence is no character. -/
inductive Reason where
  | badStart
  | badContinuation
  | cutShort
  deriving DecidableEq, Repr

/-- The first place where bytes stop being UTF-8: `extent` bytes from `start` on could begin a
character, the last of which is the culprit only for a bad start. -/
structure Malformed where
  start : Nat
  extent : Nat
  lead : Nat
  reason : Reason
  deriving DecidableEq, Repr

/-- A character of which some bytes have been read. -/
structure Pending where
  lead : Nat
  taken : Nat
  value : Nat
  /-- Bytes still to come, the next one included. -/
  more : Nat
  low : Nat
  high : Nat
  deriving DecidableEq, Repr

/-- What a first byte announces: `none` if no character starts with it. The bounds on the second
byte exclude overlong forms, surrogates and numbers above U+10FFFF. -/
def begin? (b : Nat) : Option Pending :=
  if b < 0x80 then some ⟨b, 1, b, 0, 0, 0⟩
  else if b < 0xC2 then none
  else if b < 0xE0 then some ⟨b, 1, b - 0xC0, 1, 0x80, 0xBF⟩
  else if b = 0xE0 then some ⟨b, 1, b - 0xE0, 2, 0xA0, 0xBF⟩
  else if b = 0xED then some ⟨b, 1, b - 0xE0, 2, 0x80, 0x9F⟩
  else if b < 0xF0 then some ⟨b, 1, b - 0xE0, 2, 0x80, 0xBF⟩
  else if b = 0xF0 then some ⟨b, 1, b - 0xF0, 3, 0x90, 0xBF⟩
  else if b < 0xF4 then some ⟨b, 1, b - 0xF0, 3, 0x80, 0xBF⟩
  else if b = 0xF4 then some ⟨b, 1, b - 0xF0, 3, 0x80, 0x8F⟩
  else none

/-- The pending character with one more byte, if that byte fits. -/
def Pending.push? (p : Pending) (b : Nat) : Option Pending :=
  if p.low ≤ b ∧ b ≤ p.high then
    some ⟨p.lead, p.taken + 1, p.value * 64 + (b - 0x80), p.more - 1, 0x80, 0xBF⟩
  else none

/-- Decoding from offset `start` on, with the bytes of `pending` already read. -/
def decodeFrom (start : Nat) : Option Pending → List Nat → Except Malformed (List Char)
  | none, [] => .ok []
  | some p, [] => .error ⟨start, p.taken, p.lead, .cutShort⟩
  | none, b :: rest =>
    match begin? b with
    | none => .error ⟨start, 1, b, .badStart⟩
    | some p =>
      if p.more = 0 then (Char.ofNat p.value :: ·) <$> decodeFrom (start + 1) none rest
      else decodeFrom start (some p) rest
  | some p, b :: rest =>
    match p.push? b with
    | none => .error ⟨start, p.taken, p.lead, .badContinuation⟩
    | some q =>
      if q.more = 0 then (Char.ofNat q.value :: ·) <$> decodeFrom (start + q.taken) none rest
      else decodeFrom start (some q) rest

/-- The characters that the bytes spell. -/
def decode (bytes : List Nat) : Except Malformed (List Char) := decodeFrom 0 none bytes

/-- The text that raw bytes spell. -/
def decodeText (b : Bytes) : Except Malformed String := String.ofList <$> decode b.codes

/-- The bytes of one code point. -/
def spell (n : Nat) : List Nat :=
  if n < 0x80 then [n]
  else if n < 0x800 then [0xC0 + n / 64, 0x80 + n % 64]
  else if n < 0x10000 then [0xE0 + n / 4096, 0x80 + n / 64 % 64, 0x80 + n % 64]
  else [0xF0 + n / 262144, 0x80 + n / 4096 % 64, 0x80 + n / 64 % 64, 0x80 + n % 64]

/-- The bytes of a list of characters. -/
def encode (cs : List Char) : List Nat := cs.flatMap fun c => spell c.toNat

/-- The raw bytes of a text. -/
def encodeText (s : String) : Bytes := (encode s.toList).map UInt8.ofNat

/-! ## Wording -/

/-- The refusal as an encoder words it: extent and place. -/
def Malformed.summary (m : Malformed) : String :=
  match m.reason with
  | .cutShort => s!"incomplete utf-8 byte sequence from index {m.start}"
  | _ => s!"invalid utf-8 sequence of {m.extent} bytes from index {m.start}"

def Reason.wording : Reason → String
  | .badStart => "invalid start byte"
  | .badContinuation => "invalid continuation byte"
  | .cutShort => "unexpected end of data"

/-- Two lower-case hexadecimal digits. -/
def hexByte (b : Nat) : String :=
  String.ofList [Nat.digitChar (b / 16 % 16), Nat.digitChar (b % 16)]

/-- The refusal as a reader of files words it: the culprit bytes and the reason. -/
def Malformed.report (m : Malformed) : String :=
  let place :=
    if m.extent = 1 then "byte 0x" ++ hexByte m.lead ++ " in position " ++ toString m.start
    else "bytes in position " ++ toString m.start ++ "-" ++ toString (m.start + m.extent - 1)
  "'utf-8' codec can't decode " ++ place ++ ": " ++ m.reason.wording

end Utf8

end RemoteSigner
