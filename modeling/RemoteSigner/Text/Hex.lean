import RemoteSigner.Text.Utf8

/-!
# Hexadecimal text

`HexText` is text that consists of two-digit pairs, in any mix of letter case; its letter case is
part of it. What it stands for is read by `Hex.read`, which takes blanks between pairs as well.
-/

namespace RemoteSigner

namespace Hex

/-- The value of a hexadecimal digit. -/
def digit? (c : Char) : Option Nat :=
  if '0' ≤ c ∧ c ≤ '9' then some (c.toNat - '0'.toNat)
  else if 'a' ≤ c ∧ c ≤ 'f' then some (c.toNat - 'a'.toNat + 10)
  else if 'A' ≤ c ∧ c ≤ 'F' then some (c.toNat - 'A'.toNat + 10)
  else none

/-- Whether the characters are pairs of hexadecimal digits and nothing else. -/
def isPairs : List Char → Bool
  | [] => true
  | [_] => false
  | a :: b :: rest => (digit? a).isSome && (digit? b).isSome && isPairs rest

/-- White space, which may stand between pairs. -/
def isBlank (c : Char) : Bool := c == ' ' || ('\t' ≤ c && c ≤ '\r')

/-- The bytes that the characters from offset `start` on stand for, or the offset of the first character
that is out of place. -/
def readFrom : (start : Nat) → List Char → Except Nat (List Nat)
  | _, [] => .ok []
  | start, [c] =>
    if isBlank c then .ok [] else .error (if (digit? c).isSome then start + 1 else start)
  | start, a :: b :: rest =>
    if isBlank a then readFrom (start + 1) (b :: rest)
    else
      match digit? a, digit? b with
      | none, _ => .error start
      | some _, none => .error (start + 1)
      | some high, some low => ((high * 16 + low) :: ·) <$> readFrom (start + 2) rest

/-- The bytes that text stands for, or the offset of the first character that is out of place: of the
first one outside ASCII, if there is any. Reading is more lenient than `isPairs`. -/
def read (cs : List Char) : Except Nat (List Nat) :=
  match cs.findIdx? fun c => 0x80 ≤ c.toNat with
  | some offset => .error offset
  | none => readFrom 0 cs

/-- The lower-case pair of a byte. -/
def pair (b : Nat) : List Char := [Nat.digitChar (b / 16 % 16), Nat.digitChar (b % 16)]

/-- Bytes in lower-case pairs. -/
def encode (bytes : Bytes) : String := String.ofList (bytes.flatMap fun b => pair b.toNat)

end Hex

/-- Text made of pairs of hexadecimal digits. -/
structure HexText where
  text : String
  isPairs : Hex.isPairs text.toList = true
  deriving DecidableEq

namespace HexText

/-- The bytes that the text stands for, as its reader gives them. -/
def bytes (h : HexText) : Except Nat Bytes := (·.map UInt8.ofNat) <$> Hex.read h.text.toList

/-- The text, if it is made of pairs. -/
def ofString? (s : String) : Option HexText :=
  if h : Hex.isPairs s.toList = true then some ⟨s, h⟩ else none

theorem ofString?_text (h : HexText) : ofString? h.text = some h := by
  simp [ofString?, h.isPairs]

end HexText

end RemoteSigner
