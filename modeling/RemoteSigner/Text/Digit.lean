/-!
# Decimal digits and blanks

What settings and lenient fields read as numbers. Unicode 14 has sixty-six runs of ten decimal digits
each; blanks are the characters with the White_Space property.
-/

namespace RemoteSigner

/-- The zeros of all runs of decimal digits. -/
def digitZeros : List Nat :=
  [0x30, 0x660, 0x6F0, 0x7C0, 0x966, 0x9E6, 0xA66, 0xAE6, 0xB66, 0xBE6, 0xC66, 0xCE6, 0xD66, 0xDE6,
   0xE50, 0xED0, 0xF20, 0x1040, 0x1090, 0x17E0, 0x1810, 0x1946, 0x19D0, 0x1A80, 0x1A90, 0x1B50,
   0x1BB0, 0x1C40, 0x1C50, 0xA620, 0xA8D0, 0xA900, 0xA9D0, 0xA9F0, 0xAA50, 0xABF0, 0xFF10, 0x104A0,
   0x10D30, 0x11066, 0x110F0, 0x11136, 0x111D0, 0x112F0, 0x11450, 0x114D0, 0x11650, 0x116C0,
   0x11730, 0x118E0, 0x11950, 0x11C50, 0x11D50, 0x11DA0, 0x16A60, 0x16AC0, 0x16B50, 0x1D7CE,
   0x1D7D8, 0x1D7E2, 0x1D7EC, 0x1D7F6, 0x1E140, 0x1E2F0, 0x1E950, 0x1FBF0]

/-- The value of a decimal digit of any script. -/
def digitValue? (code : Nat) : Option Nat :=
  (digitZeros.find? fun z => z ≤ code && code ≤ z + 9).map (code - ·)

/-- The value of an ASCII digit. -/
def asciiDigit? (code : Nat) : Option Nat :=
  if 48 ≤ code ∧ code ≤ 57 then some (code - 48) else none

/-- The digits of a number in which single underscores may stand between digits; `afterDigit` says
whether a digit came just before. -/
def groupedDigits? (digit : Nat → Option Nat) : Bool → List Nat → Option (List Nat)
  | afterDigit, [] => if afterDigit then some [] else none
  | afterDigit, c :: rest =>
    if c = 95 then if afterDigit then groupedDigits? digit false rest else none
    else do
      let d ← digit c
      let ds ← groupedDigits? digit true rest
      return d :: ds

/-- The number that a list of digits is. -/
def digitsValue (ds : List Nat) : Nat := ds.foldl (fun n d => n * 10 + d) 0

/-- The text without its sign, and whether that was a minus. -/
def splitSign : List Nat → Bool × List Nat
  | 45 :: rest => (true, rest)
  | 43 :: rest => (false, rest)
  | codes => (false, codes)

/-- The number with the sign. -/
def signed (neg : Bool) (n : Nat) : Int := if neg then -(n : Int) else n

/-- The White_Space property. -/
def isBlank (code : Nat) : Bool :=
  (9 ≤ code && code ≤ 13) || code == 0x20 || code == 0x85 || code == 0xA0 || code == 0x1680 ||
    (0x2000 ≤ code && code ≤ 0x200A) || code == 0x2028 || code == 0x2029 || code == 0x202F ||
    code == 0x205F || code == 0x3000

/-- The list without the elements at either end that satisfy `p`. -/
def strip (p : Nat → Bool) (codes : List Nat) : List Nat :=
  ((codes.dropWhile p).reverse.dropWhile p).reverse

end RemoteSigner
