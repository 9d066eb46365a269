import RemoteSigner.Wire.Misfit
import RemoteSigner.Text.Digit
import RemoteSigner.Decimal.Binary64

/-!
# Lenient integers

Integer fields accept more than integers: `true` and `false`, floats without a fractional part, and text
such as `" +1_000.00 "`. An integer that is accepted from a float lies strictly between `-2^63` and
`2^63`; one that is accepted from text takes at most `Json.maxDigits` places, not counting padding.

Padding is what stands between the sign of a number and the first digit that counts: a zero, and after it
any zeros and underscores. A minus sign that was not there before may stand behind the padding.
-/

namespace RemoteSigner.Lenient

/-- Whether the codes end a decimal without changing its value: nothing, or a point and zeros. -/
def isZeroFraction : List Nat → Bool
  | [] => true
  | 46 :: d :: ds => (d :: ds).all (· == 48)
  | _ => false

/-- A digit other than zero. -/
def isNonzeroDigit (code : Nat) : Bool := 49 ≤ code && code ≤ 57

/-- What padding consists of. -/
def isPadding (code : Nat) : Bool := code == 48 || code == 95

/-- A number without its padding. Of a number that is all padding, up to its point, the last code stays. -/
def trimPadding? (body : List Nat) : Option (List Nat) :=
  let padding := body.takeWhile isPadding
  let rest := body.drop padding.length
  match padding, rest with
  | [], d :: _ => if isNonzeroDigit d then some body else none
  | 48 :: _, [] => some (padding.drop (padding.length - 1))
  | 48 :: _, d :: _ =>
    if d = 46 then some (padding.drop (padding.length - 1) ++ rest)
    else if d = 45 ∨ isNonzeroDigit d then some rest
    else none
  | _, _ => none

variable [Readers]

/-- The digits of a whole number with that sign: grouped by single underscores, and without a zero that
does not count. -/
def wholeDigits? (neg : Bool) (codes : List Nat) : Option (List Nat) :=
  match groupedDigits? asciiDigit? false codes with
  | some (0 :: _ :: _) => none
  | some ds => if ds.length + Readers.signPlaces neg ≤ Json.maxDigits then some ds else none
  | none => none

/-- The integer of a whole number without padding, which a minus sign preceded if `neg`. A minus sign of
its own may stand apart by an underscore. -/
def integerOfWhole? (neg : Bool) (codes : List Nat) : Option Int :=
  match neg, codes with
  | false, 45 :: 95 :: digits => (wholeDigits? true digits).map (signed true ∘ digitsValue)
  | false, 45 :: digits => (wholeDigits? true digits).map (signed true ∘ digitsValue)
  | neg, digits => (wholeDigits? neg digits).map (signed neg ∘ digitsValue)

/-- The integer that text spells, without its surrounding blanks. -/
def integerOfStripped? (codes : List Nat) : Option Int :=
  let (neg, body) := splitSign codes
  (trimPadding? body).bind fun number =>
    let whole := number.takeWhile (· != 46)
    if isZeroFraction (number.drop whole.length) then integerOfWhole? neg whole else none

/-- Whether text starts like an integer literal with too many digits. -/
def startsOversized (codes : List Nat) : Bool :=
  let neg := codes.head? = some 45
  let body := if neg then codes.tail else codes
  let digits := body.takeWhile (asciiDigit? · |>.isSome)
  body.head?.any isNonzeroDigit && digits.length + Readers.signPlaces neg > Json.maxDigits

/-- The integer that text spells. A literal that is too long is refused before anything else is looked
at. -/
def integerOfText (s : String) : Except Misfit Int :=
  let codes := codesOf s
  if startsOversized codes then .error .oversizedInteger
  else
    match integerOfStripped? (strip isBlank codes) with
    | some n => .ok n
    | none => .error .unreadableInteger

/-- The integer that a float is. -/
def integerOfFloat (x : Float) : Except Misfit Int :=
  if Binary64.isFinite x then
    match Binary64.toInt? x with
    | none => .error .fractional
    | some n => if n.natAbs < Nat.pow 2 63 then .ok n else .error .oversizedInteger
  else .error .notFinite

/-- The integer that a truth value counts as. -/
def integerOfBool (b : Bool) : Int := if b then 1 else 0

end RemoteSigner.Lenient
