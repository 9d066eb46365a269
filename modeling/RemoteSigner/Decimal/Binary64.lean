/-!
# Floats as fractions

A finite float is `m · 2^q`. `anatomy` takes a float apart, `nearestBits` finds the float nearest to a
fraction, a tie going to the even mantissa. Powers are written `Nat.pow`, which means the same in every
context, whatever algebra is imported beside this module.
-/

namespace RemoteSigner.Binary64

/-- What a float stands for: `finite neg m q` is `m · 2^q`, negated if `neg`. -/
inductive Anatomy where
  | nan
  | infinite (neg : Bool)
  | finite (neg : Bool) (m : Nat) (q : Int)
  deriving DecidableEq, Repr

/-- The parts of a float with the given bits. -/
def anatomyOfBits (bits : Nat) : Anatomy :=
  let neg := bits / Nat.pow 2 63 % 2 == 1
  let field : Nat := bits / Nat.pow 2 52 % Nat.pow 2 11
  let fraction : Nat := bits % Nat.pow 2 52
  if field = 2047 then if fraction = 0 then .infinite neg else .nan
  else if field = 0 then .finite neg fraction (-1074)
  else .finite neg (fraction + Nat.pow 2 52) ((field : Int) - 1075)

/-- The parts of a float. -/
def anatomy (x : Float) : Anatomy := anatomyOfBits x.toBits.toNat

/-- Whether the float is a number and not infinite. -/
def isFinite (x : Float) : Bool :=
  match anatomy x with
  | .finite .. => true
  | _ => false

/-- Whether the float is zero, of either sign. -/
def isZero (x : Float) : Bool :=
  match anatomy x with
  | .finite _ m _ => m == 0
  | _ => false

/-- Whether the float is greater than zero. -/
def isPositive (x : Float) : Bool :=
  match anatomy x with
  | .nan => false
  | .infinite neg => !neg
  | .finite neg m _ => !neg && m != 0

/-- The float of the bits. -/
def ofBits (bits : Nat) : Float := Float.ofBits (UInt64.ofNat bits)

/-- Positive infinity. -/
def infinity : Float := ofBits (2047 * Nat.pow 2 52)

/-- Negative infinity. -/
def negInfinity : Float := ofBits (Nat.pow 2 63 + 2047 * Nat.pow 2 52)

/-- No number. -/
def nan : Float := ofBits (2047 * Nat.pow 2 52 + Nat.pow 2 51)

/-- `num / den` scaled by `2^(-q)`, as a fraction. -/
def scaled (num den : Nat) (q : Int) : Nat × Nat :=
  if 0 ≤ q then (num, den * Nat.pow 2 q.toNat) else (num * Nat.pow 2 (-q).toNat, den)

/-- The quotient rounded to the nearest number, a tie to the even one. -/
def roundHalfEven (num den : Nat) : Nat :=
  let m := num / den
  let r := num % den
  if 2 * r > den ∨ (2 * r = den ∧ m % 2 = 1) then m + 1 else m

/-- The exponent `q ≥ -1074` that gives `num / den` a 53-bit mantissa, or the least one. -/
def exponentFor (num den : Nat) : Int :=
  let guess : Int := (num.log2 : Int) - den.log2 - 52
  let (n, d) := scaled num den guess
  max (if n / d < Nat.pow 2 52 then guess - 1 else guess) (-1074)

/-- The bits of the float nearest to `num / den`. A mantissa that rounds up to the next power of two
carries into the exponent field, where it belongs. -/
def nearestBits (num den : Nat) : Nat :=
  if num = 0 then 0
  else
    let q := exponentFor num den
    let (n, d) := scaled num den q
    let m := roundHalfEven n d
    let bits := if m < Nat.pow 2 52 then m else ((q + 1074).toNat * Nat.pow 2 52) + m
    min bits (2047 * Nat.pow 2 52)

/-- The float nearest to `digits · 10^exponent`, negated if `neg`. Exponents far outside the range of
floats are answered without computing the power. -/
def ofDecimal (neg : Bool) (digits : Nat) (exponent : Int) : Float :=
  let sign := if neg then Nat.pow 2 63 else 0
  let size : Int := (Nat.toDigits 10 digits).length + exponent
  let bits :=
    if digits = 0 ∨ size < -330 then 0
    else if size > 320 then 2047 * Nat.pow 2 52
    else if 0 ≤ exponent then nearestBits (digits * Nat.pow 10 exponent.toNat) 1
    else nearestBits digits (Nat.pow 10 (-exponent).toNat)
  ofBits (sign + bits)

/-- The integer that a finite float is, if its fractional part is zero. -/
def toInt? (x : Float) : Option Int :=
  match anatomy x with
  | .finite neg m q =>
    let whole : Option Nat :=
      if 0 ≤ q then some (m * Nat.pow 2 q.toNat)
      else if m % Nat.pow 2 (-q).toNat = 0 then some (m / Nat.pow 2 (-q).toNat) else none
    whole.map fun n => if neg then -(n : Int) else n
  | _ => none

end RemoteSigner.Binary64
