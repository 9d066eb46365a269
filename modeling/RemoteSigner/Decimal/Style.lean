import RemoteSigner.Decimal.Shortest

/-!
# Float text

A float is written with its shortest digits. A `FloatStyle` says which magnitudes are written positionally
and how an exponent looks; the two styles of this library are values of it.
-/

namespace RemoteSigner

/-- The decisions that a way of writing floats takes. -/
structure FloatStyle where
  /-- The least and the greatest exponent of ten that are written positionally. -/
  least : Int
  greatest : Int
  /-- The number of digits that an exponent has at least. -/
  exponentWidth : Nat
  nan : List Char
  infinity : List Char
  deriving Repr

namespace FloatStyle

/-- The way JSON texts write floats: `0.00001`, `1e-6`, `1e+16`. -/
def json : FloatStyle := ⟨-5, 15, 1, "NaN".toList, "Infinity".toList⟩

/-- The way settings are shown: `0.0001`, `1e-05`, `1e+16`. -/
def plain : FloatStyle := ⟨-4, 15, 2, "nan".toList, "inf".toList⟩

/-- `n` in decimal. -/
def decimalDigits (n : Nat) : List Char := Nat.toDigits 10 n

/-- The list without its trailing zeros, of which at least one digit is left. -/
def trimZeros (ds : List Char) : List Char :=
  match (ds.reverse.dropWhile (· == '0')).reverse with
  | [] => ['0']
  | kept => kept

/-- Digits `ds`, the first of which has weight `10^first`, in positional notation. -/
def positional (ds : List Char) (first : Int) : List Char :=
  if first < 0 then '0' :: '.' :: (List.replicate (-first - 1).toNat '0' ++ ds)
  else
    let n := first.toNat + 1
    let whole := ds.take n ++ List.replicate (n - ds.length) '0'
    whole ++ '.' :: (if ds.length ≤ n then ['0'] else ds.drop n)

/-- Digits `ds`, the first of which has weight `10^first`, with an exponent. -/
def exponential (style : FloatStyle) (ds : List Char) (first : Int) : List Char :=
  let size := decimalDigits first.natAbs
  let exponent := List.replicate (style.exponentWidth - size.length) '0' ++ size
  let mantissa :=
    match ds with
    | [d] => [d]
    | d :: rest => d :: '.' :: rest
    | [] => ['0']
  mantissa ++ 'e' :: (if first < 0 then '-' else '+') :: exponent

/-- A positive finite float `m · 2^q`. -/
def magnitudeChars (style : FloatStyle) (m : Nat) (q : Int) : List Char :=
  let d := Shortest.decimal m q
  let all := decimalDigits d.digits
  let first : Int := d.exponent + all.length - 1
  let ds := trimZeros all
  if style.least ≤ first ∧ first ≤ style.greatest then positional ds first
  else exponential style ds first

/-- The float in this style. -/
def chars (style : FloatStyle) (x : Float) : List Char :=
  match Binary64.anatomy x with
  | .nan => style.nan
  | .infinite neg => if neg then '-' :: style.infinity else style.infinity
  | .finite neg m q =>
    let body := if m = 0 then ['0', '.', '0'] else style.magnitudeChars m q
    if neg then '-' :: body else body

/-- The float in this style, as a string. -/
def text (style : FloatStyle) (x : Float) : String := String.ofList (style.chars x)

end FloatStyle

end RemoteSigner
