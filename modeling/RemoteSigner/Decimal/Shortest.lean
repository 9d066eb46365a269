import RemoteSigner.Decimal.Binary64

/-!
# Shortest digits

The decimal with the fewest digits that reads back as a given float, and of those the nearest. On the
grid of `n`-digit decimals only the two neighbours of the value can read back, so each grid is tried in
turn; seventeen digits always do.
-/

namespace RemoteSigner.Shortest

/-- A positive decimal `digits · 10^exponent`. -/
structure Decimal where
  digits : Nat
  exponent : Int
  deriving DecidableEq, Repr

/-- A closed or open interval of fractions around `value`, all over the denominator `den`. -/
structure Span where
  low : Nat
  value : Nat
  high : Nat
  den : Nat
  closed : Bool
  deriving Repr

/-- The reals that round to the float `m · 2^q`. Below a power of two the gap is half as wide. -/
def span (m : Nat) (q : Int) : Span :=
  let low := if m = Nat.pow 2 52 ∧ q ≠ -1074 then 4 * m - 1 else 4 * m - 2
  let (up, den) := if 2 ≤ q then (Nat.pow 2 (q - 2).toNat, 1) else (1, Nat.pow 2 (2 - q).toNat)
  ⟨low * up, 4 * m * up, (4 * m + 2) * up, den, m % 2 == 0⟩

/-- Whether `c / scale` lies in the span. -/
def Span.contains (s : Span) (c scale : Nat) : Bool :=
  let x := c * s.den
  if s.closed then s.low * scale ≤ x && x ≤ s.high * scale
  else s.low * scale < x && x < s.high * scale

/-- The exponent of ten of the first digit of `num / den`. -/
def magnitude (num den : Nat) : Int :=
  if den ≤ num then (Nat.toDigits 10 (num / den)).length - 1
  else
    let n := (Nat.toDigits 10 (den / num)).length
    if num * Nat.pow 10 (n - 1) ≥ den then 1 - (n : Int) else -(n : Int)

/-- The neighbours of the value on the grid of `n`-digit decimals: the one that reads back, the nearer
if both do, and of two equally near the even one. -/
def onGrid (s : Span) (first : Int) (n : Nat) : Option Decimal :=
  let power : Int := n - 1 - first
  let (num, den, scale, shrink) :=
    if 0 ≤ power then (s.value * Nat.pow 10 power.toNat, s.den, Nat.pow 10 power.toNat, 1)
    else (s.value, s.den * Nat.pow 10 (-power).toNat, 1, Nat.pow 10 (-power).toNat)
  let below := num / den
  let reads (c : Nat) : Bool := s.contains (c * shrink) scale
  let twice := 2 * (num % den)
  let nearBelow := twice < den || (twice == den && below % 2 == 0)
  match reads below, reads (below + 1) with
  | true, true => some ⟨if nearBelow then below else below + 1, -power⟩
  | true, false => some ⟨below, -power⟩
  | false, true => some ⟨below + 1, -power⟩
  | false, false => none

/-- The shortest decimal that reads back as the positive float `m · 2^q`. -/
def decimal (m : Nat) (q : Int) : Decimal :=
  let s := span m q
  let first := magnitude s.value s.den
  ((List.range 17).findSome? fun i => onGrid s first (i + 1)).getD ⟨m, q⟩

end RemoteSigner.Shortest
