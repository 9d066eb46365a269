import RemoteSigner.Text.Digit
import RemoteSigner.Text.Quoted
import RemoteSigner.Decimal.Binary64
import RemoteSigner.Json.Loose

/-!
# Numbers in settings

Settings are typed by hand, so their numbers may be surrounded by blanks, use the digits of any script,
and have single underscores between digits.
-/

namespace RemoteSigner.SettingNumber

/-- Digits that may be absent altogether. -/
def digits? (codes : List Nat) : Option (List Nat) :=
  if codes.isEmpty then some [] else groupedDigits? digitValue? false codes

/-- The code of an ASCII letter in lower case. -/
def lower (code : Nat) : Nat := if 65 ≤ code ∧ code ≤ 90 then code + 32 else code

/-- The exponent that follows a mantissa: none, or a letter E and an integer. -/
def exponent? : List Nat → Option Int
  | [] => some 0
  | _ :: rest =>
    let (neg, body) := splitSign rest
    (groupedDigits? digitValue? false body).map fun ds => signed neg (digitsValue ds)

/-- The float that decimal notation without a sign spells. -/
def decimal? (neg : Bool) (codes : List Nat) : Option Float := do
  let mantissa := codes.takeWhile fun c => lower c ≠ 101
  let exponent ← exponent? (codes.drop mantissa.length)
  let whole := mantissa.takeWhile (· ≠ 46)
  let ws ← digits? whole
  let fs ← digits? (mantissa.drop (whole.length + 1))
  if ws.isEmpty && fs.isEmpty then none
  else some (Binary64.ofDecimal neg (digitsValue (ws ++ fs)) (exponent - fs.length))

/-- The float that a text spells. -/
def float? (s : String) : Option Float :=
  let (neg, body) := splitSign (strip isBlank (codesOf s))
  let word := body.map lower
  if word = codesOf "inf" ∨ word = codesOf "infinity" then
    some (if neg then Binary64.negInfinity else Binary64.infinity)
  else if word = codesOf "nan" then some Binary64.nan
  else decimal? neg body

/-- The float that a text spells, or why there is none. -/
def readFloat (s : String) : Except String Float :=
  match float? s with
  | some x => .ok x
  | none => .error ("could not convert string to float: " ++ quoted s)

/-- The wording for a text that is no integer; a long text is shown in part. -/
def notInteger (s : String) : String :=
  "invalid literal for int() with base 10: " ++ String.ofList ((quoted s).toList.take 200)

/-- The integer that a text spells, or why there is none. Digits are counted before what follows them is
looked at. -/
def readInteger (s : String) : Except String Int :=
  let (neg, body) := splitSign (strip isBlank (codesOf s))
  let run := body.takeWhile fun c => (digitValue? c).isSome || c == 95
  match groupedDigits? digitValue? false run with
  | none => .error (notInteger s)
  | some ds =>
    if ds.length > Json.maxDigits then .error (Json.oversizedMessage ds.length)
    else if run.length < body.length then .error (notInteger s)
    else .ok (signed neg (digitsValue ds))

end RemoteSigner.SettingNumber
