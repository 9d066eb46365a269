import RemoteSigner.Json.Basic
import RemoteSigner.Decimal.Binary64
import RemoteSigner.Text.Basic

/-!
# Reading JSON

The reader takes one unit of text after another (a byte or a code point, both as numbers) and either
moves to the next state or is stuck. A text is a JSON text if the reader gets through it and then holds a
finished value. What the values are built of, and the few points in which readers of JSON differ, are
the fields of a `Dialect`; why a text was refused is read off the state in which the reader got stuck.
-/

namespace RemoteSigner.Json

/-- An integer literal has at most this many digits. -/
def maxDigits : Nat := 4300

end Json

/-- What readers of JSON do differently from release to release, or from run to run. -/
class Readers where
  /-- Whether a minus sign takes one of the `Json.maxDigits` places of a number that is read strictly. -/
  countsSign : Bool
  /-- Whether strict reading keeps all entries of an object in which a key is repeated. -/
  keepsRepeats : Bool
  /-- Whether the keys of an object in JSON text that belong to no field are reported first. -/
  strangersFirst : Bool
  /-- Loose reading goes so deep: a container may stand in fewer other containers than this. -/
  looseDepth : Nat
  /-- Nothing that is written is deeper. -/
  roomy : 255 ≤ looseDepth

/-- The readers that are meant where none are named. -/
instance Readers.usual : Readers := ⟨false, false, false, 985, by decide⟩

/-- The places that the sign of a number takes in strict reading. -/
def Readers.signPlaces [Readers] (neg : Bool) : Nat := (countsSign && neg).toNat

namespace Json

/-- What the reader builds, and where readers differ. Strings are of type `σ`, values of type `α`. -/
structure Dialect (σ α : Type) where
  /-- A container may stand in fewer other containers than this. -/
  depthLimit : Nat
  /-- Whether the same limit holds for values that are no containers. -/
  limitsScalars : Bool
  /-- Whether a number may have at most `maxDigits` digits before its point, float or not. -/
  limitsFloats : Bool
  /-- Whether a minus sign takes one of the `maxDigits` places. -/
  countsSign : Bool
  /-- Whether an escape may name half a surrogate pair. -/
  loneSurrogates : Bool
  /-- The units that an escaped code point stands for. -/
  spell : Nat → List Nat
  /-- The string of the units between quotes, or the number of units before the first bad one. -/
  complete : List Nat → Except Nat σ
  null : α
  bool : Bool → α
  int : Int → α
  float : Float → α
  text : σ → α
  list : List α → α
  /-- The object of these entries, in the order in which they stand. -/
  object : List (σ × α) → α

/-! ## Units -/

/-- What a unit means outside strings. -/
inductive Mark where
  | blank
  | quote
  | comma
  | colon
  | openList
  | closeList
  | openObject
  | closeObject
  | minus
  | plus
  | point
  | digit (d : Nat)
  | letter (c : Char)
  | other
  deriving DecidableEq, Repr

/-- The meaning of a unit. -/
def mark (u : Nat) : Mark :=
  match Char.ofNat u with
  | ' ' | '\t' | '\n' | '\r' => .blank
  | '"' => .quote
  | ',' => .comma
  | ':' => .colon
  | '[' => .openList
  | ']' => .closeList
  | '{' => .openObject
  | '}' => .closeObject
  | '-' => .minus
  | '+' => .plus
  | '.' => .point
  | c => if c.isDigit then .digit (c.toNat - 48) else if c.isAlpha then .letter c else .other

/-- The value of a hexadecimal digit. -/
def hexDigit? (u : Nat) : Option Nat :=
  if 48 ≤ u ∧ u ≤ 57 then some (u - 48)
  else if 97 ≤ u ∧ u ≤ 102 then some (u - 87)
  else if 65 ≤ u ∧ u ≤ 70 then some (u - 55)
  else none

/-! ## Numbers -/

/-- The part of a number that was read last. -/
inductive Numeral.Phase where
  | sign
  | zero
  | whole
  | point
  | fraction
  | exponent
  | exponentSign
  | exponentDigits
  deriving DecidableEq, Repr

/-- A number of which some digits have been read. -/
structure Numeral where
  neg : Bool
  phase : Numeral.Phase
  /-- All digits before the exponent, as one number. -/
  digits : Nat
  wholeCount : Nat
  fractionCount : Nat
  exponentNeg : Bool
  exponent : Nat
  deriving DecidableEq, Repr

namespace Numeral

/-- A number that starts with a digit. -/
def ofDigit (neg : Bool) (d : Nat) : Numeral :=
  ⟨neg, if d = 0 then .zero else .whole, d, 1, 0, false, 0⟩

/-- A number that starts with a minus sign. -/
def ofMinus : Numeral := ⟨true, .sign, 0, 0, 0, false, 0⟩

/-- Whether what was read is a number. -/
def isComplete (n : Numeral) : Bool :=
  match n.phase with
  | .zero | .whole | .fraction | .exponentDigits => true
  | _ => false

/-- What a unit does to a number. -/
inductive Push where
  | more (n : Numeral)
  | ended
  | wrong

/-- The number with one more unit, if that belongs to it. -/
def push (n : Numeral) (m : Mark) : Push :=
  let exponent (c : Char) : Push :=
    if c = 'e' ∨ c = 'E' then .more { n with phase := .exponent } else .ended
  match n.phase, m with
  | .sign, .digit d => .more (ofDigit true d)
  | .sign, _ => .wrong
  | .zero, .digit _ => .wrong
  | .zero, .point => .more { n with phase := .point }
  | .zero, .letter c => exponent c
  | .whole, .digit d => .more { n with digits := n.digits * 10 + d, wholeCount := n.wholeCount + 1 }
  | .whole, .point => .more { n with phase := .point }
  | .whole, .letter c => exponent c
  | .point, .digit d =>
    .more { n with phase := .fraction, digits := n.digits * 10 + d, fractionCount := 1 }
  | .point, _ => .wrong
  | .fraction, .digit d =>
    .more { n with digits := n.digits * 10 + d, fractionCount := n.fractionCount + 1 }
  | .fraction, .letter c => exponent c
  | .exponent, .digit d => .more { n with phase := .exponentDigits, exponent := d }
  | .exponent, .plus => .more { n with phase := .exponentSign }
  | .exponent, .minus => .more { n with phase := .exponentSign, exponentNeg := true }
  | .exponent, _ => .wrong
  | .exponentSign, .digit d => .more { n with phase := .exponentDigits, exponent := d }
  | .exponentSign, _ => .wrong
  | .exponentDigits, .digit d => .more { n with exponent := n.exponent * 10 + d }
  | _, _ => .ended

variable {σ α : Type}

/-- The places that the digits before the point take, with the sign if that counts. -/
def places (D : Dialect σ α) (n : Numeral) : Nat := n.wholeCount + (D.countsSign && n.neg).toNat

/-- Whether the digits before the point are few enough. -/
def fits (D : Dialect σ α) (n : Numeral) : Bool := !D.limitsFloats || n.places D ≤ maxDigits

/-- Whether the number is an integer with too many digits. -/
def isOversized (D : Dialect σ α) (n : Numeral) : Bool :=
  (n.phase == .zero || n.phase == .whole) && n.places D > maxDigits

/-- The value of a complete number that is not oversized. -/
def value? (D : Dialect σ α) (n : Numeral) : Option α :=
  match n.phase with
  | .zero | .whole =>
    if n.isOversized D then none
    else some (D.int (if n.neg then -(n.digits : Int) else n.digits))
  | .fraction | .exponentDigits =>
    let e : Int := if n.exponentNeg then -(n.exponent : Int) else n.exponent
    some (D.float (Binary64.ofDecimal n.neg n.digits (e - n.fractionCount)))
  | _ => none

end Numeral

/-! ## Strings -/

/-- Where in a string the reader is. -/
inductive Quotation.Phase where
  | plain
  | escape
  /-- After a backslash and a u, with the hexadecimal digits read so far. -/
  | hex (digits : List Nat)
  deriving DecidableEq, Repr

/-- A string of which some units have been read. -/
structure Quotation where
  /-- The units that the string stands for so far, last first. -/
  content : List Nat
  /-- The number of units read since the opening quote. -/
  size : Nat
  /-- An escaped high surrogate that waits for its other half. -/
  high : Option Nat
  /-- Whether the unit read last was the end of a hexadecimal escape. -/
  afterHex : Bool
  phase : Quotation.Phase
  deriving DecidableEq, Repr

namespace Quotation

variable {σ α : Type}

/-- A string of which only the opening quote has been read. -/
def empty : Quotation := ⟨[], 0, none, false, .plain⟩

/-- The content with the code point appended. -/
def append (D : Dialect σ α) (q : Quotation) (code : Nat) : Quotation :=
  { q with content := (D.spell code).reverse ++ q.content }

/-- The string without a waiting surrogate, which then stands alone. -/
def settle? (D : Dialect σ α) (q : Quotation) : Option Quotation :=
  match q.high with
  | none => some q
  | some h => if D.loneSurrogates then some { (q.append D h) with high := none } else none

/-- The character that a backslash and this unit stand for. -/
def shortEscape? (u : Nat) : Option Nat :=
  match Char.ofNat u with
  | '"' => some 34
  | '\\' => some 92
  | '/' => some 47
  | 'b' => some 8
  | 'f' => some 12
  | 'n' => some 10
  | 'r' => some 13
  | 't' => some 9
  | _ => none

/-- The string with an escaped code point that is not the second half of a pair. -/
def pushFresh? (D : Dialect σ α) (q : Quotation) (code : Nat) : Option Quotation :=
  if isHighSurrogate code then some { q with high := some code }
  else if isLowSurrogate code && !D.loneSurrogates then none
  else some (q.append D code)

/-- The string with an escaped code point. -/
def pushEscaped? (D : Dialect σ α) (q : Quotation) (code : Nat) : Option Quotation :=
  match q.high with
  | some h =>
    if isLowSurrogate code then some { (q.append D (joinSurrogates h code)) with high := none }
    else (q.settle? D).bind fun q => q.pushFresh? D code
  | none => q.pushFresh? D code

/-- The string with one more unit, which is not its closing quote. -/
def push? (D : Dialect σ α) (q : Quotation) (u : Nat) : Option Quotation :=
  let q' := { q with size := q.size + 1, afterHex := false }
  match q.phase with
  | .plain =>
    if u = 92 then some { q' with phase := .escape }
    else if u < 0x20 then none
    else (q'.settle? D).map fun q => { q with content := u :: q.content }
  | .escape =>
    if u = 117 then some { q' with phase := .hex [] }
    else do
      let code ← shortEscape? u
      let q ← q'.settle? D
      return { (q.append D code) with phase := .plain }
  | .hex ds => do
    let d ← hexDigit? u
    match ds with
    | [a, b, c] =>
      let q := { q' with phase := .plain, afterHex := true }
      q.pushEscaped? D (((a * 16 + b) * 16 + c) * 16 + d)
    | _ => some { q' with phase := .hex (ds ++ [d]) }

/-- The string between its quotes, or the number of its units before the first bad one. -/
def close (D : Dialect σ α) (q : Quotation) : Option (Except Nat σ) :=
  (q.settle? D).map fun q => D.complete q.content.reverse

end Quotation

/-! ## Values -/

/-- A container that is still open. -/
inductive Frame (σ α : Type) where
  /-- The items so far, last first. -/
  | list (items : List α)
  | object (entries : List (σ × α))
  /-- An object whose entry for `key` has no value yet. -/
  | entry (entries : List (σ × α)) (key : σ)

/-- What the reader waits for or is in the middle of. -/
inductive Focus (σ α : Type) where
  | value
  /-- After the opening bracket of a list. -/
  | firstItem
  /-- After a comma in a list. -/
  | nextItem
  /-- After the opening brace of an object. -/
  | firstKey
  /-- After a comma in an object. -/
  | nextKey
  | colon
  /-- After a value in a container. -/
  | separator
  | finished (v : α)
  | word (spelt : Nat) (left : List Char) (v : α)
  | number (n : Numeral)
  | quoted (asKey : Bool) (q : Quotation)

/-- The open containers, innermost first, and what happens in the innermost. -/
structure State (σ α : Type) where
  stack : List (Frame σ α)
  focus : Focus σ α

namespace State

variable {σ α : Type}

/-- Before the first unit. -/
def initial : State σ α := ⟨[], .value⟩

/-- The state after the value `v` in the innermost of the open containers. -/
def deliver (v : α) : List (Frame σ α) → State σ α
  | [] => ⟨[], .finished v⟩
  | .list items :: outer => ⟨.list (v :: items) :: outer, .separator⟩
  | .entry entries key :: outer => ⟨.object (entries ++ [(key, v)]) :: outer, .separator⟩
  | .object entries :: outer => ⟨.object entries :: outer, .separator⟩

/-- The state after the innermost container closes. -/
def close? (D : Dialect σ α) (m : Mark) : List (Frame σ α) → Option (State σ α)
  | .list items :: outer =>
    if m = .closeList then some (deliver (D.list items.reverse) outer) else none
  | .object entries :: outer =>
    if m = .closeObject then some (deliver (D.object entries) outer) else none
  | _ => none

/-- Whether a container may stand in the open ones. -/
def hasRoom (D : Dialect σ α) (stack : List (Frame σ α)) : Bool := stack.length < D.depthLimit

/-- Whether the unit may start a value in the open containers. -/
def admits (D : Dialect σ α) (stack : List (Frame σ α)) (m : Mark) : Bool :=
  hasRoom D stack || !(D.limitsScalars || m == .openList || m == .openObject)

/-- The word that a letter starts, without that letter, and its value. -/
def wordOf? (D : Dialect σ α) : Char → Option (List Char × α)
  | 't' => some ("rue".toList, D.bool true)
  | 'f' => some ("alse".toList, D.bool false)
  | 'n' => some ("ull".toList, D.null)
  | 'N' => some ("aN".toList, D.float Binary64.nan)
  | 'I' => some ("nfinity".toList, D.float Binary64.infinity)
  | _ => none

/-- The state after the first unit of a value. -/
def start? (D : Dialect σ α) (stack : List (Frame σ α)) (m : Mark) : Option (State σ α) :=
  if admits D stack m then
    match m with
    | .quote => some ⟨stack, .quoted false .empty⟩
    | .openList => some ⟨.list [] :: stack, .firstItem⟩
    | .openObject => some ⟨.object [] :: stack, .firstKey⟩
    | .minus => some ⟨stack, .number .ofMinus⟩
    | .digit d => some ⟨stack, .number (.ofDigit false d)⟩
    | .letter c => (wordOf? D c).map fun (left, v) => ⟨stack, .word 1 left v⟩
    | _ => none
  else none

/-- The state after a unit that follows a value. -/
def follow? (D : Dialect σ α) (s : State σ α) (m : Mark) : Option (State σ α) :=
  match s.focus, s.stack, m with
  | _, _, .blank => some s
  | .separator, .list _ :: _, .comma => some { s with focus := .nextItem }
  | .separator, .object _ :: _, .comma => some { s with focus := .nextKey }
  | .separator, stack, m => close? D m stack
  | _, _, _ => none

/-- The state after the closing quote of a string. -/
def closeQuote? (D : Dialect σ α) (stack : List (Frame σ α)) (asKey : Bool) (q : Quotation) :
    Option (State σ α) :=
  match q.close D, asKey, stack with
  | some (.ok s), false, stack => some (deliver (D.text s) stack)
  | some (.ok s), true, .object entries :: outer => some ⟨.entry entries s :: outer, .colon⟩
  | _, _, _ => none

/-- The state after one more unit; `none` if no JSON text goes on like this. -/
def step? (D : Dialect σ α) (s : State σ α) (u : Nat) : Option (State σ α) :=
  let m := mark u
  match s.focus with
  | .value => if m = .blank then some s else start? D s.stack m
  | .firstItem =>
    if m = .blank then some s
    else if m = .closeList then close? D m s.stack
    else start? D s.stack m
  | .nextItem => if m = .blank then some s else start? D s.stack m
  | .firstKey =>
    if m = .blank then some s
    else if m = .closeObject then close? D m s.stack
    else if m = .quote then some { s with focus := .quoted true .empty }
    else none
  | .nextKey =>
    if m = .blank then some s
    else if m = .quote then some { s with focus := .quoted true .empty }
    else none
  | .colon =>
    if m = .blank then some s else if m = .colon then some { s with focus := .value } else none
  | .separator => s.follow? D m
  | .finished _ => s.follow? D m
  | .word spelt left v =>
    match left with
    | [] => none
    | c :: rest =>
      if u ≠ c.toNat then none
      else if rest.isEmpty then some (deliver v s.stack)
      else some { s with focus := .word (spelt + 1) rest v }
  | .number n =>
    match n.push m with
    | .more n => if n.fits D then some { s with focus := .number n } else none
    | .ended => (n.value? D).bind fun v => (deliver v s.stack).follow? D m
    | .wrong =>
      if n.phase = .sign ∧ m = .letter 'I' then
        some { s with focus := .word 2 "nfinity".toList (D.float Binary64.negInfinity) }
      else none
  | .quoted asKey q =>
    if q.phase = .plain ∧ u = 34 then closeQuote? D s.stack asKey q
    else (q.push? D u).map fun q => { s with focus := .quoted asKey q }

/-- The value, if the text may end here. -/
def value? (D : Dialect σ α) (s : State σ α) : Option α :=
  match s.focus, s.stack with
  | .finished v, [] => some v
  | .number n, [] => n.value? D
  | _, _ => none

end State

/-- Where a reader got stuck: its state and the units it had not taken, none at the end of the text. -/
structure Stuck (σ α : Type) where
  state : State σ α
  rest : List Nat

variable {σ α : Type}

/-- The reader goes through the units. -/
def feed (D : Dialect σ α) : State σ α → List Nat → Except (Stuck σ α) (State σ α)
  | s, [] => .ok s
  | s, u :: rest =>
    match s.step? D u with
    | some s' => feed D s' rest
    | none => .error ⟨s, u :: rest⟩

/-- The value that the units spell. -/
def parse (D : Dialect σ α) (units : List Nat) : Except (Stuck σ α) α :=
  match feed D .initial units with
  | .error stuck => .error stuck
  | .ok s =>
    match s.value? D with
    | some v => .ok v
    | none => .error ⟨s, []⟩

theorem feed_append {D : Dialect σ α} {s t : State σ α} {us : List Nat} (vs : List Nat)
    (h : feed D s us = .ok t) : feed D s (us ++ vs) = feed D t vs := by
  induction us generalizing s with
  | nil => simp_all [feed]
  | cons u us ih =>
    simp only [List.cons_append, feed] at h ⊢
    cases hs : s.step? D u with
    | none => simp [hs] at h
    | some s' => exact ih (by simpa [hs] using h)

end RemoteSigner.Json
