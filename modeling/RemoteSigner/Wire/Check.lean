import RemoteSigner.Wire.Shape
import RemoteSigner.Wire.Source

/-!
# Checking

`Shape.check` turns a value into a typed one or lists everything that is wrong with it: the issues of the
fields in the order of the fields, and then, or first, the entries that belong to no field in the order of
the entries. A rule about the record as a whole is looked at only if there are no such issues. In a record
with a ragged key nothing else is looked at. A ragged value is text like any other; where text has to meet
a condition, it has to be a string first.
-/

namespace RemoteSigner

variable {σ : Type}

namespace FieldKey

/-- The spelling under which the field stands among the entries, and its value. -/
def find? (k : FieldKey) (entries : List (Text × σ)) : Option (String × σ) :=
  k.spellings.findSome? fun s => (Entries.get? (.whole s) entries).map fun v => (s, v)

end FieldKey

/-- The spellings under which the fields stand among the entries. -/
def Fields.spellings {τ : Type} (entries : List (Text × σ)) : Fields τ → List Text
  | .nil => []
  | .cons key _ _ rest =>
    ((key.find? entries).map fun e => Text.whole e.1).toList ++ rest.spellings entries

/-- An issue for each entry that belongs to no field. -/
def strangers (known : List Text) (entries : List (Text × σ)) : List Issue :=
  (entries.filter fun e => !known.contains e.1).map fun e => ⟨.extra, [.key e.1]⟩

/-- The verdict on a record whose fields stand under `known` keys and have a verdict of their own. -/
def judgeEntries {τ : Type} (strangersFirst : Bool) (fields : Verdict τ) (known : List Text)
    (entries : List (Text × σ)) : Verdict τ :=
  if entries.all (·.1.toString?.isSome) then fields.also strangersFirst (strangers known entries)
  else .error [.here .malformedText]

/-- A field's value: what `check` makes of the entry, or the fallback. -/
def checkField {α : Type} (key : FieldKey) (fallback : Option α) (check : σ → Verdict α)
    (entries : List (Text × σ)) : Verdict α :=
  match key.find? entries with
  | some (s, v) => (check v).under (.key (.whole s))
  | none =>
    match fallback with
    | some a => .ok a
    | none => .error [⟨.missing, [.key (.whole key.written)]⟩]

/-- A record of checked parts, unless a rule is broken. -/
def Form.conclude {ρ τ : Type} (form : Form ρ τ) : Verdict τ → Verdict ρ
  | .error issues => .error issues
  | .ok parts =>
    match form.build parts with
    | .ok r => .ok r
    | .error rule => .error [.here (.broken rule)]

/-- A count, from an integer. -/
def checkCount (n : Int) : Except Misfit Nat :=
  if n < 0 then .error .negative else .ok n.toNat

/-- Filled text, from a string. -/
def checkFilled (s : String) : Except Misfit FilledText :=
  if h : s = "" then .error .tooShort else .ok ⟨s, h⟩

/-- Hexadecimal text, from a string. -/
def checkHex (s : String) : Except Misfit HexText :=
  match HexText.ofString? s with
  | some h => .ok h
  | none => .error .notHexPairs

/-- A choice, from its label. -/
def Choices.check {α : Type} (c : Choices α) (s : String) : Except Misfit α :=
  match c.find? s with
  | some a => .ok a
  | none => .error c.misfit

variable [Source σ]

mutual

/-- The typed value that a value stands for, or everything that is wrong with it. -/
def Shape.check {α : Type} : Shape α → σ → Verdict α
  | .integer, v => .ofMisfit (Source.integer v)
  | .count, v => .ofMisfit (Source.integer v >>= checkCount)
  | .text, v => .ofMisfit (Source.text v)
  | .filled, v => .ofMisfit (Source.text v >>= Text.unragged >>= checkFilled)
  | .hex, v => .ofMisfit (Source.text v >>= Text.unragged >>= checkHex)
  | .choice c, v =>
    match Source.word? v with
    | some t => .ofMisfit (t.unragged >>= c.check)
    | none => .error [.here c.misfit]
  | .nullable s, v => if Source.isNull v then .ok none else some <$> s.check v
  | .list s, v =>
    match Source.items v with
    | .ok items => .each 0 (items.map s.check)
    | .error m => .error [.here m]
  | .record form fields, v =>
    match Source.entries form.title v with
    | .ok entries =>
      form.conclude (judgeEntries (Source.strangersFirst σ) (fields.check entries)
        (fields.spellings entries) entries)
    | .error m => .error [.here m]

/-- The field values that entries stand for. -/
def Fields.check {τ : Type} : Fields τ → List (Text × σ) → Verdict τ
  | .nil, _ => .ok ()
  | .cons key fallback shape rest, entries =>
    .both (checkField key fallback shape.check entries) (rest.check entries)

end

/-- The typed value that a value stands for, or its rejection. -/
def Shape.accept {α : Type} (shape : Shape α) (v : σ) : Except Rejection α :=
  match shape.check v with
  | .ok a => .ok a
  | .error issues => .error ⟨shape.title, issues⟩

end RemoteSigner
