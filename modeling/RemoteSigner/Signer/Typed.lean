import RemoteSigner.Signer.Shapes
import RemoteSigner.Signer.Envelope

/-!
# Typed values of any type

A `Target` is what content or data can be read as, and a `Typed` value is the result: a value of one of
the wire types, or an envelope.
-/

namespace RemoteSigner

/-- What content or data can be read as. -/
inductive Target where
  | wire (t : WireType)
  | envelope
  deriving DecidableEq, Repr

/-- A value of one of the targets. -/
inductive Typed where
  | wire (t : WireType) (v : t.Value)
  | envelope (e : Envelope)

namespace Target

variable [Readers]

/-- The typed value that content spells. -/
def decode : Target → Content → Except Rejection Typed
  | wire t, c => .wire t <$> t.shape.decode c
  | envelope, c => .envelope <$> Envelope.decode c

/-- The typed value that data in memory stands for. -/
def accept : Target → Datum → Except Rejection Typed
  | wire t, d => .wire t <$> t.shape.accept d
  | envelope, d => .envelope <$> Envelope.accept id d

end Target

namespace Typed

/-- The value as compact text. -/
def encode : Typed → Except DumpFault String
  | wire t v => t.shape.dumpText v
  | envelope e => e.encode

/-- The value as data in memory. -/
def toDatum : Typed → Datum
  | wire t v => t.shape.toDatum v
  | envelope e => e.toDatum

/-- The error of a failed signature, whichever command asked for it. -/
def signError? : Typed → Option SignError
  | wire .signOutcome (.err e) => some e
  | wire .signWithTransactionDataOutcome (.err e) => some e
  | _ => none

/-- The title of the value's record type, if it is a record. -/
def title? (v : Typed) : Option String :=
  match v.toDatum with
  | .record title _ => some title
  | _ => none

/-- Whether the values are the same: of one type and with the same content. Outcomes of different types
are the same if both report the same failure. -/
def same (v w : Typed) : Bool :=
  (v.signError?.isSome && v.signError? == w.signError?) ||
    (v.title? == w.title? &&
      match v.toDatum.toJson, w.toDatum.toJson with
      | .ok j, .ok k => j.same k
      | _, _ => false)

/-- An outcome's success, or its failure as error texts show it; `none` for other values. -/
def unwrap? : Typed → Option (Except String Typed)
  | wire .syncOutcome o => some (unwrapAs .syncResponse SyncError.shape o)
  | wire .signOutcome o => some (unwrapAs .signResponse SignError.shape o)
  | wire .signWithTransactionDataOutcome o =>
    some (unwrapAs .signWithTransactionDataResponse SignError.shape o)
  | _ => none
where
  unwrapAs {β : Type} (success : WireType) (failure : Shape β) (o : Outcome success.Value β) :
      Except String Typed :=
    match o.unwrap with
    | .ok a => .ok (wire success a)
    | .error e => .error ("Signer returned an error: " ++ failure.outline e)

end Typed

end RemoteSigner
