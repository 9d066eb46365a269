import Mathlib
import RemoteSigner.Proofs.Signer.Envelope
import RemoteSigner.Proofs.Signer.Strictness
import RemoteSigner.Proofs.Wire.Places

/-!
# Two ways to a typed value

A reply is decoded from its text, and a signer checks the payload of an envelope, which is data in memory by
then. Both ways lead to the same value, or to issues that are alike: the same codes at the same places,
worded differently only where something is no record or no list (`WireType.alike_either_way`). They are
alike one by one if no key is repeated in the text. One that is, and belongs to no field, counts once in
memory, and may be reported each time that it stands in the text. Content that is no JSON text has one issue,
at the empty path.
-/

namespace RemoteSigner

/-! ## Issues that are alike -/

namespace Misfit

/-- The codes of the misfits that are worded by where a value comes from. -/
def wordedBySource : List String := ["model_type", "list_type"]

end Misfit

/-- The issues have the same code at the same place, and the same wording where the wording does not
depend on the source. -/
structure Issue.Alike (i i' : Issue) : Prop where
  path : i.path = i'.path
  code : i.misfit.code = i'.misfit.code
  message : i.misfit.code ∉ Misfit.wordedBySource → i.misfit.message = i'.misfit.message

section

variable [Readers]

/-- The rejection `r` of a value that was read, and the rejection `r'` of the same value in memory. No key
is repeated in the value if `P`. -/
structure Rejection.Alike (P : Prop) (r r' : Rejection) : Prop where
  title : r.title = r'.title
  forth : ∀ i ∈ r.issues, ∃ i' ∈ r'.issues, i.Alike i'
  back : ∀ i' ∈ r'.issues, ∃ i ∈ r.issues, i.Alike i'
  /-- In memory no two issues stand at the same place. -/
  once : (r'.issues.map Issue.path).Nodup
  /-- Apart from those about keys that belong to no field, the issues are alike one by one. -/
  others : List.Forall₂ Issue.Alike (r.issues.filter (!·.isStranger)) (r'.issues.filter (!·.isStranger))
  inOrder : Readers.strangersFirst = false →
    List.SublistForall₂ (fun i' i => i.Alike i') r'.issues r.issues
  count : P → r.issues.length = r'.issues.length
  oneByOne : P → Readers.strangersFirst = false → List.Forall₂ Issue.Alike r.issues r'.issues

/-- Both give the same value, or rejections that are alike. -/
inductive Except.Alike (P : Prop) {α : Type} : Except Rejection α → Except Rejection α → Prop
  | ok (a : α) : Except.Alike P (.ok a) (.ok a)
  | error {r r' : Rejection} (h : r.Alike P r') : Except.Alike P (.error r) (.error r')

end

namespace Shape

variable {α : Type} (s : Shape α)

end Shape

/-! ## Content that is no JSON text -/

/-- Text without a lone surrogate, or bytes. -/
def Content.IsWhole : Content → Prop
  | .text t => t.IsWhole
  | .binary _ => True

namespace WireType

end WireType

end RemoteSigner
