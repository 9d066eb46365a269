import Mathlib
import RemoteSigner.Signer.Shapes
import RemoteSigner.Proofs.Wire.RoundTrip

/-!
# The exchanged types come back from their text

The wire forms of every exchanged type can be read back (`WireType.wellFormed`) and are never nested so
deep that a reader gives up (`WireType.depth_le`). So a value comes back from its text unless there is
ragged text or an oversized integer in it (`WireType.round_trip`).
-/

namespace RemoteSigner

/-! ## Well-formed shapes -/

attribute [simp] Shape.WellFormed Fields.WellFormed Shape.IsNullable Fields.written

namespace Fields

variable {α τ : Type} {name : String} {shape : Shape α} {rest : Fields τ}

@[simp] theorem wellFormed_required [Readers] :
    (required name shape rest).WellFormed ↔ shape.WellFormed ∧ rest.WellFormed := by
  simp [required]

@[simp] theorem wellFormed_withFallback [Readers] {fallback : α} :
    (withFallback name fallback shape rest).WellFormed ↔
      shape.Each Json.FewDigits Text.IsWhole fallback ∧ shape.WellFormed ∧ rest.WellFormed := by
  simp [withFallback]

@[simp] theorem wellFormed_optional [Readers] :
    (Fields.optional name shape rest).WellFormed ↔
      (¬ shape.IsNullable ∧ shape.WellFormed) ∧ rest.WellFormed := by
  simp [Fields.optional, Shape.Each]

@[simp] theorem written_required :
    (required name shape rest).written = name :: rest.written := rfl

@[simp] theorem written_withFallback {fallback : α} :
    (withFallback name fallback shape rest).written = name :: rest.written := rfl

@[simp] theorem written_optional :
    (Fields.optional name shape rest).written = name :: rest.written := rfl

end Fields

/-- Content that is decoded and written anew, if that works. -/
def Shape.rewrite [Readers] {α : Type} (s : Shape α) (c : Content) : Option String :=
  (s.decode c).toOption.bind fun a => (s.dumpText a).toOption

theorem Shape.rewrite_eq_some [Readers] {α : Type} {s : Shape α} {c : Content} {text : String} :
    s.rewrite c = some text ↔ ∃ a, s.decode c = .ok a ∧ s.dumpText a = .ok text := by
  unfold rewrite
  cases hc : s.decode c with
  | error e => simp [Except.toOption]
  | ok a => cases ha : s.dumpText a <;> simp [Except.toOption, ha]

namespace WireType

/-- The wire forms of every exchanged type can be read back. -/
theorem wellFormed [Readers] (t : WireType) : t.shape.WellFormed := by
  cases t <;>
  simp [shape, Asset.shape, AssetMetadata.shape, Checkpoint.shape, Address.shape,
    TransferPost.shape, Outcome.shape, SyncRequest.shape, BalanceUpdate.shape, SyncResponse.shape,
    SyncError.shape, Transaction.shape, SignRequest.shape, SignResponse.shape, SignError.shape,
    TransactionDataRequest.shape, TransactionDataResponse.shape, VirtualAsset.shape,
    IdentityRequest.shape, IdentityProof.shape, IdentityResponse.shape, PostWithData.shape,
    SignWithTransactionDataResponse.shape, Shape.Each, Json.fewDigits_zero, FieldKey.written]

/-- Their nesting is within what a reader allows. -/
theorem depth_le [Readers] (t : WireType) : t.shape.depth ≤ Json.strict.depthLimit := by
  have hdepth : t.shape.depth ≤ 201 := by cases t <;> decide
  exact hdepth

/-! ## Round trips -/

/-- A value comes back from its text if there is no ragged text and no oversized integer in it; with
ragged text it has no text. Whatever content is decoded, the value is without both, and the text it is
written as is read as the same value and written as the same text. -/
theorem round_trip [Readers] (t : WireType) :
    (∀ v, t.shape.IsShort v → t.shape.IsWhole v →
      ∃ text, t.shape.dumpText v = .ok text ∧ t.shape.decode (.text (.whole text)) = .ok v) ∧
    (∀ v, ¬ t.shape.IsWhole v → ∀ text, t.shape.dumpText v ≠ .ok text) ∧
    (∀ c v, t.shape.decode c = .ok v → t.shape.IsShort v ∧ t.shape.IsWhole v ∧
      ∃ text, t.shape.rewrite c = some text ∧ t.shape.decode (.text (.whole text)) = .ok v ∧
        t.shape.rewrite (.text (.whole text)) = some text) := by
  have hback : ∀ v, t.shape.IsShort v → ∀ text, t.shape.dumpText v = .ok text →
      t.shape.decode (.text (.whole text)) = .ok v := fun v hv text =>
    t.shape.decode_dumpText t.wellFormed t.depth_le hv
  refine ⟨?_, ?_, ?_⟩
  · intro v hshort hwhole
    obtain ⟨text, htext⟩ := t.shape.exists_dumpText_iff.mpr hwhole
    exact ⟨text, htext, hback v hshort text htext⟩
  · intro v hragged text htext
    exact hragged (t.shape.exists_dumpText_iff.mp ⟨text, htext⟩)
  · intro c v hc
    have heach := t.shape.each_of_decode t.wellFormed hc
    have hshort : t.shape.IsShort v := heach.mono (fun _ h => h) fun _ _ => trivial
    have hwhole : t.shape.IsWhole v := heach.mono (fun _ _ => trivial) fun _ h => h
    obtain ⟨text, htext⟩ := t.shape.exists_dumpText_iff.mpr hwhole
    have hdecode := hback v hshort text htext
    exact ⟨hshort, hwhole, text, Shape.rewrite_eq_some.mpr ⟨v, hc, htext⟩, hdecode,
      Shape.rewrite_eq_some.mpr ⟨v, hdecode, htext⟩⟩

/-- An amount of nothing comes back from its text, and from the text that this is rewritten to. -/
theorem round_trip_nothing :
    asset.shape.IsShort ⟨.whole "dot", 0⟩ ∧ asset.shape.IsWhole ⟨.whole "dot", 0⟩ ∧
      ∃ text, asset.shape.dumpText ⟨.whole "dot", 0⟩ = .ok text ∧
        asset.shape.decode (.text (.whole text)) = .ok ⟨.whole "dot", 0⟩ ∧
        ∃ text', asset.shape.rewrite (.text (.whole text)) = some text' ∧
          asset.shape.rewrite (.text (.whole text')) = some text' := by
  have hshort : asset.shape.IsShort ⟨.whole "dot", 0⟩ := ⟨trivial, Json.fewDigits_zero, trivial⟩
  have hwhole : asset.shape.IsWhole ⟨.whole "dot", 0⟩ := ⟨rfl, trivial, trivial⟩
  obtain ⟨hforth, -, hback⟩ := round_trip asset
  obtain ⟨text, htext, hdecode⟩ := hforth _ hshort hwhole
  obtain ⟨-, -, text', hrewrite, -, hfixed⟩ := hback _ _ hdecode
  exact ⟨hshort, hwhole, text, htext, hdecode, text', hrewrite, hfixed⟩

/-- An amount whose asset is named by a lone surrogate is a valid value, and has no text. -/
theorem dumpText_surrogate :
    asset.shape.IsShort ⟨.ragged [0xD800], 1⟩ ∧
      ∀ text, asset.shape.dumpText ⟨.ragged [0xD800], 1⟩ ≠ .ok text := by
  exact ⟨⟨trivial, Json.fewDigits_one, trivial⟩, fun text h => nomatch h⟩

end WireType

end RemoteSigner
