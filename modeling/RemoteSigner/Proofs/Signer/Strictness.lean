import Mathlib
import RemoteSigner.Proofs.Wire.Strangers
import RemoteSigner.Proofs.Signer.RoundTrip

/-!
# What the exchanged types accept

No exchanged type but the outcomes has a field with a second name, so what is accepted as one of them is what
the grammar of its shape allows (`WireType.hasPlainKeys`). In no exchanged type do two fields have a name in
common, so an entry too many is found where it stands (`WireType.hasDistinctNames`). The one rule about a
record as a whole is the one about the receiver of a transaction (`Transaction.exists_spells_iff`).
-/

namespace RemoteSigner

open Fields

/-! ## Names of fields -/

attribute [simp] Shape.HasPlainKeys Fields.HavePlainKeys Shape.HasDistinctNames Fields.HaveDistinctNames
  Fields.names

namespace Fields

variable {α τ : Type} {name : String} {shape : Shape α} {rest : Fields τ}

@[simp] theorem havePlainKeys_required :
    (required name shape rest).HavePlainKeys ↔ shape.HasPlainKeys ∧ rest.HavePlainKeys := by
  simp [required]

@[simp] theorem havePlainKeys_withFallback {fallback : α} :
    (withFallback name fallback shape rest).HavePlainKeys ↔ shape.HasPlainKeys ∧ rest.HavePlainKeys := by
  simp [withFallback]

@[simp] theorem havePlainKeys_optional :
    (Fields.optional name shape rest).HavePlainKeys ↔ shape.HasPlainKeys ∧ rest.HavePlainKeys := by
  simp [Fields.optional]

@[simp] theorem haveDistinctNames_required :
    (required name shape rest).HaveDistinctNames ↔
      shape.HasDistinctNames ∧ rest.HaveDistinctNames := by
  simp [required]

@[simp] theorem haveDistinctNames_withFallback {fallback : α} :
    (withFallback name fallback shape rest).HaveDistinctNames ↔
      shape.HasDistinctNames ∧ rest.HaveDistinctNames := by
  simp [withFallback]

@[simp] theorem haveDistinctNames_optional :
    (Fields.optional name shape rest).HaveDistinctNames ↔
      shape.HasDistinctNames ∧ rest.HaveDistinctNames := by
  simp [Fields.optional]

@[simp] theorem names_required : (required name shape rest).names = name :: rest.names := rfl

@[simp] theorem names_withFallback {fallback : α} :
    (withFallback name fallback shape rest).names = name :: rest.names := rfl

@[simp] theorem names_optional : (Fields.optional name shape rest).names = name :: rest.names := rfl

end Fields

namespace WireType

/-- The types whose values are a success or a failure. -/
def IsOutcome : WireType → Prop
  | syncOutcome | signOutcome | signWithTransactionDataOutcome => True
  | _ => False

section

attribute [local simp] shape Asset.shape AssetMetadata.shape Checkpoint.shape Address.shape
  TransferPost.shape Outcome.shape SyncRequest.shape BalanceUpdate.shape SyncResponse.shape
  SyncError.shape Transaction.shape SignRequest.shape SignResponse.shape SignError.shape
  TransactionDataRequest.shape TransactionDataResponse.shape VirtualAsset.shape IdentityRequest.shape
  IdentityProof.shape IdentityResponse.shape PostWithData.shape SignWithTransactionDataResponse.shape

/-- Only the sides of an outcome have two names. -/
theorem hasPlainKeys {t : WireType} (h : ¬ t.IsOutcome) : t.shape.HasPlainKeys := by
  cases t <;> simp [IsOutcome] at h ⊢

/-- No name belongs to two fields. -/
theorem hasDistinctNames (t : WireType) : t.shape.HasDistinctNames := by
  cases t <;> simp [FieldKey.spellings]

end

end WireType

/-! ## Transactions -/

namespace Fields

variable {α τ : Type} {name : String} {shape : Shape α} {rest : Fields τ} {es : List (String × Json)}
variable {t : τ}

theorem spell_required [Readers] {a : α} : (required name shape rest).Spell es (a, t) ↔
    (∃ v, Entries.get? name es = some v ∧ shape.Spells v a) ∧ rest.Spell es t := by
  rw [required, Spell]
  refine and_congr_left fun _ => ?_
  have hkey : (⟨name, none⟩ : FieldKey).written = name := rfl
  rw [hkey]
  cases Entries.get? name es <;> simp

/-- A field that may be null is left out or null, or it has a value. -/
theorem spell_optional [Readers] {a : Option α} : (Fields.optional name shape rest).Spell es (a, t) ↔
    ((Shape.nullable shape).Spells ((Entries.get? name es).getD .null) a) ∧ rest.Spell es t := by
  rw [Fields.optional, Spell]
  refine and_congr_left fun _ => ?_
  have hkey : (⟨name, none⟩ : FieldKey).written = name := rfl
  rw [hkey]
  cases Entries.get? name es with
  | some v => rfl
  | none => cases a <;> simp [Shape.Spells]

end Fields

theorem Shape.exists_spells_nullable [Readers] {α : Type} {s : Shape α} {j : Json} {p : Prop} :
    (∃ a, (Shape.nullable s).Spells j a ∧ (a.isSome ↔ p)) ↔
      (j = .null ∨ ∃ a, s.Spells j a) ∧ (j ≠ .null ↔ p) := by
  constructor
  · rintro ⟨a, ha, hp⟩
    cases a with
    | none =>
      obtain rfl : j = .null := ha
      exact ⟨.inl rfl, by simpa using hp⟩
    | some a => exact ⟨.inr ⟨a, ha.2⟩, by simpa [ha.1] using hp⟩
  · rintro ⟨hj, hp⟩
    by_cases hnull : j = .null
    · exact ⟨none, hnull, by simpa [hnull] using hp⟩
    · obtain ⟨a, ha⟩ := hj.resolve_left hnull
      exact ⟨some a, ⟨hnull, ha⟩, by simpa [hnull] using hp⟩

namespace Transaction

theorem exists_build_iff {k : TransactionKind} {a : Asset} {receiver : Option Address} :
    (∃ t, form.build (k, a, receiver, ()) = .ok t) ↔ (receiver.isSome ↔ k = .privateTransfer) := by
  cases k <;> cases receiver <;> simp [form]

/-- The entries are those of a transaction of this kind. -/
structure Spelling [Readers] (k : TransactionKind) (es : List (String × Json)) : Prop where
  known : ∀ name ∈ Entries.keys es, name ∈ ["kind", "asset", "receiver"]
  kind : Entries.get? "kind" es = some (.str k.label)
  asset : ∃ v a, Entries.get? "asset" es = some v ∧ Asset.shape.Spells v a
  receiver : ∀ v, Entries.get? "receiver" es = some v → v = .null ∨ ∃ r, Address.shape.Spells v r
  /-- There is a receiver if the transaction is a private transfer, and only then. -/
  rule : (∃ v, Entries.get? "receiver" es = some v ∧ v ≠ .null) ↔ k = .privateTransfer

theorem exists_receiver_iff [Readers] {es : List (String × Json)} {k : TransactionKind} :
    (∃ r, (Shape.nullable Address.shape).Spells ((Entries.get? "receiver" es).getD .null) r ∧
        (r.isSome ↔ k = .privateTransfer)) ↔
      (∀ v, Entries.get? "receiver" es = some v → v = .null ∨ ∃ r, Address.shape.Spells v r) ∧
        ((∃ v, Entries.get? "receiver" es = some v ∧ v ≠ .null) ↔ k = .privateTransfer) := by
  rw [Shape.exists_spells_nullable]
  cases Entries.get? "receiver" es <;> simp

theorem exists_spells_iff [Readers] {j : Json} :
    (∃ t, shape.Spells j t) ↔ ∃ es k, j = .object es ∧ Spelling k es := by
  have hspell : ∀ es k a r, (required "kind" (.choice TransactionKind.choices) <|
      required "asset" Asset.shape <| Fields.optional "receiver" Address.shape .nil).Spell es
        (k, a, r, ()) ↔
      Entries.get? "kind" es = some (.str (TransactionKind.label k)) ∧
      (∃ v, Entries.get? "asset" es = some v ∧ Asset.shape.Spells v a) ∧
      (Shape.nullable Address.shape).Spells ((Entries.get? "receiver" es).getD .null) r := by
    intro es k a r
    rw [spell_required, spell_required, spell_optional]
    simp [Shape.Spells, Spell, TransactionKind.choices]
  constructor
  · rintro ⟨t, es, rfl, hkeys, ⟨k, a, r, ⟨⟩⟩, hparts, hbuild⟩
    obtain ⟨hkind, ⟨v, hv, ha⟩, hr⟩ := (hspell es k a r).mp hparts
    obtain ⟨hfits, hrule⟩ := exists_receiver_iff.mp ⟨r, hr, exists_build_iff.mp ⟨t, hbuild⟩⟩
    exact ⟨es, k, rfl, hkeys, hkind, ⟨v, a, hv, ha⟩, hfits, hrule⟩
  · rintro ⟨es, k, rfl, hkeys, hkind, ⟨v, a, hv, ha⟩, hfits, hrule⟩
    obtain ⟨r, hr, hrule⟩ := exists_receiver_iff.mpr ⟨hfits, hrule⟩
    obtain ⟨t, ht⟩ := exists_build_iff.mpr hrule
    exact ⟨t, es, rfl, hkeys, (k, a, r, ()), (hspell es k a r).mpr ⟨hkind, ⟨v, hv, ha⟩, hr⟩, ht⟩

end Transaction

/-! ## Strictness -/

namespace WireType

/-- What is accepted as a type that is no outcome is what its grammar allows, as the value it spells, and
every decoded value can be spelled. A transaction has a receiver if it is a private transfer, and only then;
null spells nothing but values that may be null. An entry that belongs to no field, added anywhere to what is
decoded as any type, is the one issue then. -/
theorem accepts_exactly [Readers] :
    (∀ t : WireType, ¬ t.IsOutcome →
      (∀ (j : Json) v, t.shape.accept j = .ok v ↔ t.shape.Spells j v) ∧
      ∀ c v, t.shape.decode c = .ok v → ∃ j, t.shape.dump v = .ok j ∧ t.shape.Spells j v) ∧
    (∀ j : Json, (∃ v, transaction.shape.accept j = .ok v) ↔
      ∃ es k, j = .object es ∧ Transaction.Spelling k es) ∧
    (∀ (α : Type) (s : Shape α), (∃ a, s.Spells .null a) ↔ s.IsNullable) ∧
    ∀ (t : WireType) (c c' : Content) (j j' : Json) (v : t.Value) (k : String) (x : Json)
      (path : List Step), c.readJson = .ok j → c'.readJson = .ok j' → t.shape.decode c = .ok v →
        Json.Inserted k x j j' path → ∃ names, t.shape.namesAt path = some names ∧ (k ∉ names →
          t.shape.decode c' = .error ⟨t.shape.title, [⟨.extra, path ++ [.key (.whole k)]⟩]⟩) := by
  have haccept : ∀ t : WireType, ¬ t.IsOutcome →
      ∀ (j : Json) v, t.shape.accept j = .ok v ↔ t.shape.Spells j v := by
    intro t ht j v
    rw [Shape.accept_eq_ok, t.shape.check_eq_ok_iff (hasPlainKeys ht)]
  refine ⟨fun t ht => ⟨haccept t ht, ?_⟩, ?_, fun α s => s.exists_spells_null_iff, ?_⟩
  · intro c v hdecode
    have hwhole : t.shape.IsWhole v :=
      (t.shape.each_of_decode t.wellFormed hdecode).mono (fun _ _ => trivial) fun _ h => h
    obtain ⟨j, hj⟩ := t.shape.exists_dump hwhole
    exact ⟨j, hj, (t.shape.check_eq_ok_iff (hasPlainKeys ht)).mp (t.shape.check_dump t.wellFormed hj)⟩
  · intro j
    rw [← Transaction.exists_spells_iff]
    exact exists_congr (haccept transaction id j)
  · intro t c c' j j' v k x path hread hread' hdecode hins
    have hcheck : t.shape.check j = .ok v := by
      rw [t.shape.decode_of_readJson hread] at hdecode
      exact t.shape.accept_eq_ok.mp hdecode
    obtain ⟨names, hnames, hfails⟩ :=
      t.shape.check_inserted t.hasDistinctNames hcheck hins
    refine ⟨names, hnames, fun hk => ?_⟩
    rw [t.shape.decode_of_readJson hread', Shape.accept, hfails hk]

/-- An amount is accepted on its own and as a deposit of an outcome; with a stray entry the outcome is not
accepted, and the one issue is that entry of that deposit. -/
theorem accepts_exactly_deposit :
    let amount : List (String × Json) := [("id", .str "dot"), ("value", .int 1)]
    let outcome (deposit : Json) : Json := .object [("Ok", .object [("checkpoint", .object []),
      ("balance_update", .object [("deposit", .list [deposit])])])]
    let content (deposit : Json) : Content := .text (.whole ((outcome deposit).compact .asNull))
    let path : List Step :=
      [.key (.whole "Ok"), .key (.whole "balance_update"), .key (.whole "deposit"), .index 0]
    ¬ asset.IsOutcome ∧ asset.shape.Spells (.object amount) ⟨.whole "dot", 1⟩ ∧
    (∃ v, syncOutcome.shape.decode (content (.object amount)) = .ok v) ∧
    syncOutcome.shape.decode (content (.object (amount ++ [("stray", .null)]))) =
      .error ⟨syncOutcome.shape.title, [⟨.extra, path ++ [.key (.whole "stray")]⟩]⟩ := by
  intro amount outcome content path
  obtain ⟨haccept, -, -, hstray⟩ := accepts_exactly
  have hasset : ¬ asset.IsOutcome := id
  have hexact : ∀ deposit, deposit.Everywhere Json.IsExact → (outcome deposit).Everywhere Json.IsExact := by
    intro deposit h
    simp [outcome, Json.Everywhere, Json.EverywhereEntries, Json.EverywhereItems, Json.IsExact,
      Json.IsOrderly, Entries.keys, h]
  have hread : (content (.object amount)).readJson = .ok (outcome (.object amount)) :=
    Content.readJson_compact .asNull
      (hexact _ ⟨by show ["id", "value"].Nodup; decide, trivial, Json.fewDigits_one, trivial⟩) (by decide)
  have hread' : (content (.object (amount ++ [("stray", .null)]))).readJson =
      .ok (outcome (.object (amount ++ [("stray", .null)]))) :=
    Content.readJson_compact .asNull
      (hexact _ ⟨by show ["id", "value", "stray"].Nodup; decide, trivial, Json.fewDigits_one, trivial,
        trivial⟩) (by decide)
  have hdecode : ∃ v, syncOutcome.shape.decode (content (.object amount)) = .ok v := by
    rw [Shape.decode_of_readJson _ hread]
    exact ⟨_, rfl⟩
  have hins : Json.Inserted "stray" .null (outcome (.object amount))
      (outcome (.object (amount ++ [("stray", .null)]))) path :=
    .entry [] [] List.not_mem_nil <| .entry [("checkpoint", .object [])] [] List.not_mem_nil <|
      .entry [] [] List.not_mem_nil <| .item [] [] <| .here amount []
  obtain ⟨v, hv⟩ := hdecode
  obtain ⟨names, hnames, hfails⟩ := hstray syncOutcome _ _ _ _ v _ _ path hread hread' hv hins
  obtain rfl : ["id", "value"] = names := Option.some.inj hnames
  exact ⟨hasset, ((haccept asset hasset).1 _ _).mp rfl, ⟨v, hv⟩, hfails (by decide)⟩

end WireType

end RemoteSigner
