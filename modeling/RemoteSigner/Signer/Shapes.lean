import RemoteSigner.Signer.Types

/-!
# Wire shapes of the exchanged types

One shape for each type: the names of its fields in order, which of them may be left out, and what stands
for them then. `WireType` names the types that texts and values can be read as.
-/

namespace RemoteSigner

open Fields

/-- The form of a record on which there is no further rule. -/
def Form.plain {ρ τ : Type} (title : String) (make : τ → ρ) (parts : ρ → τ)
    (make_parts : ∀ r, make (parts r) = r) (parts_make : ∀ t, parts (make t) = t) : Form ρ τ where
  title := title
  build t := .ok (make t)
  parts := parts
  build_parts r := by rw [make_parts]
  parts_of_build t r h := by cases h; exact parts_make t

namespace Asset

def shape : Shape Asset :=
  .record
    (.plain "Asset" (fun (id, value, ()) => ⟨id, value⟩) (fun a => (a.id, a.value, ()))
      (fun _ => rfl) fun _ => rfl)
    (required "id" .text <| required "value" .count .nil)

end Asset

namespace AssetMetadata

def shape : Shape AssetMetadata :=
  .record
    (.plain "AssetMetadata" (fun (decimals, symbol, ()) => ⟨decimals, symbol⟩)
      (fun m => (m.decimals, m.symbol, ())) (fun _ => rfl) fun _ => rfl)
    (required "decimals" .count <| required "symbol" .text .nil)

end AssetMetadata

namespace Checkpoint

def shape : Shape Checkpoint :=
  .record
    (.plain "Checkpoint" (fun (receiver, sender, ()) => ⟨receiver, sender⟩)
      (fun c => (c.receiverIndex, c.senderIndex, ())) (fun _ => rfl) fun _ => rfl)
    (withFallback "receiver_index" [] (.list .integer) <|
      withFallback "sender_index" 0 .integer .nil)

end Checkpoint

namespace Address

def shape : Shape Address :=
  .record
    (.plain "Address" (fun (key, ()) => ⟨key⟩) (fun a => (a.receivingKey, ())) (fun _ => rfl)
      fun _ => rfl)
    (required "receiving_key" .filled .nil)

end Address

namespace TransferPost

def shape : Shape TransferPost :=
  .record
    (.plain "TransferPost"
      (fun (assetId, sources, senderPosts, receiverPosts, sinks, proof, ()) =>
        ⟨assetId, sources, senderPosts, receiverPosts, sinks, proof⟩)
      (fun p => (p.assetId, p.sources, p.senderPosts, p.receiverPosts, p.sinks, p.proof, ()))
      (fun _ => rfl) fun _ => rfl)
    (optional "asset_id" .text <|
      withFallback "sources" [] (.list .integer) <|
      withFallback "sender_posts" [] (.list .text) <|
      withFallback "receiver_posts" [] (.list .text) <|
      withFallback "sinks" [] (.list .integer) <|
      required "proof" .text .nil)

end TransferPost

namespace Outcome

variable {α β : Type}

/-- An outcome has one side: both or neither is none. -/
def form (title : String) : Form (Outcome α β) (Option α × Option β × Unit) where
  title := title
  build
    | (some a, none, ()) => .ok (.ok a)
    | (none, some e, ()) => .ok (.err e)
    | _ => .error "Outcome requires exactly one of 'Ok' or 'Err'"
  parts
    | .ok a => (some a, none, ())
    | .err e => (none, some e, ())
  build_parts r := by cases r <;> rfl
  parts_of_build t r h := by
    obtain ⟨a, e, ⟨⟩⟩ := t
    cases a <;> cases e <;> cases h <;> rfl

/-- The two sides are written under capitalized names, and may be read under the plain ones. -/
def shape (success : Shape α) (failure : Shape β) : Shape (Outcome α β) :=
  .record (form ("Outcome[" ++ success.title ++ ", " ++ failure.title ++ "]"))
    (.cons ⟨"ok", some "Ok"⟩ (some none) (.nullable success) <|
      .cons ⟨"err", some "Err"⟩ (some none) (.nullable failure) .nil)

end Outcome

namespace SyncRequest

def shape : Shape SyncRequest :=
  .record
    (.plain "SyncRequest" (fun (origin, utxo, nullifier, ()) => ⟨origin, utxo, nullifier⟩)
      (fun r => (r.originCheckpoint, r.utxoNoteData, r.nullifierData, ())) (fun _ => rfl)
      fun _ => rfl)
    (required "origin_checkpoint" Checkpoint.shape <|
      withFallback "utxo_note_data" [] (.list .text) <|
      withFallback "nullifier_data" [] (.list .text) .nil)

end SyncRequest

namespace BalanceUpdate

def shape : Shape BalanceUpdate :=
  .record
    (.plain "BalanceUpdate" (fun (deposit, withdraw, ()) => ⟨deposit, withdraw⟩)
      (fun u => (u.deposit, u.withdraw, ())) (fun _ => rfl) fun _ => rfl)
    (withFallback "deposit" [] (.list Asset.shape) <|
      withFallback "withdraw" [] (.list Asset.shape) .nil)

end BalanceUpdate

namespace SyncResponse

def shape : Shape SyncResponse :=
  .record
    (.plain "SyncResponse" (fun (checkpoint, update, ()) => ⟨checkpoint, update⟩)
      (fun r => (r.checkpoint, r.balanceUpdate, ())) (fun _ => rfl) fun _ => rfl)
    (required "checkpoint" Checkpoint.shape <|
      required "balance_update" BalanceUpdate.shape .nil)

end SyncResponse

namespace SyncError

/-- The one kind of synchronization failure. -/
def kind : Choices Unit where
  enumeration := none
  all := [()]
  label _ := "inconsistent_synchronization"
  mem_all _ := by simp
  label_inj _ _ _ := rfl

def shape : Shape SyncError :=
  .record
    (.plain "SyncError" (fun ((), checkpoint, ()) => ⟨checkpoint⟩)
      (fun e => ((), e.checkpoint, ())) (fun _ => rfl) fun _ => rfl)
    (withFallback "kind" () (.choice kind) <|
      required "checkpoint" Checkpoint.shape .nil)

end SyncError

namespace TransactionKind

def all : List TransactionKind := [.toPrivate, .privateTransfer, .toPublic]

def label : TransactionKind → String
  | .toPrivate => "to_private"
  | .privateTransfer => "private_transfer"
  | .toPublic => "to_public"

def choices : Choices TransactionKind where
  enumeration := some "TransactionKind"
  all := all
  label := label
  mem_all k := by cases k <;> simp [all]
  label_inj a b h := by cases a <;> cases b <;> simp [label] at h ⊢

end TransactionKind

namespace Transaction

def kind : Transaction → TransactionKind
  | .toPrivate _ => .toPrivate
  | .privateTransfer _ _ => .privateTransfer
  | .toPublic _ => .toPublic

def asset : Transaction → Asset
  | .toPrivate a => a
  | .privateTransfer a _ => a
  | .toPublic a => a

def receiver? : Transaction → Option Address
  | .privateTransfer _ r => some r
  | _ => none

/-- A receiver is there for a private transfer, and for no other transaction. -/
def form : Form Transaction (TransactionKind × Asset × Option Address × Unit) where
  title := "Transaction"
  build
    | (.privateTransfer, a, some r, ()) => .ok (.privateTransfer a r)
    | (.privateTransfer, _, none, ()) => .error "private_transfer requires a receiver"
    | (.toPrivate, a, none, ()) => .ok (.toPrivate a)
    | (.toPublic, a, none, ()) => .ok (.toPublic a)
    | (k, _, some _, ()) => .error (k.label ++ " does not take a receiver")
  parts t := (t.kind, t.asset, t.receiver?, ())
  build_parts r := by cases r <;> rfl
  parts_of_build t r h := by
    obtain ⟨k, a, receiver, ⟨⟩⟩ := t
    cases k <;> cases receiver <;> cases h <;> rfl

def shape : Shape Transaction :=
  .record form
    (required "kind" (.choice TransactionKind.choices) <|
      required "asset" Asset.shape <|
      optional "receiver" Address.shape .nil)

end Transaction

namespace SignRequest

def shape : Shape SignRequest :=
  .record
    (.plain "SignRequest" (fun (transaction, metadata, ()) => ⟨transaction, metadata⟩)
      (fun r => (r.transaction, r.metadata, ())) (fun _ => rfl) fun _ => rfl)
    (required "transaction" Transaction.shape <|
      optional "metadata" AssetMetadata.shape .nil)

end SignRequest

namespace SignResponse

def shape : Shape SignResponse :=
  .record
    (.plain "SignResponse" (fun (posts, ()) => ⟨posts⟩) (fun r => (r.posts, ())) (fun _ => rfl)
      fun _ => rfl)
    (required "posts" (.list TransferPost.shape) .nil)

end SignResponse

namespace SignErrorKind

def all : List SignErrorKind := [.insufficientBalance, .proofSystemError]

def label : SignErrorKind → String
  | .insufficientBalance => "insufficient_balance"
  | .proofSystemError => "proof_system_error"

def choices : Choices SignErrorKind where
  enumeration := some "SignErrorKind"
  all := all
  label := label
  mem_all k := by cases k <;> simp [all]
  label_inj a b h := by cases a <;> cases b <;> simp [label] at h ⊢

end SignErrorKind

namespace SignError

def shape : Shape SignError :=
  .record
    (.plain "SignError" (fun (kind, asset, detail, ()) => ⟨kind, asset, detail⟩)
      (fun e => (e.kind, e.asset, e.detail, ())) (fun _ => rfl) fun _ => rfl)
    (required "kind" (.choice SignErrorKind.choices) <|
      optional "asset" Asset.shape <|
      optional "detail" .text .nil)

end SignError

namespace TransactionDataRequest

def shape : Shape TransactionDataRequest :=
  .record
    (.plain "TransactionDataRequest" (fun (posts, ()) => ⟨posts⟩) (fun r => (r.posts, ()))
      (fun _ => rfl) fun _ => rfl)
    (required "posts" (.list TransferPost.shape) .nil)

end TransactionDataRequest

namespace TransactionDataResponse

def shape : Shape TransactionDataResponse :=
  .record
    (.plain "TransactionDataResponse" (fun (data, ()) => ⟨data⟩) (fun r => (r.data, ()))
      (fun _ => rfl) fun _ => rfl)
    (required "data" (.list (.nullable .hex)) .nil)

end TransactionDataResponse

namespace VirtualAsset

def shape : Shape VirtualAsset :=
  .record
    (.plain "VirtualAsset" (fun (identifier, asset, ()) => ⟨identifier, asset⟩)
      (fun v => (v.identifier, v.asset, ())) (fun _ => rfl) fun _ => rfl)
    (required "identifier" .text <| required "asset" Asset.shape .nil)

end VirtualAsset

namespace IdentityRequest

def shape : Shape IdentityRequest :=
  .record
    (.plain "IdentityRequest" (fun (assets, ()) => ⟨assets⟩) (fun r => (r.virtualAssets, ()))
      (fun _ => rfl) fun _ => rfl)
    (required "virtual_assets" (.list VirtualAsset.shape) .nil)

end IdentityRequest

namespace IdentityProof

def shape : Shape IdentityProof :=
  .record
    (.plain "IdentityProof" (fun (post, ()) => ⟨post⟩) (fun p => (p.transferPost, ()))
      (fun _ => rfl) fun _ => rfl)
    (required "transfer_post" TransferPost.shape .nil)

end IdentityProof

namespace IdentityResponse

def shape : Shape IdentityResponse :=
  .record
    (.plain "IdentityResponse" (fun (proofs, ()) => ⟨proofs⟩) (fun r => (r.proofs, ()))
      (fun _ => rfl) fun _ => rfl)
    (required "proofs" (.list (.nullable IdentityProof.shape)) .nil)

end IdentityResponse

namespace PostWithData

def shape : Shape PostWithData :=
  .record
    (.plain "PostWithData" (fun (post, data, ()) => ⟨post, data⟩)
      (fun p => (p.post, p.transactionData, ())) (fun _ => rfl) fun _ => rfl)
    (required "post" TransferPost.shape <| required "transaction_data" .hex .nil)

end PostWithData

namespace SignWithTransactionDataResponse

def shape : Shape SignWithTransactionDataResponse :=
  .record
    (.plain "SignWithTransactionDataResponse" (fun (posts, ()) => ⟨posts⟩)
      (fun r => (r.posts, ())) (fun _ => rfl) fun _ => rfl)
    (required "posts" (.list PostWithData.shape) .nil)

end SignWithTransactionDataResponse

/-! ## The types by name -/

/-- The types that texts and values can be read as. -/
inductive WireType where
  | asset
  | assetMetadata
  | checkpoint
  | address
  | transferPost
  | syncRequest
  | balanceUpdate
  | syncResponse
  | syncError
  | transaction
  | signRequest
  | signResponse
  | signError
  | transactionDataRequest
  | transactionDataResponse
  | virtualAsset
  | identityRequest
  | identityProof
  | identityResponse
  | postWithData
  | signWithTransactionDataResponse
  | syncOutcome
  | signOutcome
  | signWithTransactionDataOutcome
  | addressOrNull
  deriving DecidableEq, Repr

namespace WireType

def all : List WireType :=
  [asset, assetMetadata, checkpoint, address, transferPost, syncRequest, balanceUpdate, syncResponse,
    syncError, transaction, signRequest, signResponse, signError, transactionDataRequest,
    transactionDataResponse, virtualAsset, identityRequest, identityProof, identityResponse,
    postWithData, signWithTransactionDataResponse, syncOutcome, signOutcome,
    signWithTransactionDataOutcome, addressOrNull]

/-- The values of the type. -/
abbrev Value : WireType → Type
  | asset => Asset
  | assetMetadata => AssetMetadata
  | checkpoint => Checkpoint
  | address => Address
  | transferPost => TransferPost
  | syncRequest => SyncRequest
  | balanceUpdate => BalanceUpdate
  | syncResponse => SyncResponse
  | syncError => SyncError
  | transaction => Transaction
  | signRequest => SignRequest
  | signResponse => SignResponse
  | signError => SignError
  | transactionDataRequest => TransactionDataRequest
  | transactionDataResponse => TransactionDataResponse
  | virtualAsset => VirtualAsset
  | identityRequest => IdentityRequest
  | identityProof => IdentityProof
  | identityResponse => IdentityResponse
  | postWithData => PostWithData
  | signWithTransactionDataResponse => SignWithTransactionDataResponse
  | syncOutcome => SyncOutcome
  | signOutcome => SignOutcome
  | signWithTransactionDataOutcome => SignWithTransactionDataOutcome
  | addressOrNull => Option Address

/-- The shape of the type. -/
def shape : (t : WireType) → Shape t.Value
  | asset => Asset.shape
  | assetMetadata => AssetMetadata.shape
  | checkpoint => Checkpoint.shape
  | address => Address.shape
  | transferPost => TransferPost.shape
  | syncRequest => SyncRequest.shape
  | balanceUpdate => BalanceUpdate.shape
  | syncResponse => SyncResponse.shape
  | syncError => SyncError.shape
  | transaction => Transaction.shape
  | signRequest => SignRequest.shape
  | signResponse => SignResponse.shape
  | signError => SignError.shape
  | transactionDataRequest => TransactionDataRequest.shape
  | transactionDataResponse => TransactionDataResponse.shape
  | virtualAsset => VirtualAsset.shape
  | identityRequest => IdentityRequest.shape
  | identityProof => IdentityProof.shape
  | identityResponse => IdentityResponse.shape
  | postWithData => PostWithData.shape
  | signWithTransactionDataResponse => SignWithTransactionDataResponse.shape
  | syncOutcome => Outcome.shape SyncResponse.shape SyncError.shape
  | signOutcome => Outcome.shape SignResponse.shape SignError.shape
  | signWithTransactionDataOutcome =>
    Outcome.shape SignWithTransactionDataResponse.shape SignError.shape
  | addressOrNull => .nullable Address.shape

end WireType

end RemoteSigner
