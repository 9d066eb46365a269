import RemoteSigner.Wire.Shape

/-!
# What wallet and signer exchange

The requests of a wallet and the replies of its signer. The types admit only what can be meant: an amount
is not negative, a private transfer has a receiver and no other transaction does, and an outcome is a
success or a failure. Text is ragged only in values that did not cross the wire.
-/

namespace RemoteSigner

/-! ## Shared values -/

/-- An amount of one asset. -/
structure Asset where
  id : Text
  value : Nat
  deriving DecidableEq

/-- How amounts of an asset are displayed. -/
structure AssetMetadata where
  decimals : Nat
  symbol : Text
  deriving DecidableEq

/-- The place in the ledger up to which the signer has seen it. -/
structure Checkpoint where
  receiverIndex : List Int
  senderIndex : Int
  deriving DecidableEq

/-- A shielded receiving address. -/
structure Address where
  receivingKey : FilledText
  deriving DecidableEq

/-- A signed transfer, ready for the ledger. -/
structure TransferPost where
  assetId : Option Text
  sources : List Int
  senderPosts : List Text
  receiverPosts : List Text
  sinks : List Int
  proof : Text
  deriving DecidableEq

/-- Success or failure, as reported by the signer itself. -/
inductive Outcome (α β : Type) where
  | ok (value : α)
  | err (error : β)
  deriving DecidableEq

namespace Outcome

variable {α β : Type}

def isOk : Outcome α β → Bool
  | .ok _ => true
  | .err _ => false

/-- The success value, or the failure. -/
def unwrap : Outcome α β → Except β α
  | .ok a => .ok a
  | .err e => .error e

end Outcome

/-! ## Synchronization -/

/-- Ledger data since the signer's last checkpoint. -/
structure SyncRequest where
  originCheckpoint : Checkpoint
  utxoNoteData : List Text
  nullifierData : List Text
  deriving DecidableEq

/-- The changes of balance that a synchronization found. -/
structure BalanceUpdate where
  deposit : List Asset
  withdraw : List Asset
  deriving DecidableEq

structure SyncResponse where
  checkpoint : Checkpoint
  balanceUpdate : BalanceUpdate
  deriving DecidableEq

/-- The signer's checkpoint is not where the request starts. -/
structure SyncError where
  checkpoint : Checkpoint
  deriving DecidableEq

/-! ## Signing -/

inductive TransactionKind where
  | toPrivate
  | privateTransfer
  | toPublic
  deriving DecidableEq

/-- A transaction for the signer to build and prove. -/
inductive Transaction where
  | toPrivate (asset : Asset)
  | privateTransfer (asset : Asset) (receiver : Address)
  | toPublic (asset : Asset)
  deriving DecidableEq

structure SignRequest where
  transaction : Transaction
  metadata : Option AssetMetadata
  deriving DecidableEq

structure SignResponse where
  posts : List TransferPost
  deriving DecidableEq

inductive SignErrorKind where
  | insufficientBalance
  | proofSystemError
  deriving DecidableEq

structure SignError where
  kind : SignErrorKind
  asset : Option Asset
  detail : Option Text
  deriving DecidableEq

/-! ## Transaction data -/

structure TransactionDataRequest where
  posts : List TransferPost
  deriving DecidableEq

/-- The raw data of each post that was asked for; none for a post that is not this signer's. -/
structure TransactionDataResponse where
  data : List (Option HexText)
  deriving DecidableEq

namespace TransactionDataResponse

/-- The position that an index stands for in a list of `n` entries: a negative one counts from the end. -/
def position? (n : Nat) (i : Int) : Option Nat :=
  if 0 ≤ i ∧ i < n then some i.toNat
  else if i < 0 ∧ -(n : Int) ≤ i then some (n + i).toNat
  else none

/-- Why no raw data can be given. -/
inductive RawFault where
  /-- There is no post at the index. -/
  | missingPost (index : Int)
  /-- The entry has a character that is out of place. -/
  | misplaced (offset : Nat)
  deriving DecidableEq, Repr

/-- The wording: for a missing post, the list is shorter, or no list could be so long. -/
def RawFault.message : RawFault → String
  | .missingPost i =>
    let bound : Int := Int.ofNat (Nat.pow 2 63)
    if -bound ≤ i ∧ i < bound then "list index out of range"
    else "cannot fit 'int' into an index-sized integer"
  | .misplaced offset =>
    "non-hexadecimal number found in fromhex() arg at position " ++ toString offset

/-- The raw data of the post at an index; none for a post that is not this signer's. -/
def raw (r : TransactionDataResponse) (i : Int) : Except RawFault (Option Bytes) :=
  match (position? r.data.length i).bind fun p => r.data[p]? with
  | none => .error (.missingPost i)
  | some none => .ok none
  | some (some entry) =>
    match entry.bytes with
    | .ok bytes => .ok (some bytes)
    | .error offset => .error (.misplaced offset)

end TransactionDataResponse

/-! ## Identity -/

/-- An asset under an identifier, to prove who owns an account. -/
structure VirtualAsset where
  identifier : Text
  asset : Asset
  deriving DecidableEq

structure IdentityRequest where
  virtualAssets : List VirtualAsset
  deriving DecidableEq

structure IdentityProof where
  transferPost : TransferPost
  deriving DecidableEq

/-- A proof for each virtual asset; none for one that could not be proven. -/
structure IdentityResponse where
  proofs : List (Option IdentityProof)
  deriving DecidableEq

/-! ## Signing with transaction data -/

structure PostWithData where
  post : TransferPost
  transactionData : HexText
  deriving DecidableEq

structure SignWithTransactionDataResponse where
  posts : List PostWithData
  deriving DecidableEq

abbrev SyncOutcome := Outcome SyncResponse SyncError
abbrev SignOutcome := Outcome SignResponse SignError
abbrev SignWithTransactionDataOutcome := Outcome SignWithTransactionDataResponse SignError

end RemoteSigner
