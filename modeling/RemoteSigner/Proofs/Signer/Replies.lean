import Mathlib
import RemoteSigner.Client.Exchange
import RemoteSigner.Proofs.Wire.Acceptance

/-!
# Replies to other commands

A reply says nothing about its command; the reader knows which one it sent. What is accepted as the reply
to one command is refused as the reply to another (`Command.reply_apart`), with one exception: the two
ways to sign report failures alike, and a success without posts (`Command.reply_of_two_commands`).
-/

namespace RemoteSigner

theorem Command.isRecord_reply {c : Command} (hc : c ≠ .address) : c.reply.shape.IsRecord := by
  cases c with
  | address => exact absurd rfl hc
  | sync | sign | transactionData | identity | signWithTransactionData => trivial

section

variable [Readers]

/-! ## Posts -/

/-- A post with its data beside it is no post. -/
theorem transferPost_apart : TransferPost.shape.Apart PostWithData.shape :=
  Shape.apart_of_needs trivial (k := "proof") (by decide) (by decide)

theorem SignResponse.check_posts {j : Json} {r : SignResponse} {r' : SignWithTransactionDataResponse}
    (h : SignResponse.shape.check j = .ok r)
    (h' : SignWithTransactionDataResponse.shape.check j = .ok r') : r = ⟨[]⟩ ∧ r' = ⟨[]⟩ := by
  obtain ⟨es, e, rfl, -, he, hposts⟩ := Shape.check_single_eq_ok.mp h
  obtain ⟨_, e', hes, -, he', hposts'⟩ := Shape.check_single_eq_ok.mp h'
  cases hes
  cases he.symm.trans he'
  obtain ⟨hr, hr'⟩ := transferPost_apart.list hposts hposts'
  exact ⟨congrArg SignResponse.mk hr, congrArg SignWithTransactionDataResponse.mk hr'⟩

/-- A response without posts is the same with and without data. -/
theorem SignResponse.check_empty (j : Json) : SignResponse.shape.check j = .ok ⟨[]⟩ ↔
    SignWithTransactionDataResponse.shape.check j = .ok ⟨[]⟩ := by
  unfold shape SignWithTransactionDataResponse.shape
  rw [Fields.required, Fields.required, Shape.check_single_eq_ok, Shape.check_single_eq_ok]
  simp only [Form.plain, Shape.check_list_nil]

namespace Command

/-! ## Replies apart -/

/-- A key that every reply to the command has, unless the reply is null. -/
def replyKey? : Command → Option String
  | address => some "receiving_key"
  | transactionData => some "data"
  | identity => some "proofs"
  | _ => none

/-- No other reply that is a record has the key. -/
theorem apart_of_replyKey {a b : Command} {k : String} (hk : a.replyKey? = some k) (hab : a ≠ b)
    (hb : b.reply.shape.IsRecord) : a.reply.shape.Apart b.reply.shape := by
  have hneeds : k ∈ a.reply.shape.needs := by
    cases a <;> cases hk <;> decide
  have hnames : k ∉ b.reply.shape.names := by
    cases a <;> cases hk <;> cases b <;> first | exact absurd rfl hab | decide
  exact Shape.apart_of_needs hb hneeds hnames

/-- The outcome of a synchronization needs a checkpoint on either side, which no signature has. -/
theorem sync_apart_sign : sync.reply.shape.Apart sign.reply.shape :=
  Outcome.apart (Shape.apart_of_needs trivial (k := "checkpoint") (by decide) (by decide))
    (Shape.apart_of_needs trivial (k := "checkpoint") (by decide) (by decide))

theorem sync_apart_signWithTransactionData :
    sync.reply.shape.Apart signWithTransactionData.reply.shape :=
  Outcome.apart (Shape.apart_of_needs trivial (k := "checkpoint") (by decide) (by decide))
    (Shape.apart_of_needs trivial (k := "checkpoint") (by decide) (by decide))

/-- The commands that ask for a signature. -/
def Signs (c : Command) : Prop := c = sign ∨ c = signWithTransactionData

/-- Replies to different commands are apart, unless both ask for a signature. -/
theorem reply_apart {a b : Command} (hab : a ≠ b) (hsigns : ¬ (a.Signs ∧ b.Signs)) :
    a.reply.shape.Apart b.reply.shape := by
  cases a with
  | address => exact apart_of_replyKey rfl hab (isRecord_reply hab.symm)
  | transactionData | identity =>
    by_cases hb : b = address
    · subst hb
      exact (apart_of_replyKey rfl hab.symm trivial).symm
    · exact apart_of_replyKey rfl hab (isRecord_reply hb)
  | sync =>
    cases b with
    | sync => exact absurd rfl hab
    | sign => exact sync_apart_sign
    | signWithTransactionData => exact sync_apart_signWithTransactionData
    | address | transactionData | identity => exact (apart_of_replyKey rfl hab.symm trivial).symm
  | sign =>
    cases b with
    | sync => exact sync_apart_sign.symm
    | sign | signWithTransactionData => exact absurd ⟨.inl rfl, by simp [Signs]⟩ hsigns
    | address | transactionData | identity => exact (apart_of_replyKey rfl hab.symm trivial).symm
  | signWithTransactionData =>
    cases b with
    | sync => exact sync_apart_signWithTransactionData.symm
    | sign | signWithTransactionData => exact absurd ⟨.inr rfl, by simp [Signs]⟩ hsigns
    | address | transactionData | identity => exact (apart_of_replyKey rfl hab.symm trivial).symm

/-! ## The two ways to sign -/

/-- The outcomes report the same failure, or success without posts. -/
inductive SameSigning : sign.reply.Value → signWithTransactionData.reply.Value → Prop
  | failure (e : SignError) : SameSigning (.err e) (.err e)
  | empty : SameSigning (.ok ⟨[]⟩) (.ok ⟨[]⟩)

theorem sameSigning_of_check {j : Json} {v : sign.reply.Value}
    {w : signWithTransactionData.reply.Value} (hv : sign.reply.shape.check j = .ok v)
    (hw : signWithTransactionData.reply.shape.check j = .ok w) : SameSigning v w := by
  rcases Outcome.same_side hv hw with ⟨i, a, a', rfl, rfl, ha, ha'⟩ | ⟨i, b, b', rfl, rfl, hb, hb'⟩
  · obtain ⟨rfl, rfl⟩ := SignResponse.check_posts ha ha'
    exact .empty
  · cases hb.symm.trans hb'
    exact .failure b

/-- What is accepted as one of the outcomes is accepted as the other. -/
theorem SameSigning.check_iff {v : sign.reply.Value} {w : signWithTransactionData.reply.Value}
    (h : SameSigning v w) (j : Json) :
    sign.reply.shape.check j = .ok v ↔ signWithTransactionData.reply.shape.check j = .ok w := by
  cases h with
  | failure e => exact Outcome.check_err_congr fun _ => Iff.rfl
  | empty => exact Outcome.check_ok_congr SignResponse.check_empty

/-! ## Content -/

/-- If content is decoded as the replies to two different commands, then both commands ask for a signature,
and the replies are the same failure, or both a success without posts. Such a reply to one of them is
decoded as the same reply to the other. -/
theorem reply_of_two_commands :
    (∀ (c : Content) (a b : Command) (v : a.reply.Value) (w : b.reply.Value), a ≠ b →
      a.reply.shape.decode c = .ok v → b.reply.shape.decode c = .ok w →
      ∃ x y, SameSigning x y ∧
        ((⟨a, v⟩ : Σ a : Command, a.reply.Value) = ⟨sign, x⟩ ∧
            (⟨b, w⟩ : Σ b : Command, b.reply.Value) = ⟨signWithTransactionData, y⟩ ∨
          (⟨a, v⟩ : Σ a : Command, a.reply.Value) = ⟨signWithTransactionData, y⟩ ∧
            (⟨b, w⟩ : Σ b : Command, b.reply.Value) = ⟨sign, x⟩)) ∧
    (∀ (c : Content) x y, SameSigning x y →
      (sign.reply.shape.decode c = .ok x ↔
        signWithTransactionData.reply.shape.decode c = .ok y)) := by
  constructor
  · intro c a b v w hab hv hw
    obtain ⟨j, hj, hv⟩ := (Shape.decode_eq_ok _).mp hv
    obtain ⟨_, hj', hw⟩ := (Shape.decode_eq_ok _).mp hw
    cases hj.symm.trans hj'
    by_cases hsigns : a.Signs ∧ b.Signs
    · obtain ⟨rfl | rfl, rfl | rfl⟩ := hsigns
      · exact absurd rfl hab
      · exact ⟨v, w, sameSigning_of_check hv hw, .inl ⟨rfl, rfl⟩⟩
      · exact ⟨w, v, sameSigning_of_check hw hv, .inr ⟨rfl, rfl⟩⟩
      · exact absurd rfl hab
    · exact absurd hw (reply_apart hab hsigns j v w hv)
  · intro c x y h
    simp only [Shape.decode_eq_ok, h.check_iff]

end Command

end

namespace Command

/-- A failure to sign is the same reply to both commands. -/
theorem reply_of_two_commands_failure :
    let c : Content :=
      .text (.whole "\x7b\"err\":\x7b\"kind\":\"proof_system_error\"\x7d,\"Ok\":null\x7d")
    let o : Outcome SignResponse SignError := .err ⟨.proofSystemError, none, none⟩
    let o' : Outcome SignWithTransactionDataResponse SignError := .err ⟨.proofSystemError, none, none⟩
    sign ≠ signWithTransactionData ∧ sign.reply.shape.decode c = .ok o ∧ SameSigning o o' ∧
      signWithTransactionData.reply.shape.decode c = .ok o' ∧
      ∃ x y, SameSigning x y ∧
        ((⟨sign, o⟩ : Σ a : Command, a.reply.Value) = ⟨sign, x⟩ ∧
            (⟨signWithTransactionData, o'⟩ : Σ b : Command, b.reply.Value) =
              ⟨signWithTransactionData, y⟩ ∨
          (⟨sign, o⟩ : Σ a : Command, a.reply.Value) = ⟨signWithTransactionData, y⟩ ∧
            (⟨signWithTransactionData, o'⟩ : Σ b : Command, b.reply.Value) = ⟨sign, x⟩) := by
  intro c o o'
  obtain ⟨hapart, hsame⟩ := reply_of_two_commands
  have hne : sign ≠ signWithTransactionData := by decide
  have hsign : sign.reply.shape.decode c = .ok o := by decide +kernel
  have hfailure : SameSigning o o' := .failure _
  have hother := (hsame c o o' hfailure).mp hsign
  exact ⟨hne, hsign, hfailure, hother, hapart c _ _ o o' hne hsign hother⟩

end Command

end RemoteSigner
