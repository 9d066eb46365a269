import Mathlib
import RemoteSigner.Proofs.Channel.Frames
import RemoteSigner.Proofs.Session.Prompt

/-!
# Canned replies do not leak

A mock channel with a canned reply to every command answers each typed request by the reply to its command,
and the request receives it at once. So nothing is left in the queue, and each operation ends as the reply
to its own command says, whatever was asked before (`Mock.canned_run`).
-/

namespace RemoteSigner

/-! ## Typed requests -/

/-- A command with a typed request. -/
abbrev TypedRequest : Type := Σ c : Command, c.Request

namespace TypedRequest

def operation (q : TypedRequest) : Operation := .call q.1 (q.1.requestShape.toDatum q.2)

/-- The request has short integers and no lone surrogate. -/
def IsEncodable [Readers] (q : TypedRequest) : Prop :=
  q.1.requestShape.IsShort q.2 ∧ q.1.requestShape.IsWhole q.2

/-- The data are the command and the wire form of the request. -/
def IsRecordedAs (q : TypedRequest) (d : Datum) : Prop :=
  ∃ j, q.1.requestShape.dump q.2 = .ok j ∧ d = .map (q.1.recorded j)

end TypedRequest

/-! ## Canned replies -/

/-- A reply of a command's type is sent as its compact text, whether it is a record or nothing. -/
theorem Mock.toMessage_reply {c : Command} (v : c.reply.Value) :
    toMessage (c.reply.shape.toDatum v) =
      match (c.reply.shape.toDatum v).toJson with
      | .ok j => .ok (.ofText (.whole (j.compact .byName)))
      | .error f => .error (.unwritable f) := by
  cases c with
  | address => cases v <;> rfl
  | sync | sign | transactionData | identity | signWithTransactionData => rfl

theorem Command.depth_reply (c : Command) : c.reply.shape.depth ≤ Datum.maxDepth := by
  cases c <;> decide

/-- A reply of a command's type without lone surrogates can be sent. -/
theorem Mock.exists_toMessage_reply {c : Command} {v : c.reply.Value} (hwhole : c.reply.shape.IsWhole v) :
    ∃ m, toMessage (c.reply.shape.toDatum v) = .ok m := by
  obtain ⟨j, hj⟩ := c.reply.shape.exists_dump hwhole
  rw [toMessage_reply, Shape.toJson_toDatum c.depth_reply, hj]
  exact ⟨_, rfl⟩

/-- A reply that is a value of the command's type is read as that value. -/
theorem Shape.reading_reply [Readers] {c : Command} {v : c.reply.Value} (hshort : c.reply.shape.IsShort v)
    {m : Message} (hm : Mock.toMessage (c.reply.shape.toDatum v) = .ok m) :
    c.reply.shape.reading m = .ok v := by
  rw [Mock.toMessage_reply, Shape.toJson_toDatum c.depth_reply] at hm
  cases hj : c.reply.shape.dump v with
  | error f =>
    rw [hj] at hm
    cases hm
  | ok j =>
    rw [hj] at hm
    cases hm
    have hdecode := c.reply.shape.decode_dumpText c.reply.wellFormed c.reply.depth_le hshort
      (map_eq_ok.mpr ⟨j, hj, rfl⟩)
    show (c.reply.shape.decode (.text (.whole (j.compact .byName)))).mapError _ = .ok v
    rw [hdecode]
    rfl

namespace Mock

variable {replies : Command → Datum} {messages : Command → Message} {m : Mock}

/-- A mock channel on which a reply to every command was set. -/
def withReplies (replies : Command → Datum) : Mock :=
  Command.all.foldl (fun m c => m.setReply (.whole c.label) (replies c)) (fresh none)

/-- The replies to commands are set, and nothing waits in the queue. -/
structure Idle (replies : Command → Datum) (m : Mock) : Prop where
  replies : ∀ c : Command, Entries.get? (.whole c.label) m.replies = some (replies c)
  takes : m.Takes
  inbox : m.inbox = []

theorem idle_withReplies (replies : Command → Datum) : Idle replies (withReplies replies) where
  replies c := by cases c <;> rfl
  takes := ⟨rfl, rfl⟩
  inbox := rfl

section

variable [Readers]

/-- An operation on an idle channel ends as the reply to its command says, leaves the channel idle, and is
recorded. -/
theorem Idle.serve_one (hm : Idle replies m) (hmessages : ∀ c, toMessage (replies c) = .ok (messages c))
    {q : TypedRequest} (hq : q.IsEncodable) :
    ∃ frame d m', ((q.operation.act false).run Channel.mock.recording (m, [])).ended =
        (some (Reply.value q.1 <$> q.1.reply.shape.reading (messages q.1)),
          (m', [.send frame, .receive])) ∧
      Idle replies m' ∧ m'.frames = m.frames ++ [frame] ∧
      Json.readLoose frame = .ok d ∧ q.IsRecordedAs d := by
  obtain ⟨c, p⟩ := q
  obtain ⟨hshort, hwhole⟩ := hq
  obtain ⟨j, hj⟩ := c.requestShape.exists_dump hwhole
  let frame : Text := .whole (c.frameText (j.compact .byName))
  have hsend : Channel.mock.send frame m = ⟨.ok (),
      { m with frames := m.frames ++ [frame], inbox := m.inbox ++ [.message (messages c)] }, []⟩ := by
    show (⟨(m.send frame).1, (m.send frame).2, []⟩ : Effect Mock (Except Fault Unit)) = _
    rw [hm.takes.send_of_canned (hm.replies c) (hmessages c) hshort hj]
  have hreceive : Channel.mock.receive false
      { m with frames := m.frames ++ [frame], inbox := m.inbox ++ [.message (messages c)] } =
        ⟨some (.ok (some (messages c))), { m with frames := m.frames ++ [frame], inbox := [] }, []⟩ := by
    rw [hm.inbox]
    rfl
  refine ⟨frame, .map (c.recorded j), _,
    Operation.ended_prompt (Command.encode_envelope hshort hj) hsend hreceive, ?_, rfl,
    Command.readLoose_frameText hshort hj, j, hj, rfl⟩
  exact ⟨hm.replies, ⟨hm.takes.isOpen, hm.takes.sendFault⟩, rfl⟩

/-- Operations on a channel with canned replies, one after another. -/
theorem serve_withReplies (hmessages : ∀ c, toMessage (replies c) = .ok (messages c))
    {qs : List TypedRequest} (hqs : ∀ q ∈ qs, q.IsEncodable) :
    ∃ done m recorded, serve .mock (qs.map TypedRequest.operation) (withReplies replies) = some (done, m) ∧
      done.map Prod.fst =
        qs.map (fun q => Reply.value q.1 <$> q.1.reply.shape.reading (messages q.1)) ∧
      Idle replies m ∧ m.commands = .ok recorded ∧
      List.Forall₂ TypedRequest.IsRecordedAs qs recorded := by
  induction qs using List.reverseRecOn with
  | nil => exact ⟨[], _, [], rfl, rfl, idle_withReplies replies, rfl, .nil⟩
  | append_singleton qs q ih =>
    obtain ⟨hqs, hq⟩ := List.forall_mem_append.mp hqs
    obtain ⟨done, m, recorded, hserve, hresults, hidle, hcommands, hrecorded⟩ := ih hqs
    obtain ⟨frame, d, m', hrun, hidle', hframes, hread, hd⟩ :=
      hidle.serve_one hmessages (hq q (List.mem_singleton_self q))
    have hoperations : (qs ++ [q]).map TypedRequest.operation =
        qs.map TypedRequest.operation ++ [q.operation] := List.map_append
    have hserve' := serve_concat hserve hrun
    rw [← hoperations] at hserve'
    have hcommands' : m'.commands = .ok (recorded ++ [d]) := by
      unfold commands at hcommands ⊢
      rw [hframes, List.mapM_append, hcommands, List.mapM_cons, List.mapM_nil, hread]
      rfl
    refine ⟨_, m', recorded ++ [d], hserve', ?_, hidle', hcommands',
      List.rel_append hrecorded (.cons hd .nil)⟩
    rw [List.map_append, List.map_append, hresults]
    rfl

/-- Canned replies do not leak. On a mock channel with a reply to every command, each of any typed requests
ends as the reply to its own command is read; after each of them nothing waits in the queue, and what was
recorded are the commands and the requests in order. A reply is read as the value that it is, if it is one of
the command's type with short integers; as a fault of its own if it is not text; and otherwise as the text
is decoded. -/
theorem canned_run (hmessages : ∀ c, toMessage (replies c) = .ok (messages c))
    {qs : List TypedRequest} (hqs : ∀ q ∈ qs, q.IsEncodable) :
    (∀ n, ∃ done m recorded,
      serve .mock ((qs.take n).map TypedRequest.operation) (withReplies replies) = some (done, m) ∧
      done.map Prod.fst =
        (qs.take n).map (fun q => Reply.value q.1 <$> q.1.reply.shape.reading (messages q.1)) ∧
      m.inbox = [] ∧ m.commands = .ok recorded ∧
      List.Forall₂ TypedRequest.IsRecordedAs (qs.take n) recorded) ∧
    ∀ c : Command,
      (∀ v, replies c = c.reply.shape.toDatum v → c.reply.shape.IsShort v →
        c.reply.shape.reading (messages c) = .ok v) ∧
      (∀ w, replies c = .message w → messages c = w) ∧
      (∀ b, replies c = .bytes b → messages c = .ofBytes b) ∧
      (∀ t, replies c = .text t → messages c = .ofText t) ∧
      ((messages c).isText = false →
        c.reply.shape.reading (messages c) = .error (.client .invalidMessageFormat none)) ∧
      ((messages c).isText = true →
        match c.reply.shape.decode (messages c).content with
        | .ok v => c.reply.shape.reading (messages c) = .ok v
        | .error r => c.reply.shape.reading (messages c) =
            .error (.client .serialization (some (.rejected r)))) := by
  constructor
  · intro n
    obtain ⟨done, m, recorded, hserve, hresults, hidle, hcommands, hrecorded⟩ :=
      serve_withReplies hmessages fun q hq => hqs q (List.mem_of_mem_take hq)
    exact ⟨done, m, recorded, hserve, hresults, hidle.inbox, hcommands, hrecorded⟩
  · intro c
    have hmessage : ∀ {d w}, replies c = d → toMessage d = .ok w → messages c = w := by
      rintro _ w rfl hw
      exact Except.ok.inj ((hmessages c).symm.trans hw)
    refine ⟨?_, fun w hw => hmessage hw rfl, fun b hb => hmessage hb rfl, fun t ht => hmessage ht rfl,
      ?_, ?_⟩
    · intro v hv hshort
      exact Shape.reading_reply hshort (hv ▸ hmessages c)
    · intro htext
      rw [Shape.reading, htext]
      rfl
    · intro htext
      rw [Shape.reading, if_pos htext]
      cases c.reply.shape.decode (messages c).content <;> rfl

end

/-- The address is asked for twice, and in between something whose reply is not text. -/
theorem canned_run_address :
    let key : Address := ⟨⟨"key", by decide⟩⟩
    let qs : List TypedRequest := [⟨.address, ()⟩, ⟨.transactionData, ⟨[]⟩⟩, ⟨.address, ()⟩]
    ∃ done m recorded,
      serve .mock (qs.map TypedRequest.operation)
        (withReplies fun c => if c = .address then Address.shape.toDatum key else .bytes []) =
          some (done, m) ∧
      done.map Prod.fst = [.ok (.value .address (some key)),
        .error (.client .invalidMessageFormat none), .ok (.value .address (some key))] ∧
      m.inbox = [] ∧ m.commands = .ok recorded ∧ List.Forall₂ TypedRequest.IsRecordedAs qs recorded := by
  intro key qs
  obtain ⟨text, htext⟩ : ∃ w, toMessage (Address.shape.toDatum key) = .ok w :=
    exists_toMessage_reply (c := .address) (v := some key) ⟨trivial, trivial⟩
  let messages : Command → Message := fun c => if c = .address then text else .ofBytes []
  have hmessages : ∀ c : Command,
      toMessage (if c = .address then Address.shape.toDatum key else .bytes []) = .ok (messages c) := by
    intro c
    cases c with
    | address => exact htext
    | sync | sign | transactionData | identity | signWithTransactionData => rfl
  have hqs : ∀ q ∈ qs, q.IsEncodable := by
    refine List.forall_mem_cons.mpr ⟨⟨trivial, trivial⟩, List.forall_mem_cons.mpr ⟨?_, ?_⟩⟩
    · exact ⟨⟨List.forall_mem_nil _, trivial⟩, ⟨List.forall_mem_nil _, trivial⟩⟩
    · exact List.forall_mem_singleton.mpr ⟨trivial, trivial⟩
  obtain ⟨hrun, hreading⟩ := canned_run hmessages hqs
  obtain ⟨done, m, recorded, hserve, hresults, hinbox, hcommands, hrecorded⟩ := hrun 3
  have haddress := (hreading .address).1 (some key) rfl ⟨trivial, trivial⟩
  have hdata := (hreading .transactionData).2.2.2.2.1 rfl
  refine ⟨done, m, recorded, hserve, ?_, hinbox, hcommands, hrecorded⟩
  rw [hresults]
  show [_ <$> _, _ <$> _, _ <$> _] = _
  rw [haddress, hdata]
  rfl

end Mock

end RemoteSigner
