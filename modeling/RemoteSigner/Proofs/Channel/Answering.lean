import Mathlib
import RemoteSigner.Proofs.Channel.Frames

/-!
# What a mock channel makes of any frame

A mock channel answers a frame with at most one reply (`Mock.RepliesTo`): the canned one for its command, or
else the one of its responder. On a few frames it chokes (`Mock.Chokes`), after it has recorded them: the
reader gives up on some that are not malformed, and a command that is a list or an object cannot be looked
up among the canned replies. `Mock.Ready.send_exactly` says what becomes of each frame.
-/

namespace RemoteSigner

namespace Mock

variable {m : Mock} {frame : Text} {reply : Datum} {f : Fault}

/-- The channel with more items queued. -/
def queue (m : Mock) (items : List InboxItem) : Mock := { m with inbox := m.inbox ++ items }

@[simp] theorem queue_nil (m : Mock) : m.queue [] = m := by rw [queue, List.append_nil]

theorem cannedReply?_entry (m : Mock) (entries : List (Text × Datum)) :
    m.cannedReply? (entry "command" entries) = some reply ↔
      ∃ command, Entries.get? (.whole "command") entries = some (.text command) ∧
        Entries.get? command m.replies = some reply := by
  unfold entry
  cases hcommand : Entries.get? (.whole "command") entries with
  | none => simp [cannedReply?]
  | some command => cases command <;> simp [cannedReply?]

theorem replyTo_eq_some {command request : Datum} :
    m.replyTo command request = .ok (some reply) ↔ m.cannedReply? command = some reply ∨
      m.cannedReply? command = none ∧
        ∃ respond, m.responder = some respond ∧ respond command request = .ok (some reply) := by
  unfold replyTo
  cases m.cannedReply? command with
  | some reply' => simp
  | none => cases m.responder <;> simp

/-! ## Channels that can answer -/

/-- A channel that takes what is sent, has only replies that can be sent, and whose responder never fails. -/
structure Ready (m : Mock) : Prop extends Takes m where
  canned : ∀ command reply, Entries.get? command m.replies = some reply → ∃ w, toMessage reply = .ok w
  responds : ∀ respond, m.responder = some respond → ∀ command request,
    ∃ reply, respond command request = .ok reply
  response : ∀ respond, m.responder = some respond → ∀ command request reply,
    respond command request = .ok (some reply) → ∃ w, toMessage reply = .ok w

theorem Ready.exists_replyTo (h : m.Ready) (command request : Datum) :
    ∃ reply, m.replyTo command request = .ok reply := by
  unfold replyTo
  split
  · exact ⟨_, rfl⟩
  · split
    · exact h.responds _ ‹_› command request
    · exact ⟨_, rfl⟩

/-! ## Replies -/

section

variable [Readers]

/-- What goes wrong with a frame before there is a reply to it. -/
inductive Chokes (frame : Text) : Fault → Prop
  | oversized {digits : Nat} (hread : Json.readLoose frame = .error (.oversized digits)) :
      Chokes frame (.unreadable (.oversized digits))
  | tooDeep {isObject : Bool} (hread : Json.readLoose frame = .error (.tooDeep isObject)) :
      Chokes frame (.unreadable (.tooDeep isObject))
  | list {entries : List (Text × Datum)} {items : List Datum}
      (hread : Json.readLoose frame = .ok (.map entries))
      (hcommand : Entries.get? (.whole "command") entries = some (.list items)) :
      Chokes frame (.plain .type (some "unhashable type: 'list'") none)
  | object {entries fields : List (Text × Datum)}
      (hread : Json.readLoose frame = .ok (.map entries))
      (hcommand : Entries.get? (.whole "command") entries = some (.map fields)) :
      Chokes frame (.plain .type (some "unhashable type: 'dict'") none)

/-- The reply to a frame: the canned one if its command is text that has one, and otherwise what the
responder replies to it. -/
inductive RepliesTo (m : Mock) (frame : Text) : Datum → Prop
  | canned {entries : List (Text × Datum)} {command : Text} {reply : Datum}
      (hread : Json.readLoose frame = .ok (.map entries))
      (hcommand : Entries.get? (.whole "command") entries = some (.text command))
      (hreply : Entries.get? command m.replies = some reply) : RepliesTo m frame reply
  | response {entries : List (Text × Datum)} {respond : Responder} {reply : Datum}
      (hread : Json.readLoose frame = .ok (.map entries)) (hchokes : ∀ f, ¬ Chokes frame f)
      (hcanned : ∀ command, Entries.get? (.whole "command") entries = some (.text command) →
        Entries.get? command m.replies = none)
      (hresponder : m.responder = some respond)
      (hreply : respond (entry "command" entries) (entry "request" entries) = .ok (some reply)) :
      RepliesTo m frame reply

/-- The reply to a frame, computed. -/
def reply? (m : Mock) (frame : Text) : Option Datum :=
  match Json.readLoose frame with
  | .ok (.map entries) =>
    match checkCommand (entry "command" entries) with
    | .ok () => (m.replyTo (entry "command" entries) (entry "request" entries)).toOption.join
    | .error _ => none
  | _ => none

/-- What is queued when the channel answers a frame. -/
def answerItems (m : Mock) (frame : Text) : List InboxItem :=
  ((m.reply? frame).bind fun reply => (toMessage reply).toOption).toList.map .message

theorem Chokes.answer (h : Chokes frame f) (m : Mock) : m.answer frame = (.error f, m) := by
  unfold Mock.answer
  cases h with
  | oversized hread | tooDeep hread => rw [hread]
  | list hread hcommand | object hread hcommand =>
    rw [hread]
    simp only [entry, hcommand]
    rfl

theorem not_chokes_iff {entries : List (Text × Datum)}
    (hread : Json.readLoose frame = .ok (.map entries)) :
    (∀ f, ¬ Chokes frame f) ↔ checkCommand (entry "command" entries) = .ok () := by
  constructor
  · intro hchokes
    unfold entry
    cases hcommand : Entries.get? (.whole "command") entries with
    | none => rfl
    | some command =>
      cases command with
      | list items => exact (hchokes _ (.list hread hcommand)).elim
      | map fields => exact (hchokes _ (.object hread hcommand)).elim
      | null | bool | int | float | text | bytes | record | message | unknown => rfl
  · intro hcheck f hf
    cases hf with
    | oversized hread' | tooDeep hread' => cases hread.symm.trans hread'
    | list hread' hcommand | object hread' hcommand =>
      cases hread.symm.trans hread'
      rw [entry, hcommand] at hcheck
      cases hcheck

theorem reply?_eq_some_iff : m.reply? frame = some reply ↔
    ∃ entries, Json.readLoose frame = .ok (.map entries) ∧
      checkCommand (entry "command" entries) = .ok () ∧
      m.replyTo (entry "command" entries) (entry "request" entries) = .ok (some reply) := by
  unfold reply?
  constructor
  · intro h
    split at h
    · rename_i entries hread
      split at h
      · rename_i hcheck
        refine ⟨entries, hread, hcheck, ?_⟩
        cases hto : m.replyTo (entry "command" entries) (entry "request" entries) with
        | error f => rw [hto] at h; cases h
        | ok reply' => rw [hto] at h; exact congrArg Except.ok h
      · cases h
    · cases h
  · rintro ⟨entries, hread, hcheck, hto⟩
    simp only [hread, hcheck, hto]
    rfl

theorem reply?_eq_some : m.reply? frame = some reply ↔ m.RepliesTo frame reply := by
  rw [reply?_eq_some_iff]
  constructor
  · rintro ⟨entries, hread, hcheck, hto⟩
    rcases replyTo_eq_some.mp hto with hcanned | ⟨hnone, respond, hresponder, hreply⟩
    · obtain ⟨command, hcommand, hreply⟩ := (m.cannedReply?_entry entries).mp hcanned
      exact .canned hread hcommand hreply
    · refine .response hread ((not_chokes_iff hread).mpr hcheck) (fun command hcommand => ?_) hresponder
        hreply
      rw [entry, hcommand] at hnone
      exact hnone
  · intro h
    cases h with
    | @canned entries command _ hread hcommand hreply =>
      have hcanned := (m.cannedReply?_entry entries).mpr ⟨command, hcommand, hreply⟩
      exact ⟨entries, hread, by rw [entry, hcommand]; rfl, replyTo_eq_some.mpr (.inl hcanned)⟩
    | @response entries respond _ hread hchokes hcanned hresponder hreply =>
      refine ⟨entries, hread, (not_chokes_iff hread).mp hchokes, replyTo_eq_some.mpr (.inr ?_)⟩
      refine ⟨Option.eq_none_iff_forall_ne_some.mpr fun reply' hreply' => ?_, respond, hresponder, hreply⟩
      obtain ⟨command, hcommand, hsome⟩ := (m.cannedReply?_entry entries).mp hreply'
      rw [hcanned command hcommand] at hsome
      cases hsome

/-- Answering a frame queues what the frame is answered with, and nothing else changes. -/
theorem state_answer (m : Mock) (frame : Text) :
    (m.answer frame).2 = m.queue (m.answerItems frame) := by
  unfold answer answerItems reply?
  cases hread : Json.readLoose frame with
  | error f => cases f <;> exact m.queue_nil.symm
  | ok d =>
    cases d with
    | null | bool | int | float | text | bytes | list | record | message | unknown =>
      exact m.queue_nil.symm
    | map entries =>
      simp only
      cases checkCommand (entry "command" entries) with
      | error f => exact m.queue_nil.symm
      | ok =>
        cases m.replyTo (entry "command" entries) (entry "request" entries) with
        | error f => exact m.queue_nil.symm
        | ok reply =>
          cases reply with
          | none => exact m.queue_nil.symm
          | some reply =>
            show (m.inject reply).2 = m.queue ((toMessage reply).toOption.toList.map .message)
            unfold inject
            cases toMessage reply with
            | error f => exact m.queue_nil.symm
            | ok w => rfl

theorem RepliesTo.answer (h : m.RepliesTo frame reply) : m.answer frame = m.inject reply := by
  obtain ⟨entries, hread, hcheck, hto⟩ := reply?_eq_some_iff.mp (reply?_eq_some.mpr h)
  rw [Mock.answer, hread]
  simp only [hcheck, hto]

/-! ## What becomes of a frame -/

namespace Ready

theorem exists_toMessage (h : m.Ready) (hreply : m.RepliesTo frame reply) :
    ∃ w, toMessage reply = .ok w := by
  cases hreply with
  | canned _ _ hreply => exact h.canned _ _ hreply
  | response _ _ _ hresponder hreply => exact h.response _ hresponder _ _ _ hreply

/-- A frame that has no reply and on which the channel does not choke is answered by nothing. -/
theorem answer_nothing (h : m.Ready) (hchokes : ∀ f, ¬ Chokes frame f)
    (hreply : ∀ reply, ¬ m.RepliesTo frame reply) : m.answer frame = (.ok (), m) := by
  unfold Mock.answer
  cases hread : Json.readLoose frame with
  | error f =>
    cases f with
    | malformed => rfl
    | oversized => exact (hchokes _ (.oversized hread)).elim
    | tooDeep => exact (hchokes _ (.tooDeep hread)).elim
  | ok d =>
    cases d with
    | null | bool | int | float | text | bytes | list | record | message | unknown => rfl
    | map entries =>
      have hcheck := (not_chokes_iff hread).mp hchokes
      obtain ⟨reply, hto⟩ := h.exists_replyTo (entry "command" entries) (entry "request" entries)
      simp only [hcheck, hto]
      cases reply with
      | none => rfl
      | some reply =>
        have hsome := reply?_eq_some_iff.mpr ⟨entries, hread, hcheck, hto⟩
        exact (hreply reply (reply?_eq_some.mp hsome)).elim

/-- What becomes of a frame that is sent on a channel that can answer. It is recorded in any case. If the
channel chokes on it then the send fails, after the frame was recorded; if there is a reply to it then
exactly one message is queued, which is that reply; and otherwise nothing else happens. -/
theorem send_exactly (h : m.Ready) (frame : Text) :
    let recorded := { m with frames := m.frames ++ [frame] }
    (∀ f, Chokes frame f → m.send frame = (.error f, recorded)) ∧
    (∀ reply, m.RepliesTo frame reply →
      ∃ w, toMessage reply = .ok w ∧ m.send frame = (.ok (), recorded.put (.message w))) ∧
    ((∀ f, ¬ Chokes frame f) → (∀ reply, ¬ m.RepliesTo frame reply) →
      m.send frame = (.ok (), recorded)) := by
  intro recorded
  -- what is recorded has no part in the answer
  have hrecorded : recorded.Ready := ⟨⟨h.isOpen, h.sendFault⟩, h.canned, h.responds, h.response⟩
  have hreplies : ∀ reply, recorded.RepliesTo frame reply ↔ m.RepliesTo frame reply := fun reply =>
    (reply?_eq_some (m := recorded)).symm.trans (reply?_eq_some (m := m))
  rw [h.send]
  refine ⟨fun f hf => hf.answer recorded, fun reply hreply => ?_, fun hchokes hnone => ?_⟩
  · obtain ⟨w, hw⟩ := h.exists_toMessage hreply
    refine ⟨w, hw, ?_⟩
    rw [((hreplies reply).mpr hreply).answer, inject, hw]
  · exact hrecorded.answer_nothing hchokes fun reply hreply => hnone reply ((hreplies reply).mp hreply)

end Ready

end

/-- A channel with a canned reply to one command is sent that command, one that is a list, and a text that is
no JSON. -/
theorem Ready.send_exactly_list :
    let m := (fresh none).setReply (.whole "sync") (.text (.whole "done"))
    let sync : Text := .whole "\x7b\"command\":\"sync\"\x7d"
    let list : Text := .whole "\x7b\"command\":[]\x7d"
    let bracket : Text := .whole "["
    m.Ready ∧ Chokes list (.plain .type (some "unhashable type: 'list'") none) ∧
      m.send sync = (.ok (), { m with frames := [sync], inbox := [.message (.ofText (.whole "done"))] }) ∧
      m.send list =
        (.error (.plain .type (some "unhashable type: 'list'") none), { m with frames := [list] }) ∧
      m.send bracket = (.ok (), { m with frames := [bracket] }) := by
  intro m sync list bracket
  have hm : m.Ready := by
    refine ⟨⟨rfl, rfl⟩, fun command reply hreply => ?_, nofun, nofun⟩
    unfold m setReply fresh Entries.put Entries.get? at hreply
    split_ifs at hreply
    · cases hreply
      exact ⟨_, rfl⟩
    · cases hreply
  have hsync : Json.readLoose sync = .ok (.map [(.whole "command", .text (.whole "sync"))]) :=
    Json.readLoose_compact (j := .object [("command", .str "sync")]) .byName
      ⟨List.nodup_singleton _, trivial, trivial⟩ (by decide)
  have hlist : Json.readLoose list = .ok (.map [(.whole "command", .list [])]) :=
    Json.readLoose_compact (j := .object [("command", .list [])]) .byName
      ⟨List.nodup_singleton _, ⟨trivial, trivial⟩, trivial⟩ (by decide)
  have hbracket : Json.readLoose bracket = .error (.malformed .expectingValue 1 2 1) := by cbv
  have hchokes : Chokes list (.plain .type (some "unhashable type: 'list'") none) := .list hlist rfl
  obtain ⟨w, hw, hsent⟩ := (hm.send_exactly sync).2.1 _ (.canned hsync rfl rfl)
  obtain rfl := Except.ok.inj hw
  refine ⟨hm, hchokes, hsent, (hm.send_exactly list).1 _ hchokes,
    (hm.send_exactly bracket).2.2 (fun f hf => ?_) fun reply hreply => ?_⟩
  · cases hf <;> cases hbracket.symm.trans ‹_›
  · cases hreply <;> cases hbracket.symm.trans ‹_›

end Mock

end RemoteSigner
