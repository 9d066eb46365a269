import Mathlib
import RemoteSigner.Channel.Mock

/-!
# Peers that answer every frame

The peer of a channel answers every frame that the channel accepts with one message, in order (`Peer`).
Such a peer is whoever injects the answers into a mock channel that gives none by itself (`Peer.mock`).
-/

namespace RemoteSigner

variable {κ : Type}

/-- A peer that answers every frame with one message, in order. -/
structure Peer (channel : Channel κ) where
  /-- In the state, these frames have been accepted, and so many answers have been received. -/
  At : κ → List Text → Nat → Prop
  /-- The answer to the last of the frames. -/
  answer : List Text → Message
  send_ok : ∀ {s frames n frame}, At s frames n → (channel.send frame s).result = .ok () →
    At (channel.send frame s).state (frames ++ [frame]) n
  send_error : ∀ {s frames n frame f}, At s frames n → (channel.send frame s).result = .error f →
    At (channel.send frame s).state frames n
  receive_message : ∀ {s frames n m}, At s frames n →
    (channel.receive false s).result = some (.ok (some m)) →
    At (channel.receive false s).state frames (n + 1) ∧ n < frames.length ∧
      m = answer (frames.take (n + 1))
  receive_other : ∀ {s frames n r}, At s frames n → (channel.receive false s).result = some r →
    (∀ m, r ≠ .ok (some m)) → At (channel.receive false s).state frames n
  close : ∀ {s frames n}, At s frames n → At (channel.close s).state frames n

/-- The fault is one of a client's own that does not end its connection. -/
def Fault.isMinor : Fault → Bool
  | .client origin _ => !origin.isTerminal
  | _ => false

/-- The channel fails as channels do, and with no fault of a client that has a connection to go on with. -/
structure Peer.RaisesNoMinorFault {channel : Channel κ} (peer : Peer channel) : Prop where
  send : ∀ {s frames n frame f}, peer.At s frames n → (channel.send frame s).result = .error f →
    f.isMinor = false
  receive : ∀ {s frames n f}, peer.At s frames n →
    (channel.receive false s).result = some (.error f) → f.isMinor = false
  close : ∀ {s frames n f}, peer.At s frames n → (channel.close s).result = .error f →
    f.isMinor = false

/-- The peer on a channel with a property that every operation preserves. -/
def Peer.keeping {channel : Channel κ} (peer : Peer channel) (P : κ → Prop)
    (hsend : ∀ {s frames n} frame, peer.At s frames n → P s → P (channel.send frame s).state)
    (hreceive : ∀ {s frames n}, peer.At s frames n → P s → P (channel.receive false s).state)
    (hclose : ∀ {s frames n}, peer.At s frames n → P s → P (channel.close s).state) :
    Peer channel where
  At s frames n := peer.At s frames n ∧ P s
  answer := peer.answer
  send_ok h hr := ⟨peer.send_ok h.1 hr, hsend _ h.1 h.2⟩
  send_error h hr := ⟨peer.send_error h.1 hr, hsend _ h.1 h.2⟩
  receive_message h hr :=
    have hmessage := peer.receive_message h.1 hr
    ⟨⟨hmessage.1, hreceive h.1 h.2⟩, hmessage.2⟩
  receive_other h hr hother := ⟨peer.receive_other h.1 hr hother, hreceive h.1 h.2⟩
  close h := ⟨peer.close h.1, hclose h.1 h.2⟩

/-! ## The mock channel -/

/-- The answers to frames, one to each. -/
def answersTo (answer : List Text → Message) (frames : List Text) : List Message :=
  (List.range frames.length).map fun k => answer (frames.take (k + 1))

theorem answersTo_concat (answer : List Text → Message) (frames : List Text) (frame : Text) :
    answersTo answer (frames ++ [frame]) = answersTo answer frames ++ [answer (frames ++ [frame])] := by
  unfold answersTo
  rw [List.length_append, List.length_singleton, List.range_succ, List.map_append]
  refine congrArg₂ _ (List.map_congr_left fun k hk => ?_) ?_
  · have hlength : k + 1 ≤ frames.length := List.mem_range.mp hk
    rw [List.take_append_of_le_length hlength]
  · rw [List.map_singleton, List.take_of_length_le (by simp)]

theorem answersTo_drop {answer : List Text → Message} {frames : List Text} {n : Nat} {m : Message}
    {rest : List Message} (h : m :: rest <+: (answersTo answer frames).drop n) :
    n < frames.length ∧ m = answer (frames.take (n + 1)) ∧
      rest <+: (answersTo answer frames).drop (n + 1) := by
  obtain ⟨after, hafter⟩ := h
  have hget : (answersTo answer frames)[n]? = some m := by
    rw [← List.head?_drop, ← hafter]
    rfl
  obtain ⟨hn, hm⟩ := List.getElem?_eq_some_iff.mp hget
  have hlength : n < frames.length := by simpa [answersTo] using hn
  refine ⟨hlength, ?_, after, ?_⟩
  · rw [← hm]
    simp [answersTo]
  · rw [← List.tail_drop, ← hafter]
    rfl

/-- The message of a queued item, if it is one. -/
def InboxItem.message? : InboxItem → Option Message
  | message m => some m
  | _ => none

namespace Mock

variable {m : Mock}

/-- A mock channel that gives no answers by itself has no reply to anything. -/
theorem replyTo_of_silent (hresponder : m.responder = none) (hreplies : m.replies = [])
    (command request : Datum) : m.replyTo command request = .ok none := by
  unfold replyTo cannedReply?
  rw [hresponder, hreplies]
  cases command <;> rfl

theorem answer_of_silent [Readers] (hresponder : m.responder = none) (hreplies : m.replies = [])
    (frame : Text) : (m.answer frame).2 = m := by
  unfold answer
  simp only [replyTo_of_silent hresponder hreplies]
  split
  · rfl
  · rfl
  · split <;> rfl
  · rfl

theorem send_of_silent [Readers] (hresponder : m.responder = none) (hreplies : m.replies = [])
    (frame : Text) : ∃ frames, (m.send frame).2 = { m with frames := frames } := by
  unfold send
  split_ifs
  · exact ⟨m.frames, rfl⟩
  · split
    · exact ⟨m.frames, rfl⟩
    · rw [answer_of_silent (m := { m with frames := m.frames ++ [frame] }) hresponder hreplies]
      exact ⟨m.frames ++ [frame], rfl⟩

end Mock

/-- The state of a mock channel that gives no answers by itself: the messages in its queue are the next of
the answers to the frames, after so many were received. -/
structure Mock.Answering (answer : List Text → Message) (m : Mock) (frames : List Text) (n : Nat) :
    Prop where
  responder : m.responder = none
  replies : m.replies = []
  inbox : m.inbox.filterMap InboxItem.message? <+: (answersTo answer frames).drop n

namespace Mock.Answering

variable {answer : List Text → Message} {m : Mock} {frames : List Text} {n : Nat}

theorem send [Readers] (h : m.Answering answer frames n) (frame : Text) :
    (m.send frame).2.Answering answer frames n := by
  obtain ⟨sent, hsent⟩ := send_of_silent h.responder h.replies frame
  rw [hsent]
  exact ⟨h.responder, h.replies, h.inbox⟩

theorem concat (h : m.Answering answer frames n) (frame : Text) :
    m.Answering answer (frames ++ [frame]) n := by
  refine ⟨h.responder, h.replies, h.inbox.trans ?_⟩
  rw [answersTo_concat, List.drop_append]
  exact List.prefix_append _ _

theorem receive_message (h : m.Answering answer frames n) {w : Message}
    (hr : (m.receive false).1 = some (.ok (some w))) :
    (m.receive false).2.Answering answer frames (n + 1) ∧ n < frames.length ∧
      w = answer (frames.take (n + 1)) := by
  have hinbox := h.inbox
  cases hitems : m.inbox with
  | nil =>
    rw [Mock.receive_nil hitems] at hr
    dsimp only at hr
    split_ifs at hr
    cases hr
  | cons item rest =>
    rw [hitems] at hinbox
    rw [Mock.receive_cons hitems] at hr ⊢
    cases item with
    | message w' =>
      cases hr
      obtain ⟨hlength, hw, hrest⟩ := answersTo_drop hinbox
      exact ⟨⟨h.responder, h.replies, hrest⟩, hlength, hw⟩
    | endOfStream => cases hr
    | failure f => cases hr

theorem receive_other (h : m.Answering answer frames n) {r : Reception}
    (hr : (m.receive false).1 = some r) (hother : ∀ w, r ≠ .ok (some w)) :
    (m.receive false).2.Answering answer frames n := by
  have hinbox := h.inbox
  cases hitems : m.inbox with
  | nil =>
    rw [Mock.receive_nil hitems]
    exact h
  | cons item rest =>
    rw [hitems] at hinbox
    rw [Mock.receive_cons hitems] at hr ⊢
    cases item with
    | message w =>
      cases hr
      exact absurd rfl (hother w)
    | endOfStream => exact ⟨h.responder, h.replies, hinbox⟩
    | failure f => exact ⟨h.responder, h.replies, hinbox⟩

theorem close (h : m.Answering answer frames n) : m.close.Answering answer frames n := by
  cases hclosed : m.closed with
  | true =>
    rw [Mock.close_of_closed hclosed]
    exact h
  | false =>
    rw [Mock.close_of_open hclosed]
    refine ⟨h.responder, h.replies, ?_⟩
    show List.filterMap _ (m.inbox ++ [.endOfStream]) <+: _
    have hend : [InboxItem.endOfStream].filterMap InboxItem.message? = [] := rfl
    rw [List.filterMap_append, hend, List.append_nil]
    exact h.inbox

end Mock.Answering

/-- Whoever injects the answers, in order, is a peer of a mock channel. -/
def Peer.mock [Readers] (answer : List Text → Message) : Peer Channel.mock where
  At := Mock.Answering answer
  answer := answer
  send_ok h _ := (h.send _).concat _
  send_error h _ := h.send _
  receive_message h hr := h.receive_message hr
  receive_other h hr hother := h.receive_other hr hother
  close h := h.close

/-! ## A mock channel that fails as channels do -/

/-- The faults that the mock channel was told to fail with are no minor ones. -/
structure Mock.Ordinary (m : Mock) : Prop where
  send : ∀ f, m.sendFault = some f → f.isMinor = false
  receive : ∀ f, .failure f ∈ m.inbox → f.isMinor = false

namespace Mock

variable {m : Mock}

/-- What goes wrong when a mock channel that gives no answers by itself reads a frame. -/
theorem isMinor_of_answer [Readers] (hresponder : m.responder = none) (hreplies : m.replies = [])
    {frame : Text} {f : Fault} (h : (m.answer frame).1 = .error f) : f.isMinor = false := by
  unfold answer at h
  simp only [replyTo_of_silent hresponder hreplies] at h
  split at h
  · cases h
  · cases h
    rfl
  · unfold checkCommand at h
    split at h
    · rename_i hcheck
      split at hcheck <;> cases hcheck <;> cases h <;> rfl
    · cases h
  · cases h

theorem isMinor_of_send [Readers] (hordinary : m.Ordinary) (hresponder : m.responder = none)
    (hreplies : m.replies = []) {frame : Text} {f : Fault} (h : (m.send frame).1 = .error f) :
    f.isMinor = false := by
  unfold send at h
  split_ifs at h
  · cases h
    rfl
  · split at h
    · cases h
      exact hordinary.send _ ‹_›
    · exact isMinor_of_answer (m := { m with frames := m.frames ++ [frame] }) hresponder hreplies h

namespace Ordinary

theorem of_send [Readers] (h : m.Ordinary) (hresponder : m.responder = none) (hreplies : m.replies = [])
    (frame : Text) : (m.send frame).2.Ordinary := by
  obtain ⟨sent, hsent⟩ := send_of_silent hresponder hreplies frame
  rw [hsent]
  exact ⟨h.send, h.receive⟩

theorem of_receive (h : m.Ordinary) : (m.receive false).2.Ordinary := by
  cases hitems : m.inbox with
  | nil =>
    rw [receive_nil hitems]
    exact h
  | cons item rest =>
    rw [receive_cons hitems]
    refine ⟨h.send, fun f hf => h.receive f ?_⟩
    rw [hitems]
    exact List.mem_cons_of_mem _ hf

theorem isMinor_of_receive (h : m.Ordinary) {f : Fault} (hf : (m.receive false).1 = some (.error f)) :
    f.isMinor = false := by
  cases hitems : m.inbox with
  | nil =>
    rw [receive_nil hitems] at hf
    dsimp only at hf
    split_ifs at hf
    cases hf
  | cons item rest =>
    rw [receive_cons hitems] at hf
    cases item with
    | failure g =>
      cases hf
      exact h.receive f (hitems ▸ List.mem_cons_self)
    | message | endOfStream => cases hf

theorem of_close (h : m.Ordinary) : m.close.Ordinary := by
  cases hclosed : m.closed with
  | true =>
    rw [close_of_closed hclosed]
    exact h
  | false =>
    rw [close_of_open hclosed]
    refine ⟨h.send, fun f hf => h.receive f ?_⟩
    simpa using hf

end Ordinary

end Mock

/-- Whoever injects the answers, in order, into a mock channel that fails as channels do. -/
def Peer.ordinaryMock [Readers] (answer : List Text → Message) : Peer Channel.mock :=
  (Peer.mock answer).keeping Mock.Ordinary (fun frame hat h => h.of_send hat.responder hat.replies frame)
    (fun _ h => h.of_receive) (fun _ h => h.of_close)

theorem Peer.ordinaryMock_raisesNoMinorFault [Readers] (answer : List Text → Message) :
    (ordinaryMock answer).RaisesNoMinorFault where
  send h hf := Mock.isMinor_of_send h.2 h.1.responder h.1.replies hf
  receive h hf := h.2.isMinor_of_receive hf
  close _ hf := by cases hf

theorem Peer.ordinaryMock_fresh [Readers] (answer : List Text → Message) :
    (ordinaryMock answer).At (Mock.fresh none) [] 0 :=
  ⟨⟨rfl, rfl, List.nil_prefix⟩, ⟨fun _ h => (nomatch h), fun _ h => (nomatch h)⟩⟩

theorem Peer.ordinaryMock_waiting [Readers] (answer : List Text → Message) (frames : List Text)
    (frame : Text) :
    (ordinaryMock answer).At
      { Mock.fresh none with inbox := [.message (answer (frames ++ [frame]))] }
      (frames ++ [frame]) frames.length := by
  have hlength : (answersTo answer frames).length = frames.length := by simp [answersTo]
  refine ⟨⟨rfl, rfl, ?_⟩, ⟨fun _ h => (nomatch h), fun f hf => ?_⟩⟩
  · rw [answersTo_concat, ← hlength, List.drop_left]
    exact List.prefix_rfl
  · cases List.mem_singleton.mp hf

end RemoteSigner
