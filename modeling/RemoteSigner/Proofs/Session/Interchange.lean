import Mathlib
import RemoteSigner.Channel.Script
import RemoteSigner.Proofs.Channel.Frames
import RemoteSigner.Proofs.Session.Prompt

/-!
# A mock channel in place of a connection

What comes in is given by a script. A mock channel is loaded with it (`Inbound.load`); a connection plays it
(`Connection.Plays`), raising faults of its own. To a caller the two are the same: operations one after
another end alike, send the same frames and use up as much of the script (`Operation.interchangeable`).
-/

namespace RemoteSigner

variable {κ α β : Type}

/-! ## Scripts -/

/-- Something that comes in. -/
inductive Inbound where
  | text (t : Text)
  | binary (b : Bytes)
  /-- The peer closes in good order. -/
  | closed
  /-- The transport fails with this message. -/
  | failure (message : String)

namespace Inbound

/-- What is queued on a mock channel for it. -/
def item : Inbound → InboxItem
  | text t => .message (.ofText t)
  | binary b => .message (.ofBytes b)
  | closed => .endOfStream
  | failure message => .failure (.transport (some message) none)

/-- The mock channel after it has come in. -/
def load (m : Mock) : Inbound → Mock
  | text t => (m.inject (.text t)).2
  | binary b => (m.inject (.bytes b)).2
  | closed => m.endStream
  | failure message => m.failReceive message

theorem load_eq (m : Mock) (e : Inbound) : load m e = m.put e.item := by
  cases e <;> rfl

theorem foldl_load (script : List Inbound) (m : Mock) :
    script.foldl load m = { m with inbox := m.inbox ++ script.map item } := by
  induction script generalizing m with
  | nil => simp
  | cons e rest ih =>
    rw [List.foldl_cons, ih, load_eq]
    simp [Mock.put]

/-- What a connection gives when it comes in. A failure is one that the channel reports with the message. -/
inductive Arises : Inbound → Except Fault Content → Prop
  | text (t : Text) : Arises (.text t) (.ok (.text t))
  | binary (b : Bytes) : Arises (.binary b) (.ok (.binary b))
  | closed {c : Closure} (hc : c.clean = true) : Arises .closed (.error (.closed c))
  | abnormal {c : Closure} (hc : c.clean = false) {message : String}
      (h : WebSocket.receiveFault (.closed c) = .transport (some message) (some (.closed c))) :
      Arises (.failure message) (.error (.closed c))
  | system {f : Fault} (hf : f.isSystem = true) {message : String}
      (h : WebSocket.receiveFault f = .transport (some message) (some f)) :
      Arises (.failure message) (.error f)

end Inbound

/-- A connection that plays scripts and takes every frame: in a state `At`, these frames have been sent and
this is still to come in. -/
structure Connection.Plays (c : Connection κ) (At : κ → List Text → List Inbound → Prop) : Prop where
  send : ∀ {k frames script} (frame : Text), At k frames script →
    (c.send frame k).1 = .ok () ∧ At (c.send frame k).2 (frames ++ [frame]) script
  receive : ∀ {k frames e rest}, At k frames (e :: rest) →
    e.Arises (c.receive k).1 ∧ At (c.receive k).2 frames rest

/-- A scripted connection plays what its receives arise from. -/
theorem Connection.script_plays : Connection.script.Plays fun s frames script =>
    s.frames = frames ∧ s.sends = [] ∧ s.closes = 0 ∧
      List.Forall₂ Inbound.Arises script s.receives where
  send {s frames script} frame h := by
    obtain ⟨receives, sends, sent, closes⟩ := s
    obtain ⟨rfl, rfl, rfl, h⟩ := h
    exact ⟨rfl, rfl, rfl, rfl, h⟩
  receive {s frames e rest} h := by
    obtain ⟨receives, sends, sent, closes⟩ := s
    obtain ⟨rfl, rfl, rfl, h⟩ := h
    obtain ⟨x, receives', hx, hrest, rfl⟩ := List.forall₂_cons_left_iff.mp h
    exact ⟨hx, rfl, rfl, rfl, hrest⟩

/-! ## What a caller can tell apart -/

/-- To a caller the results are the same: one value, or client faults of one origin and in one wording. -/
inductive SameToCaller : Except Fault α → Except Fault α → Prop
  | value (a : α) : SameToCaller (.ok a) (.ok a)
  | fault {origin : Origin} {cause cause' : Option Fault}
      (h : (Fault.client origin cause).describe = (Fault.client origin cause').describe) :
      SameToCaller (.error (.client origin cause)) (.error (.client origin cause'))

namespace SameToCaller

theorem map {r r' : Except Fault α} (h : SameToCaller r r') (f : α → β) :
    SameToCaller (f <$> r) (f <$> r') := by
  cases h with
  | value a => exact .value (f a)
  | fault h => exact .fault h

section

variable [Readers]

theorem reading (shape : Shape α) (m : Message) :
    SameToCaller (shape.reading m) (shape.reading m) := by
  unfold Shape.reading
  split_ifs
  · cases shape.decode m.content with
    | ok a => exact .value a
    | error r => exact .fault rfl
  · exact .fault rfl

/-- The channel over a connection reports as the mock channel does. -/
theorem conclusion (shape : Shape α) {e : Inbound} {x : Except Fault Content} (h : e.Arises x) :
    SameToCaller (shape.conclusion e.item.reception) (shape.conclusion (WebSocket.reception x)) := by
  cases h with
  | text t => exact reading shape (.ofText t)
  | binary b => exact reading shape (.ofBytes b)
  | closed hc =>
    rw [WebSocket.reception, if_pos hc]
    exact .fault rfl
  | abnormal hc h =>
    rw [WebSocket.reception, hc, h]
    exact .fault rfl
  | @system f hf message h =>
    have hreception : WebSocket.reception (.error f) = .error (WebSocket.receiveFault f) := by
      cases f <;> first | rfl | cases hf
    rw [hreception, h]
    exact .fault rfl

end

end SameToCaller

/-! ## Operations -/

namespace Operation

section

variable [Readers]

/-- Operations with a typed request of short integers, or with one that has no written form. -/
inductive IsRequest : Operation → Prop
  | typed {c : Command} {p : c.Request} (hshort : c.requestShape.IsShort p) :
      IsRequest (.call c (c.requestShape.toDatum p))
  | unwritten {c : Command} {request : Datum} {f : DumpFault}
      (he : (Envelope.mk (.whole c.label) request).encode = .error f) : IsRequest (.call c request)

/-- Whether the request has a written form. -/
def isWritten : Operation → Bool
  | call c request => (Envelope.mk (.whole c.label) request).encode.isOk
  | close => false

theorem IsRequest.cases {op : Operation} (h : op.IsRequest) :
    (∃ c request f, op = .call c request ∧
      (Envelope.mk (.whole c.label) request).encode = .error f) ∨
    ∃ (c : Command) (p : c.Request) (j : Json), op = .call c (c.requestShape.toDatum p) ∧
      c.requestShape.IsShort p ∧ c.requestShape.dump p = .ok j := by
  cases h with
  | unwritten he => exact .inl ⟨_, _, _, rfl, he⟩
  | @typed c p hshort =>
    by_cases hwhole : c.requestShape.IsWhole p
    · obtain ⟨j, hj⟩ := c.requestShape.exists_dump hwhole
      exact .inr ⟨c, p, j, rfl, hshort, hj⟩
    · obtain ⟨f, hf⟩ := Command.encode_ragged hwhole
      exact .inl ⟨c, _, f, rfl, hf⟩

end

end Operation

/-- The mock channel answers nothing by itself; these frames have been sent, and this is still to come in. -/
structure Mock.Loaded (m : Mock) (frames : List Text) (script : List Inbound) : Prop where
  responder : m.responder = none
  replies : m.replies = []
  takes : m.Takes
  frames_eq : m.frames = frames
  inbox : m.inbox = script.map Inbound.item

theorem Mock.loaded_fresh (script : List Inbound) :
    (script.foldl Inbound.load (fresh none)).Loaded [] script := by
  rw [Inbound.foldl_load]
  exact ⟨rfl, rfl, ⟨rfl, rfl⟩, rfl, rfl⟩

namespace Operation

variable {c : Connection κ} {At : κ → List Text → List Inbound → Prop} {m : Mock} {k : κ}
  {frames : List Text} {script : List Inbound} {op : Operation}

section

variable [Readers]

theorem interchange (hplays : c.Plays At) (url : Option String) (hm : m.Loaded frames script)
    (hk : At k frames script) (hop : op.IsRequest) (hlength : [op].countP isWritten ≤ script.length) :
    ∃ r r' calls m' k' frames',
      ((op.act false).run Channel.mock.recording (m, [])).ended = (some r, (m', calls)) ∧
      ((op.act false).run (Channel.webSocket c url).recording (k, [])).ended = (some r', (k', calls)) ∧
      SameToCaller r r' ∧ m'.Loaded frames' (script.drop ([op].countP isWritten)) ∧
      At k' frames' (script.drop ([op].countP isWritten)) := by
  rcases hop.cases with ⟨command, request, f, rfl, he⟩ | ⟨command, p, j, rfl, hshort, hj⟩
  · have hcount : [call command request].countP isWritten = 0 := by
      rw [List.countP_singleton, isWritten, he]
      rfl
    rw [hcount]
    exact ⟨_, _, _, m, k, frames, ended_unwritten he, ended_unwritten he, .fault rfl, hm, hk⟩
  · have he := Command.encode_envelope hshort hj
    have hcount : [call command (command.requestShape.toDatum p)].countP isWritten = 1 := by
      rw [List.countP_singleton, isWritten]
      exact if_pos (congrArg Except.isOk he)
    rw [hcount] at hlength ⊢
    obtain ⟨e, rest, rfl⟩ := List.exists_cons_of_length_pos hlength
    let frame : Text := .whole (command.frameText (j.compact .byName))
    -- the mock channel records the frame and gives what is queued first
    have hsend : Channel.mock.send frame m = ⟨.ok (), { m with frames := m.frames ++ [frame] }, []⟩ := by
      show (⟨(m.send frame).1, (m.send frame).2, []⟩ : Effect Mock (Except Fault Unit)) = _
      rw [hm.takes.send_of_silent hm.responder hm.replies hshort hj]
    have hreceive : Channel.mock.receive false { m with frames := m.frames ++ [frame] } =
        ⟨some e.item.reception, { m with frames := m.frames ++ [frame], inbox := rest.map Inbound.item },
          []⟩ := by
      have hinbox : m.inbox = e.item :: rest.map Inbound.item := hm.inbox
      simp only [Channel.mock, Mock.receive, hinbox]
    -- the connection takes the frame and plays what comes in first
    obtain ⟨htaken, hat⟩ := hplays.send frame hk
    obtain ⟨harises, hat'⟩ := hplays.receive hat
    have hsend' : (Channel.webSocket c url).send frame k = ⟨.ok (), (c.send frame k).2, []⟩ := by
      show (⟨(c.send frame k).1.mapError _, _, _⟩ : Effect κ (Except Fault Unit)) = _
      rw [htaken]
      rfl
    refine ⟨_, _, _, _, _, frames ++ [frame], ended_prompt he hsend hreceive,
      ended_prompt he hsend' rfl, (SameToCaller.conclusion _ harises).map _, ?_, hat'⟩
    exact ⟨hm.responder, hm.replies, ⟨hm.takes.isOpen, hm.takes.sendFault⟩,
      congrArg (· ++ [frame]) hm.frames_eq, rfl⟩

/-- A caller cannot tell a mock channel from a channel over a connection. If operations with typed or
unencodable requests use up no more than the script, then they end alike over a mock channel that is loaded
with the script and over a connection that plays it; each makes the same calls on either channel, the same
frames have been sent in the end, and as much of the script is left. -/
theorem interchangeable (hplays : c.Plays At) (url : Option String) (hk : At k [] script)
    {ops : List Operation} (hops : ∀ op ∈ ops, op.IsRequest)
    (hlength : ops.countP isWritten ≤ script.length) :
    ∃ done done' m k',
      serve .mock ops (script.foldl Inbound.load (.fresh none)) = some (done, m) ∧
      serve (.webSocket c url) ops k = some (done', k') ∧
      List.Forall₂ (fun t t' => SameToCaller t.1 t'.1 ∧ t.2 = t'.2) done done' ∧
      m.inbox = (script.drop (ops.countP isWritten)).map Inbound.item ∧
      At k' m.frames (script.drop (ops.countP isWritten)) := by
  suffices h : ∃ done done' m k' frames,
      serve .mock ops (script.foldl Inbound.load (.fresh none)) = some (done, m) ∧
      serve (.webSocket c url) ops k = some (done', k') ∧
      List.Forall₂ (fun t t' => SameToCaller t.1 t'.1 ∧ t.2 = t'.2) done done' ∧
      m.Loaded frames (script.drop (ops.countP isWritten)) ∧
      At k' frames (script.drop (ops.countP isWritten)) by
    obtain ⟨done, done', m, k', frames, hserve, hserve', hsame, hm, hk'⟩ := h
    exact ⟨done, done', m, k', hserve, hserve', hsame, hm.inbox, hm.frames_eq ▸ hk'⟩
  induction ops using List.reverseRecOn with
  | nil => exact ⟨[], [], _, k, [], rfl, rfl, .nil, Mock.loaded_fresh script, hk⟩
  | append_singleton ops op ih =>
    rw [List.countP_append] at hlength ⊢
    obtain ⟨hbefore, hop⟩ := List.forall_mem_append.mp hops
    obtain ⟨done, done', m, k₁, frames, hserve, hserve', hsame, hm, hk₁⟩ :=
      ih hbefore (Nat.le_of_add_right_le hlength)
    have hroom : [op].countP isWritten ≤ (script.drop (ops.countP isWritten)).length := by
      rw [List.length_drop]
      exact Nat.le_sub_of_add_le' hlength
    obtain ⟨r, r', calls, m', k', frames', hrun, hrun', hr, hm', hk'⟩ :=
      interchange hplays url hm hk₁ (hop op (List.mem_singleton_self op)) hroom
    rw [List.drop_drop] at hm' hk'
    exact ⟨_, _, m', k', frames', serve_concat hserve hrun, serve_concat hserve' hrun',
      List.rel_append hsame (.cons ⟨hr, rfl⟩ .nil), hm', hk'⟩

end

/-- Three operations over a connection that is lost and closed, and one whose request cannot be written. -/
theorem interchangeable_failures :
    let address : Operation := .call .address (Command.address.requestShape.toDatum ())
    let ops := [address, .call .identity .unknown, address, address]
    let lost : Closure := ⟨false, none, none, true⟩
    let script : List Inbound := [.text (.whole "null"),
      .failure "Connection closed abnormally: no close frame received or sent", .closed, .binary []]
    let k : Script := .ofSteps [.ok (.text (.whole "null")), .error (.closed lost),
      .error (.closed { lost with clean := true }), .ok (.binary [])] []
    (∀ op ∈ ops, op.IsRequest) ∧ ops.countP isWritten = 3 ∧
    ∃ done done' m k',
      serve .mock ops (script.foldl Inbound.load (.fresh none)) = some (done, m) ∧
      serve (.webSocket .script none) ops k = some (done', k') ∧
      List.Forall₂ (fun t t' => SameToCaller t.1 t'.1 ∧ t.2 = t'.2) done done' ∧
      m.inbox = [.message (.ofBytes [])] ∧ k'.frames = m.frames ∧
      List.Forall₂ Inbound.Arises [.binary []] k'.receives := by
  intro address ops lost script k
  have haddress : address.IsRequest := .typed trivial
  have hops : ∀ op ∈ ops, op.IsRequest := by
    refine List.forall_mem_cons.mpr ⟨haddress, List.forall_mem_cons.mpr ⟨.unwritten rfl, ?_⟩⟩
    exact List.forall_mem_cons.mpr ⟨haddress, List.forall_mem_singleton.mpr haddress⟩
  have hcount : ops.countP isWritten = 3 := rfl
  have harises : List.Forall₂ Inbound.Arises script k.receives :=
    .cons (.text _) (.cons (.abnormal rfl rfl) (.cons (.closed rfl) (.cons (.binary _) .nil)))
  obtain ⟨done, done', m, k', hserve, hserve', hsame, hinbox, hframes, -, -, hreceives⟩ :=
    interchangeable Connection.script_plays none ⟨rfl, rfl, rfl, harises⟩ hops (by rw [hcount]; decide)
  rw [hcount] at hinbox hreceives
  exact ⟨hops, hcount, done, done', m, k', hserve, hserve', hsame, hinbox, hframes, hreceives⟩

end Operation

end RemoteSigner
