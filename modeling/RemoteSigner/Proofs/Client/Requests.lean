import Mathlib
import RemoteSigner.Proofs.Signer.Envelope
import RemoteSigner.Proofs.Signer.RoundTrip
import RemoteSigner.Proofs.Wire.Agreement
import RemoteSigner.Proofs.Client.Stages
import RemoteSigner.Channel.Mock

/-!
# What the signer makes of a frame

A typed request goes out as data in memory, inside an envelope. What is written for that data is the wire
form of the request (`Shape.toJson_toDatum`), so the frame holds its compact text
(`Command.encode_envelope`). The signer reads the envelope first and then checks the payload, which is plain
data by then; it recovers the command and the request (`Client.typed_call_recovered`).
-/

namespace RemoteSigner

/-! ## Typed values as data -/

theorem Datum.itemsToJson_map {α : Type} {room : Nat} {f : α → Datum}
    {g : α → Except DumpFault Json} {as : List α}
    (h : ∀ a ∈ as, (f a).toJsonWithin room = g a) : itemsToJson room (as.map f) = as.mapM g := by
  induction as with
  | nil => rfl
  | cons a as ih =>
    obtain ⟨ha, has⟩ := List.forall_mem_cons.mp h
    rw [List.map_cons, itemsToJson, List.mapM_cons, ha, ih has]

mutual

/-- What is written for a typed value in memory is its wire form, given room for the shape. -/
theorem Shape.toJsonWithin_toDatum {α : Type} (s : Shape α) {room : Nat} (h : s.depth ≤ room) (a : α) :
    (s.toDatum a).toJsonWithin room = s.dump a := by
  obtain ⟨room, rfl⟩ : ∃ r, room = r + 1 := ⟨room - 1, by have := s.one_le_depth; omega⟩
  match s, a with
  | .integer, _ | .count, _ | .text, _ | .filled, _ | .hex, _ | .choice _, _ => rfl
  | .nullable _, none => rfl
  | .nullable s, some a => exact s.toJsonWithin_toDatum h a
  | .list s, as =>
    have hitem : s.depth ≤ room := Nat.le_of_succ_le_succ h
    rw [Shape.toDatum, Datum.toJsonWithin, Shape.dump,
      Datum.itemsToJson_map fun a _ => s.toJsonWithin_toDatum hitem a]
  | .record form fields, r =>
    rw [Shape.toDatum, Datum.toJsonWithin, Shape.dump,
      fields.entriesToJson_toDatum (Nat.le_of_succ_le_succ h)]

theorem Fields.entriesToJson_toDatum {τ : Type} (fields : Fields τ) {room : Nat}
    (h : fields.depth ≤ room) (t : τ) :
    Datum.entriesToJson room (fields.toDatum t) = fields.dump t := by
  match fields, t with
  | .nil, _ => rfl
  | .cons key _ shape rest, (a, t) =>
    obtain ⟨hshape, hrest⟩ := max_le_iff.mp h
    rw [Fields.toDatum, Datum.entriesToJson, Fields.dump, shape.toJsonWithin_toDatum hshape,
      rest.entriesToJson_toDatum hrest]
    rfl

end

theorem Shape.toJson_toDatum {α : Type} {s : Shape α} (hs : s.depth ≤ Datum.maxDepth) (a : α) :
    (s.toDatum a).toJson = s.dump a := s.toJsonWithin_toDatum hs a

/-! ## Requests by command -/

namespace Command

/-- The word that is the request of a command without parameters. -/
def getWord : Choices Unit where
  enumeration := some "GetRequest"
  all := [()]
  label _ := getRequest
  mem_all := List.mem_singleton_self
  label_inj _ _ _ := rfl

/-- The requests of a command. -/
abbrev Request (c : Command) : Type :=
  match c.requestType? with
  | some t => t.Value
  | none => Unit

/-- Their shape. -/
def requestShape : (c : Command) → Shape c.Request
  | sync => WireType.syncRequest.shape
  | sign => WireType.signRequest.shape
  | address => .choice getWord
  | transactionData => WireType.transactionDataRequest.shape
  | identity => WireType.identityRequest.shape
  | signWithTransactionData => WireType.signRequest.shape

theorem wellFormed_requestShape [Readers] (c : Command) : c.requestShape.WellFormed := by
  cases c with
  | sync => exact WireType.syncRequest.wellFormed
  | sign | signWithTransactionData => exact WireType.signRequest.wellFormed
  | address => trivial
  | transactionData => exact WireType.transactionDataRequest.wellFormed
  | identity => exact WireType.identityRequest.wellFormed

theorem depth_requestShape (c : Command) : c.requestShape.depth ≤ Envelope.maxPayloadDepth := by
  cases c <;> decide

/-- The frame of the command with a request of this text. -/
def frameText (c : Command) (request : String) : String :=
  "\x7b\"command\":\"" ++ c.label ++ "\",\"request\":" ++ request ++ "\x7d"

theorem quotedChars_label (c : Command) :
    Json.quotedChars c.label = '"' :: c.label.toList ++ ['"'] := by
  cases c <;> decide

theorem compact_object (c : Command) (policy : NonFinite) (request : Json) :
    (Envelope.object c.label request).compact policy = c.frameText (request.compact policy) := by
  have hcommand : Json.quotedChars "command" = "\"command\"".toList := by decide
  have hrequest : Json.quotedChars "request" = "\"request\"".toList := by decide
  apply String.toList_inj.mp
  rw [Json.compact, String.toList_ofList, frameText, Envelope.object, Json.compactChars,
    Json.compactEntries, Json.compactEntries, Json.compactChars, quotedChars_label, hcommand, hrequest]
  simp [Json.compact]

/-- The envelope of a typed request. -/
def envelope (c : Command) (p : c.Request) : Envelope := ⟨.whole c.label, c.requestShape.toDatum p⟩

theorem depth_requestShape_le_maxDepth (c : Command) : c.requestShape.depth ≤ Datum.maxDepth :=
  c.depth_requestShape.trans (by decide)

variable {c : Command} {p : c.Request}

theorem encode_ragged (h : ¬ c.requestShape.IsWhole p) : ∃ f, (c.envelope p).encode = .error f := by
  cases he : (c.envelope p).encode with
  | error f => exact ⟨f, rfl⟩
  | ok frame =>
    obtain ⟨-, j, -, hj, -⟩ := Envelope.encode_eq_ok.mp he
    have hdump : c.requestShape.dump p = .ok j :=
      (Shape.toJson_toDatum c.depth_requestShape_le_maxDepth p).symm.trans hj
    exact absurd (c.requestShape.isWhole_of_dump hdump) h

variable [Readers]

theorem encode_envelope (hshort : c.requestShape.IsShort p) {j : Json}
    (hj : c.requestShape.dump p = .ok j) :
    (c.envelope p).encode = .ok (c.frameText (j.compact .byName)) := by
  have hexact := c.requestShape.everywhere_dump c.wellFormed_requestShape hshort hj
  refine Envelope.encode_eq_ok.mpr ⟨c.label, j, rfl, ?_, ?_⟩
  · exact (Shape.toJson_toDatum c.depth_requestShape_le_maxDepth p).trans hj
  · rw [compact_object, Json.compact, Json.compact, Json.compactChars_policy .asNull .byName hexact]

/-- The signer reads the envelope, and then the request from its payload. -/
theorem decode_frameText (hshort : c.requestShape.IsShort p) {j : Json}
    (hj : c.requestShape.dump p = .ok j) :
    Envelope.decode (.text (.whole (c.frameText (j.compact .byName)))) =
        .ok ⟨.whole c.label, .ofRead j⟩ ∧
      c.requestShape.accept (Datum.ofRead j) = .ok p := by
  have hexact := c.requestShape.everywhere_dump c.wellFormed_requestShape hshort hj
  have hdepth : j.depth < Json.strict.depthLimit :=
    Nat.lt_succ_of_le ((c.requestShape.depth_dump hj).trans c.depth_requestShape)
  constructor
  · rw [← compact_object, Envelope.decode, Envelope.readJson_object .byName hexact hdepth]
    exact mapError_eq_ok.mpr (Envelope.check_parts c.label j)
  · have hcheck : c.requestShape.check (Datum.ofRead j) = .ok p :=
      (Shape.check_ofRead_eq_ok _).mpr (c.requestShape.check_dump c.wellFormed_requestShape hj)
    rw [Shape.accept, hcheck]

end Command

namespace Client

variable {κ : Type}

section

variable [Readers]

/-- The call of a command with a typed request. -/
def typedCall (c : Command) (p : c.Request) : Act c.reply.Value := call c (c.requestShape.toDatum p)

/-- The calls that a typed call makes on a channel in some state. -/
def callsOf (channel : Channel κ) (s : κ) (c : Command) (p : c.Request) : List Call :=
  ((typedCall c p).run channel.recording (s, [])).state.2

variable {c : Command} {p : c.Request}

theorem callsOf_encoded (hshort : c.requestShape.IsShort p) {j : Json}
    (hj : c.requestShape.dump p = .ok j) (channel : Channel κ) (s : κ) :
    callsOf channel s c p =
      match (channel.send (.whole (c.frameText (j.compact .byName))) s).result with
      | .error _ => [.send (.whole (c.frameText (j.compact .byName)))]
      | .ok () => [.send (.whole (c.frameText (j.compact .byName))), .receive] :=
  calls_call (Command.encode_envelope hshort hj) channel s

theorem typedCall_ragged (h : ¬ c.requestShape.IsWhole p) :
    ∃ f, typedCall c p = .done (.error (.client .serialization (some (.unwritable f)))) := by
  obtain ⟨f, hf⟩ := Command.encode_ragged h
  exact ⟨f, call_unwritten hf⟩

/-- A typed call that sends a frame sends the one frame that holds the compact text of its request. -/
theorem dump_of_send (hshort : c.requestShape.IsShort p) {channel : Channel κ} {s : κ}
    {frame : Text} (h : .send frame ∈ callsOf channel s c p) :
    ∃ j, c.requestShape.dump p = .ok j ∧ frame = .whole (c.frameText (j.compact .byName)) := by
  by_cases hwhole : c.requestShape.IsWhole p
  · obtain ⟨j, hj⟩ := c.requestShape.exists_dump hwhole
    rw [callsOf_encoded hshort hj] at h
    refine ⟨j, hj, ?_⟩
    split at h <;> simpa using h
  · obtain ⟨f, hf⟩ := typedCall_ragged hwhole
    unfold callsOf at h
    rw [hf] at h
    cases h

/-- The signer recovers typed requests. If there is no oversized integer in a request, nor a lone
surrogate, then its call sends the one frame that names the command and holds the compact text of the
request, over any channel; the envelope that the signer reads from this frame names the command, and its
payload is accepted as the request. For the address the payload is the word `Get`. A request with a lone
surrogate is not sent. Two typed calls that send the same frame are the same. -/
theorem typed_call_recovered :
    (∀ (c : Command) (p : c.Request), c.requestShape.IsShort p → c.requestShape.IsWhole p →
      ∃ dump request, c.requestShape.dumpText p = .ok dump ∧
        (∀ {κ : Type} (channel : Channel κ) (s : κ), callsOf channel s c p =
          match (channel.send (.whole (c.frameText dump)) s).result with
          | .error _ => [.send (.whole (c.frameText dump))]
          | .ok () => [.send (.whole (c.frameText dump)), .receive]) ∧
        Envelope.decode (.text (.whole (c.frameText dump))) = .ok ⟨.whole c.label, request⟩ ∧
        c.requestShape.accept request = .ok p ∧
        (c = .address → request = .text (.whole "Get"))) ∧
    (∀ (c : Command) (p : c.Request), ¬ c.requestShape.IsWhole p →
      ∃ f, typedCall c p = .done (.error (.client .serialization (some (.unwritable f))))) ∧
    (∀ (c : Command) (p : c.Request) (c' : Command) (p' : c'.Request),
      c.requestShape.IsShort p → c'.requestShape.IsShort p' →
      ∀ {κ κ' : Type} (channel : Channel κ) (s : κ) (channel' : Channel κ') (s' : κ') (frame : Text),
        .send frame ∈ callsOf channel s c p → .send frame ∈ callsOf channel' s' c' p' →
        (⟨c, p⟩ : Σ c : Command, c.Request) = ⟨c', p'⟩) := by
  refine ⟨?_, fun c p => typedCall_ragged, ?_⟩
  · intro c p hshort hwhole
    obtain ⟨j, hj⟩ := c.requestShape.exists_dump hwhole
    obtain ⟨hdecode, haccept⟩ := Command.decode_frameText hshort hj
    refine ⟨j.compact .byName, .ofRead j, map_eq_ok.mpr ⟨j, hj, rfl⟩,
      fun channel s => callsOf_encoded hshort hj channel s, hdecode, haccept, ?_⟩
    rintro rfl
    cases hj
    rfl
  · intro c p c' p' hshort hshort' κ κ' channel s channel' s' frame hsend hsend'
    obtain ⟨j, hj, rfl⟩ := dump_of_send hshort hsend
    obtain ⟨j', hj', hframe⟩ := dump_of_send hshort' hsend'
    obtain ⟨hdecode, haccept⟩ := Command.decode_frameText hshort hj
    obtain ⟨hdecode', haccept'⟩ := Command.decode_frameText hshort' hj'
    rw [hframe, hdecode'] at hdecode
    obtain ⟨hlabel, hrequest⟩ := Envelope.mk.inj (Except.ok.inj hdecode)
    obtain rfl := Command.label_inj (Text.whole.inj hlabel)
    rw [hrequest, haccept] at haccept'
    rw [Except.ok.inj haccept']

end

/-- A request whose identifier holds a quotation mark is recovered, and its frame is that of no other call.
Beside it, one whose identifier is a lone surrogate is not sent. -/
theorem typed_call_recovered_identity :
    let p : Command.identity.Request := ⟨[⟨.whole "a\"b", ⟨.whole "dot", 5⟩⟩]⟩
    let q : Command.identity.Request := ⟨[⟨.ragged [0xD800], ⟨.whole "dot", 5⟩⟩]⟩
    Command.identity.requestShape.IsShort p ∧ Command.identity.requestShape.IsWhole p ∧
      ¬ Command.identity.requestShape.IsWhole q ∧
      (∃ f, typedCall .identity q = .done (.error (.client .serialization (some (.unwritable f))))) ∧
      ∃ frame request, Envelope.decode (.text (.whole frame)) = .ok ⟨.whole "identity", request⟩ ∧
        Command.identity.requestShape.accept request = .ok p ∧
        .send (.whole frame) ∈ callsOf .mock (.fresh none) .identity p ∧
        ∀ (c : Command) (p' : c.Request), c.requestShape.IsShort p' →
          .send (.whole frame) ∈ callsOf .mock (.fresh none) c p' →
          (⟨.identity, p⟩ : Σ c : Command, c.Request) = ⟨c, p'⟩ := by
  intro p q
  have hfive : Json.FewDigits (Int.ofNat 5) :=
    Json.fewDigits_of_natAbs_lt_ten (by decide)
  have hshort : Command.identity.requestShape.IsShort p :=
    ⟨List.forall_mem_singleton.mpr ⟨trivial, ⟨trivial, hfive, trivial⟩, trivial⟩, trivial⟩
  have hwhole : Command.identity.requestShape.IsWhole p :=
    ⟨List.forall_mem_singleton.mpr ⟨rfl, ⟨rfl, trivial, trivial⟩, trivial⟩, trivial⟩
  have hragged : ¬ Command.identity.requestShape.IsWhole q :=
    fun h => nomatch (List.forall_mem_singleton.mp h.1).1
  obtain ⟨hforth, hunsent, hsame⟩ := typed_call_recovered
  obtain ⟨dump, request, -, hcalls, hdecode, haccept, -⟩ := hforth .identity p hshort hwhole
  have hsend : .send (.whole (Command.identity.frameText dump)) ∈
      callsOf .mock (.fresh none) .identity p := by
    rw [hcalls .mock]
    split <;> simp
  exact ⟨hshort, hwhole, hragged, hunsent .identity q hragged, _, request, hdecode, haccept, hsend,
    fun c p' hshort' hsend' => hsame _ _ _ _ hshort hshort' _ _ _ _ _ hsend hsend'⟩

/-- A request whose identifier is a lone surrogate has short integers, no text, and no frame. -/
theorem not_sent_surrogate :
    let q : Command.identity.Request := ⟨[⟨.ragged [0xD800], ⟨.whole "dot", 5⟩⟩]⟩
    Command.identity.requestShape.IsShort q ∧
      (∀ dump, Command.identity.requestShape.dumpText q ≠ .ok dump) ∧
      callsOf .mock (.fresh none) .identity q = [] := by
  intro q
  have hfive : Json.FewDigits (Int.ofNat 5) :=
    Json.fewDigits_of_natAbs_lt_ten (by decide)
  refine ⟨⟨List.forall_mem_singleton.mpr ⟨trivial, ⟨trivial, hfive, trivial⟩, trivial⟩, trivial⟩, ?_, rfl⟩
  intro dump hdump
  have hwhole := Command.identity.requestShape.exists_dumpText_iff.mp ⟨dump, hdump⟩
  exact nomatch (List.forall_mem_singleton.mp hwhole.1).1

end Client

end RemoteSigner
