import Mathlib
import RemoteSigner.Proofs.Json.Floats
import RemoteSigner.Proofs.Datum.Parts
import RemoteSigner.Proofs.Signer.Envelope
import RemoteSigner.Proofs.Client.Stages
import RemoteSigner.Channel.Mock

/-!
# Which requests can be sent

A request may hold anything at any depth. It has a frame unless there is something inside it of which there
is no text, or text with a lone surrogate; the frame is then read as an envelope under the same command
(`Envelope.encodable_exactly`).
-/

namespace RemoteSigner

theorem Content.readJson_of_readText [Readers] {s : String} {j : Json} (h : Json.readText s = .ok j) :
    Content.readJson (.text (.whole s)) = .ok j := mapError_eq_ok.mpr h

namespace Envelope

/-- Something inside the payload has no text. -/
def HasNoText (e : Envelope) : Prop := ∃ x : Datum, x.Inside e.request ∧ x.HasNoText

/-- There is a lone surrogate in the command, or in text or a key inside the payload. -/
def HasSurrogate (e : Envelope) : Prop :=
  ¬ e.command.IsWhole ∨ ∃ x : Datum, x.Inside e.request ∧ ¬ x.HasWholeText

variable {e : Envelope}

/-- What stands in the way, over all parts of the envelope. -/
theorem writable_iff : e.command.IsWhole ∧ e.request.Everywhere Datum.IsWritable ↔
    ¬ (e.HasNoText ∨ e.HasSurrogate) := by
  rw [Datum.everywhere_isWritable_iff]
  constructor
  · rintro ⟨hcommand, hrequest⟩ (⟨x, hx, h⟩ | h | ⟨x, hx, h⟩)
    · exact (hrequest x hx).1 h
    · exact h hcommand
    · exact h (hrequest x hx).2
  · intro h
    refine ⟨by_contra fun hcommand => h (.inr (.inl hcommand)), fun x hx => ⟨?_, ?_⟩⟩
    · exact fun htext => h (.inl ⟨x, hx, htext⟩)
    · exact by_contra fun hwhole => h (.inr (.inr ⟨x, hx, hwhole⟩))

/-- An envelope that is not too deep has a frame unless something in it stands in the way. -/
theorem exists_frame_iff (hdepth : e.request.depth ≤ Datum.maxDepth) :
    (∃ frame, e.encode = .ok frame) ↔ ¬ (e.HasNoText ∨ e.HasSurrogate) := by
  rw [← writable_iff, ← Datum.written_text_iff, ← and_iff_left hdepth (a := e.request.Everywhere _),
    ← Datum.exists_toJsonWithin_iff]
  constructor
  · rintro ⟨frame, h⟩
    obtain ⟨command, request, hcommand, hrequest, -⟩ := encode_eq_ok.mp h
    exact ⟨⟨command, hcommand⟩, request, hrequest⟩
  · rintro ⟨⟨command, hcommand⟩, request, hrequest⟩
    exact ⟨_, encode_eq_ok.mpr ⟨command, request, hcommand, hrequest, rfl⟩⟩

theorem encode_fails_iff (hdepth : e.request.depth ≤ Datum.maxDepth) :
    (∃ f, e.encode = .error f) ↔ e.HasNoText ∨ e.HasSurrogate := by
  rw [← not_iff_not, ← exists_frame_iff hdepth]
  cases e.encode with
  | error f => exact iff_of_false (fun h => h ⟨f, rfl⟩) nofun
  | ok frame => exact iff_of_true nofun ⟨frame, rfl⟩

theorem withFloats_object (g : Float → Json) (command : String) (request : Json) :
    (object command request).withFloats g = object command (request.withFloats g) := by
  simp only [object, Json.withFloats, Json.entriesWithFloats]

section

variable [Readers]

/-- The payload has integers of few digits and no key twice, and it is not nested too deep to be read. -/
structure IsRegular (e : Envelope) : Prop where
  request : e.request.Everywhere Datum.IsRegular
  depth : e.request.depth ≤ maxPayloadDepth

theorem everywhere_isOrderly_object {command : String} {request : Json}
    (hrequest : request.Everywhere Json.IsOrderly) :
    (object command request).Everywhere Json.IsOrderly := by
  refine Json.everywhere_object.mpr ⟨?_, ?_⟩
  · show ["command", "request"].Nodup
    decide
  · intro e he
    rcases List.mem_pair.mp he with rfl | rfl
    · trivial
    · exact hrequest

/-- The frame of a regular envelope is read as the object that was written, up to floats, and that is an
envelope under the same command. -/
theorem read_of_encode {g : Float → Json} (hcarries : Json.CarriesFloats g)
    (hg : ∀ j : Json, j.Everywhere Json.IsOrderly → j.depth ≤ Json.strict.depthLimit →
      Json.readText (j.compact .asNull) = .ok (j.withFloats g))
    (he : e.IsRegular) {frame : String} (h : e.encode = .ok frame) :
    ∃ command request, e.command = .whole command ∧ e.request.toJson = .ok request ∧
      Json.readText frame = .ok (object command (request.withFloats g)) ∧
      decode (.text (.whole frame)) = .ok ⟨e.command, .ofJson (request.withFloats g)⟩ := by
  obtain ⟨command, request, hcommand, hrequest, rfl⟩ := encode_eq_ok.mp h
  have hdepth : (object command request).depth ≤ Json.strict.depthLimit := by
    have hrequest : request.depth ≤ maxPayloadDepth := (Datum.depth_of_toJsonWithin hrequest).trans_le he.depth
    exact (depth_object command request).trans_le (Nat.succ_le_succ hrequest)
  have horderly := Datum.everywhere_isOrderly he.request hrequest
  have hread : Json.readText ((object command request).compact .asNull) =
      .ok (object command (request.withFloats g)) := by
    rw [← withFloats_object]
    exact hg _ (everywhere_isOrderly_object horderly) hdepth
  have hjoined : Datum.ofRead (request.withFloats g) = .ofJson (request.withFloats g) :=
    congrArg Datum.ofJson (hcarries.joined_withFloats (horderly.mono fun _ h => h.hasDistinctKeys))
  refine ⟨command, request, Datum.written_text_eq_ok.mp hcommand, hrequest, hread, ?_⟩
  rw [decode, Content.readJson_of_readText hread, Datum.written_text_eq_ok.mp hcommand, ← hjoined]
  exact mapError_eq_ok.mpr (check_parts command _)

end

end Envelope

namespace Client

variable {κ : Type}

theorem sends_iff [Readers] {c : Command} {request : Datum} (channel : Channel κ) (s : κ) :
    (∃ frame, .send frame ∈ ((call c request).run channel.recording (s, [])).state.2) ↔
      ∃ frame, (Envelope.mk (.whole c.label) request).encode = .ok frame := by
  match hencode : (Envelope.mk (.whole c.label) request).encode with
  | .error f =>
    rw [call_unwritten hencode]
    exact iff_of_false nofun nofun
  | .ok frame =>
    rw [calls_call hencode]
    refine iff_of_true ⟨.whole frame, ?_⟩ ⟨frame, rfl⟩
    split <;> exact List.mem_cons_self

end Client

namespace Envelope

/-- An envelope with a regular payload has no frame exactly if there is something inside the payload of
which there is no text, or a lone surrogate in the command or inside the payload. Otherwise its frame is read
as an object with the keys `command` and `request` and nothing else, and as an envelope under the same
command, in which only floats may have changed: numbers are floats again, and what is no number is null.
A client sends a frame for a request exactly if nothing in it stands in the way, over any channel. -/
theorem encodable_exactly [Readers] : ∃ g, Json.CarriesFloats g ∧
    (∀ e : Envelope, e.IsRegular →
      ((∃ f, e.encode = .error f) ↔ e.HasNoText ∨ e.HasSurrogate) ∧
      ∀ frame, e.encode = .ok frame → ∃ command request, e.command = .whole command ∧
        e.request.toJson = .ok request ∧
        Json.readText frame = .ok (object command (request.withFloats g)) ∧
        decode (.text (.whole frame)) = .ok ⟨e.command, .ofJson (request.withFloats g)⟩) ∧
    ∀ {κ : Type} (channel : Channel κ) (s : κ) (c : Command) (request : Datum),
      IsRegular ⟨.whole c.label, request⟩ →
      ((∃ frame, .send frame ∈ ((Client.call c request).run channel.recording (s, [])).state.2) ↔
        ¬ (HasNoText ⟨.whole c.label, request⟩ ∨ HasSurrogate ⟨.whole c.label, request⟩)) := by
  obtain ⟨g, hcarries, hg⟩ := Json.exists_readText_compact
  have hroom : ∀ {e : Envelope}, e.IsRegular → e.request.depth ≤ Datum.maxDepth :=
    fun he => he.depth.trans (by decide)
  refine ⟨g, hcarries, fun e he => ⟨encode_fails_iff (hroom he), ?_⟩, ?_⟩
  · exact fun frame hframe => read_of_encode hcarries hg he hframe
  · intro κ channel s c request he
    rw [Client.sends_iff, exists_frame_iff (hroom he)]

/-- A payload of many kinds is sent and read, unless there is something unknown in one of its lists. -/
theorem encodable_exactly_mixed :
    let payload (x : Datum) : Datum := .record "Sample"
      [(.whole "numbers", .list [.int (-5), .float Binary64.nan, .bool true]),
        (.whole "raw", .bytes (Utf8.encodeText "\n\"é")),
        (.whole "replies", .list [.message (.ofText (.whole "{}")), .map [(.whole "", x)]])]
    (∃ frame request, encode ⟨.whole "sign", payload .null⟩ = .ok frame ∧
      decode (.text (.whole frame)) = .ok ⟨.whole "sign", request⟩) ∧
    (∃ f, encode ⟨.whole "sign", payload .unknown⟩ = .error f) ∧
    (∃ frame, .send frame ∈
      ((Client.call .sign (payload .null)).run Channel.mock.recording (.fresh none, [])).state.2) ∧
    ¬ ∃ frame, .send frame ∈
      ((Client.call .sign (payload .unknown)).run Channel.mock.recording (.fresh none, [])).state.2 := by
  intro payload
  have hregular : ∀ x : Datum, x.Everywhere Datum.IsRegular → (payload x).depth ≤ maxPayloadDepth →
      IsRegular ⟨.whole "sign", payload x⟩ := by
    intro x hx hdepth
    have hfive : Json.FewDigits (-5) := Json.fewDigits_of_natAbs_lt_ten (by decide)
    have hkeys : [Text.whole "numbers", Text.whole "raw", Text.whole "replies"].Nodup := by decide
    exact ⟨⟨hkeys, ⟨trivial, hfive, trivial, trivial, trivial⟩, trivial,
      ⟨trivial, trivial, ⟨List.nodup_singleton _, hx, trivial⟩, trivial⟩, trivial⟩, hdepth⟩
  have hnull : IsRegular ⟨.whole "sign", payload .null⟩ := hregular .null trivial (by decide)
  have hunknown : IsRegular ⟨.whole "sign", payload .unknown⟩ := hregular .unknown trivial (by decide)
  have hwritable : (payload .null).Everywhere Datum.IsWritable := by
    have hkeys : ∀ k ∈ [Text.whole "numbers", Text.whole "raw", Text.whole "replies"], k.IsWhole := by
      simp [Text.IsWhole]
    exact ⟨hkeys, ⟨trivial, trivial, trivial, trivial, trivial⟩,
      (Datum.written_bytes_iff _).mpr ⟨_, rfl⟩, ⟨trivial, ⟨_, rfl⟩,
        ⟨List.forall_mem_singleton.mpr rfl, trivial, trivial⟩, trivial⟩, trivial⟩
  have hclear : ¬ (HasNoText ⟨.whole "sign", payload .null⟩ ∨ HasSurrogate ⟨.whole "sign", payload .null⟩) :=
    writable_iff.mp ⟨rfl, hwritable⟩
  have hbarred : HasNoText ⟨.whole "sign", payload .unknown⟩ :=
    ⟨.unknown, .field (.tail _ (.tail _ (.head _))) (.item (.tail _ (.head _)) (.entry (.head _) (.self _))),
      trivial⟩
  obtain ⟨g, -, hencode, hsend⟩ := encodable_exactly
  obtain ⟨frame, hframe⟩ := (exists_frame_iff (hnull.depth.trans (by decide))).mpr hclear
  obtain ⟨command, request, -, -, -, hdecode⟩ := (hencode _ hnull).2 frame hframe
  refine ⟨⟨frame, _, hframe, hdecode⟩, (hencode _ hunknown).1.mpr (.inl hbarred), ?_, ?_⟩
  · exact (hsend .mock (.fresh none) .sign _ hnull).mpr hclear
  · rw [hsend .mock (.fresh none) .sign _ hunknown, not_not]
    exact .inl hbarred

/-- An envelope that was decoded from compact text was parsed from its characters. -/
theorem parse_of_decode [Readers] {j : Json} (h : decode (.text (.whole (j.compact .asNull))) = .ok e) :
    (Json.parse Json.strict (Utf8.encode (j.compactChars .asNull))).isOk = true := by
  unfold decode at h
  split at h
  · rename_i v hread
    have hread : Json.readText (j.compact .asNull) = .ok v := mapError_eq_ok.mp hread
    rw [Json.readText, Json.read, Json.compact, String.toList_ofList] at hread
    split at hread
    · rename_i w hparse
      rw [hparse]
      rfl
    · cases hread
  · cases h

/-- A payload that is a lone surrogate has no frame, although there is text of everything else in it. Zero
inside 200 lists has a frame that is not read. -/
theorem encodable_surrogate_nested :
    (IsRegular ⟨.whole "c", .text (.ragged [0xD800])⟩ ∧
      ¬ HasNoText ⟨.whole "c", .text (.ragged [0xD800])⟩ ∧
      ∃ f, encode ⟨.whole "c", .text (.ragged [0xD800])⟩ = .error f) ∧
    ((nested 200).Everywhere Datum.IsRegular ∧ ¬ HasNoText ⟨.whole "c", nested 200⟩ ∧
      ∃ frame, encode ⟨.whole "c", nested 200⟩ = .ok frame ∧
        ∀ e, decode (.text (.whole frame)) ≠ .ok e) := by
  refine ⟨⟨⟨trivial, by decide⟩, ?_, _, rfl⟩, everywhere_nested Json.fewDigits_zero (fun _ => trivial) 200, ?_⟩
  · rintro ⟨x, hx, hno⟩
    cases hx
    exact hno
  have hroom : (nested 200).depth ≤ Datum.maxDepth := (depth_nested 200).trans_le (by decide)
  have hclear : ¬ (HasNoText ⟨.whole "c", nested 200⟩ ∨ HasSurrogate ⟨.whole "c", nested 200⟩) :=
    writable_iff.mp ⟨rfl, everywhere_nested trivial (fun _ => trivial) 200⟩
  have hunread : ((nested 200).toJson.toOption.map fun request =>
      (Json.parse Json.strict (Utf8.encode ((object "c" request).compactChars .asNull))).isOk) =
      some false := by decide +kernel
  obtain ⟨frame, hframe⟩ := (exists_frame_iff hroom).mpr hclear
  refine ⟨fun h => hclear (.inl h), frame, hframe, fun e hdecode => ?_⟩
  obtain ⟨command, request, hcommand, hrequest, rfl⟩ := encode_eq_ok.mp hframe
  obtain rfl : "c" = command := Text.whole.inj (Datum.written_text_eq_ok.mp hcommand)
  have hrequest : (nested 200).toJson = .ok request := hrequest
  rw [hrequest] at hunread
  exact Bool.false_ne_true ((Option.some.inj hunread).symm.trans (parse_of_decode hdecode))

end Envelope

end RemoteSigner
