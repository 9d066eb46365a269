import Mathlib
import RemoteSigner.Signer.Envelope
import RemoteSigner.Proofs.Json.ReadBack
import RemoteSigner.Proofs.Wire.RoundTrip
import RemoteSigner.Proofs.Datum.Written

/-!
# Envelopes come back from their frames

A frame is written from one JSON object (`Envelope.encode_eq_ok`), and that object is taken apart into the
command and the payload that were written (`Envelope.check_parts`). So an envelope whose payload is plain
data comes back from its frame unless it is nested too deep, and no two such envelopes have the same frame
(`Envelope.round_trip_plain`).
-/

namespace RemoteSigner.Envelope

/-! ## The object in a frame -/

/-- The object that a frame spells. -/
def object (command : String) (request : Json) : Json :=
  .object [("command", .str command), ("request", request)]

/-- A frame is written if the command and the payload have written forms. -/
theorem encode_eq_ok {e : Envelope} {frame : String} :
    e.encode = .ok frame ↔ ∃ command request, e.command.written = .ok command ∧
      e.request.toJson = .ok request ∧ frame = (object command request).compact .asNull := by
  unfold encode
  simp only [bind_eq_ok]
  constructor
  · rintro ⟨command, hcommand, request, hrequest, hframe⟩
    cases hframe
    exact ⟨command, request, hcommand, hrequest, rfl⟩
  · rintro ⟨command, request, hcommand, hrequest, rfl⟩
    exact ⟨command, hcommand, request, hrequest, rfl⟩

theorem depth_object (command : String) (request : Json) :
    (object command request).depth = request.depth + 1 := by
  show max 1 (max request.depth 0) + 1 = request.depth + 1
  rw [Nat.max_zero, max_eq_right request.one_le_depth]

section

variable [Readers]

theorem check_parts (command : String) (request : Json) :
    check Datum.ofRead (object command request) = .ok ⟨.whole command, .ofRead request⟩ := rfl

/-- The payload of an accepted envelope stands in the value that was accepted. -/
theorem request_of_check {j : Json} {e : Envelope} (h : check Datum.ofRead j = .ok e) :
    ∃ v : Json, v.depth < j.depth ∧ e.request = .ofRead v := by
  unfold check at h
  split at h
  · cases h
  · rename_i entries hentries
    obtain ⟨parts, hjudge, rfl⟩ := map_eq_ok.mp h
    obtain ⟨-, -, hboth⟩ := judgeEntries_eq_ok.mp hjudge
    obtain ⟨-, hrequest⟩ := Verdict.both_eq_ok.mp hboth
    unfold checkField at hrequest
    split at hrequest
    · rename_i s v hfind
      refine ⟨v, ?_, ?_⟩
      · exact Json.depth_lt_of_mem_entries hentries (FieldKey.mem_of_find? hfind)
      · exact (Except.ok.inj (Verdict.under_eq_ok.mp hrequest)).symm
    · cases hrequest

theorem everywhere_object {command : String} {request : Json}
    (hrequest : request.Everywhere Json.IsExact) : (object command request).Everywhere Json.IsExact := by
  refine Json.everywhere_object.mpr ⟨?_, ?_⟩
  · show ["command", "request"].Nodup
    decide
  · intro e he
    rcases List.mem_pair.mp he with rfl | rfl
    · trivial
    · exact hrequest

/-- The object of a frame comes back from its text if the payload does, one level down. -/
theorem readJson_object (policy : NonFinite) {command : String} {request : Json}
    (hrequest : request.Everywhere Json.IsExact) (hdepth : request.depth < Json.strict.depthLimit) :
    Content.readJson (.text (.whole ((object command request).compact policy))) =
      .ok (object command request) :=
  Content.readJson_compact _ (everywhere_object hrequest) ((depth_object command request).trans_le hdepth)

/-! ## Plain envelopes -/

/-- How deep the payload of an envelope may be nested, where a value that holds no others counts as one
level. -/
def maxPayloadDepth : Nat := 200

/-- The payload is plain data. -/
def IsPlain (e : Envelope) : Prop := e.request.Everywhere Datum.IsPlain

/-- No lone surrogate in the command, nor in text or keys of the payload. -/
def IsWhole (e : Envelope) : Prop :=
  e.command.IsWhole ∧ e.request.Everywhere Datum.HasWholeText

variable {e e' : Envelope}

/-- A plain envelope has a frame unless there is a lone surrogate in it, or it is nested too deep to be
written. -/
theorem exists_encode_iff (he : e.IsPlain) :
    (∃ frame, e.encode = .ok frame) ↔ e.IsWhole ∧ e.request.depth ≤ Datum.maxDepth := by
  rw [IsWhole, and_assoc, ← Datum.exists_toJson_iff he, ← Datum.written_text_iff]
  constructor
  · rintro ⟨frame, h⟩
    obtain ⟨command, request, hcommand, hrequest, -⟩ := encode_eq_ok.mp h
    exact ⟨⟨command, hcommand⟩, request, hrequest⟩
  · rintro ⟨⟨command, hcommand⟩, request, hrequest⟩
    exact ⟨_, encode_eq_ok.mpr ⟨command, request, hcommand, hrequest, rfl⟩⟩

/-- A plain envelope comes back from its frame if it is not nested too deep to be read. -/
theorem decode_encode (he : e.IsPlain) (hd : e.request.depth ≤ maxPayloadDepth) {frame : String}
    (h : e.encode = .ok frame) : decode (.text (.whole frame)) = .ok e := by
  obtain ⟨command, request, hcommand, hrequest, rfl⟩ := encode_eq_ok.mp h
  have hback : Datum.ofJson request = e.request := Datum.ofJson_of_toJsonWithin he hrequest
  have hexact : request.Everywhere Json.IsExact := Datum.everywhere_isExact (hback ▸ he)
  have hread : Datum.ofRead request = e.request := by rw [Datum.ofRead, Json.joined_of_isExact hexact, hback]
  have hdepth : request.depth < Json.strict.depthLimit := by
    rw [← Datum.depth_ofJson, hback]
    exact Nat.lt_succ_of_le hd
  have hparts : check Datum.ofRead (object command request) = .ok e := by
    rw [check_parts, hread, ← Datum.written_text_eq_ok.mp hcommand]
  rw [decode, readJson_object .asNull hexact hdepth]
  exact mapError_eq_ok.mpr hparts

/-- No payload that is read is nested deeper. -/
theorem depth_of_decode {c : Content} (h : decode c = .ok e) : e.request.depth ≤ maxPayloadDepth := by
  unfold decode at h
  split at h
  · rename_i j hread
    have hj := Content.depth_of_readJson hread
    have hcheck : check Datum.ofRead j = .ok e := mapError_eq_ok.mp h
    obtain ⟨v, hv, hrequest⟩ := request_of_check hcheck
    rw [hrequest, Datum.ofRead, Datum.depth_ofJson]
    exact Nat.le_of_lt_succ ((Json.depth_joined_le v).trans_lt (hv.trans_le hj))
  · cases h

/-- A plain envelope comes back from its frame exactly if there is no lone surrogate in it and its payload
is not nested deeper than `maxPayloadDepth`; with a lone surrogate it has no frame. No two plain envelopes
of such payloads have the same frame. -/
theorem round_trip_plain :
    (∀ e, IsPlain e → ((∃ frame, e.encode = .ok frame ∧ decode (.text (.whole frame)) = .ok e) ↔
      e.IsWhole ∧ e.request.depth ≤ maxPayloadDepth)) ∧
    (∀ e, IsPlain e → ¬ e.IsWhole → ∀ frame, e.encode ≠ .ok frame) ∧
    (∀ e e', IsPlain e → IsPlain e' → e.request.depth ≤ maxPayloadDepth →
      e'.request.depth ≤ maxPayloadDepth →
      ∀ frame, e.encode = .ok frame → e'.encode = .ok frame → e = e') := by
  refine ⟨?_, ?_, ?_⟩
  · intro e he
    constructor
    · rintro ⟨frame, hframe, hdecode⟩
      exact ⟨((exists_encode_iff he).mp ⟨frame, hframe⟩).1, depth_of_decode hdecode⟩
    · rintro ⟨hwhole, hdepth⟩
      have hroom : e.request.depth ≤ Datum.maxDepth := hdepth.trans (by decide)
      obtain ⟨frame, hframe⟩ := (exists_encode_iff he).mpr ⟨hwhole, hroom⟩
      exact ⟨frame, hframe, decode_encode he hdepth hframe⟩
  · intro e he hragged frame hframe
    exact hragged ((exists_encode_iff he).mp ⟨frame, hframe⟩).1
  · intro e e' he he' hdepth hdepth' frame hframe hframe'
    have hsame := decode_encode he hdepth hframe
    rw [decode_encode he' hdepth' hframe'] at hsame
    exact (Except.ok.inj hsame).symm

end

/-- Quotation marks, a backslash and an empty key come back. -/
theorem round_trip_plain_quotes :
    let e : Envelope := ⟨.whole "say \"hi\"",
      .map [(.whole "", .list [.int (-1), .null]), (.whole "\\", .text (.whole "\",\n"))]⟩
    e.IsPlain ∧ e.IsWhole ∧ e.request.depth ≤ maxPayloadDepth ∧
      ∃ frame, e.encode = .ok frame ∧ decode (.text (.whole frame)) = .ok e ∧
        ∀ e', IsPlain e' → e'.request.depth ≤ maxPayloadDepth → e'.encode = .ok frame → e' = e := by
  intro e
  have hplain : e.IsPlain := by
    refine ⟨?_, ⟨trivial, ?_, trivial, trivial⟩, trivial, trivial⟩
    · show [Text.whole "", Text.whole "\\"].Nodup
      decide
    · exact Json.fewDigits_of_natAbs_lt_ten (by decide)
  have hwhole : e.IsWhole := by
    refine ⟨rfl, ?_, ⟨trivial, trivial, trivial, trivial⟩, rfl, trivial⟩
    show ∀ k ∈ [Text.whole "", Text.whole "\\"], k.IsWhole
    simp [Text.IsWhole]
  have hdepth : e.request.depth ≤ maxPayloadDepth := by decide
  obtain ⟨hback, -, hinj⟩ := round_trip_plain
  obtain ⟨frame, hframe, hdecode⟩ := (hback e hplain).mpr ⟨hwhole, hdepth⟩
  refine ⟨hplain, hwhole, hdepth, frame, hframe, hdecode, ?_⟩
  intro e' hplain' hdepth' hframe'
  exact hinj e' e hplain' hplain hdepth' hdepth frame hframe' hframe

/-- Zero inside so many lists. -/
def nested : Nat → Datum
  | 0 => .int 0
  | n + 1 => .list [nested n]

theorem depth_nested (n : Nat) : (nested n).depth = n + 1 := by
  induction n with
  | zero => rfl
  | succ n ih => rw [nested, Datum.depth, Datum.depthOfItems, Datum.depthOfItems, ih, Nat.max_zero]

theorem everywhere_nested {p : Datum → Prop} (hzero : p (.int 0)) (hlist : ∀ items, p (.list items))
    (n : Nat) : (nested n).Everywhere p := by
  induction n with
  | zero => exact hzero
  | succ n ih => exact ⟨hlist _, ih, trivial⟩

/-- An envelope whose command is a lone surrogate has no frame; one with zero inside 200 lists has a frame
and does not come back from it. -/
theorem no_return_surrogate_nested :
    (IsPlain ⟨.ragged [0xD800], .null⟩ ∧
      ∀ frame, encode ⟨.ragged [0xD800], .null⟩ ≠ .ok frame) ∧
    (IsPlain ⟨.whole "c", nested 200⟩ ∧ ∃ frame, encode ⟨.whole "c", nested 200⟩ = .ok frame ∧
      decode (.text (.whole frame)) ≠ .ok ⟨.whole "c", nested 200⟩) := by
  have hplain : IsPlain ⟨.whole "c", nested 200⟩ :=
    everywhere_nested Json.fewDigits_zero (fun _ => trivial) 200
  have hwhole : IsWhole ⟨.whole "c", nested 200⟩ :=
    ⟨rfl, everywhere_nested trivial (fun _ => trivial) 200⟩
  have hdepth : (nested 200).depth = 201 := depth_nested 200
  refine ⟨⟨trivial, fun frame h => nomatch h⟩, hplain, ?_⟩
  obtain ⟨frame, hframe⟩ := (exists_encode_iff hplain).mpr ⟨hwhole, hdepth.trans_le (by decide)⟩
  refine ⟨frame, hframe, fun hdecode => ?_⟩
  have hle : (nested 200).depth ≤ maxPayloadDepth := depth_of_decode hdecode
  rw [hdepth] at hle
  exact absurd hle (by decide)

end RemoteSigner.Envelope
