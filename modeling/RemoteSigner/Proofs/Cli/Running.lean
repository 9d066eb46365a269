import Mathlib
import RemoteSigner.Proofs.Cli.Planning
import RemoteSigner.Proofs.Client.Closing
import RemoteSigner.Proofs.Client.Connecting
import RemoteSigner.Proofs.Client.Requests

/-!
# What a run does and reports

A run under a plan connects, makes the call of the plan, closes the connection and reports how the call
ended (`run_connected`), or reports why it could not connect (`run_unconnected`). The request was read from
text and so has a frame (`Command.encode_of_decode`); the reply was too, and so can be printed
(`exists_printed`). Together that is `run_end_to_end`; which failures to connect are told, and which escape,
is `connect_failure_exactly`.
-/

namespace RemoteSigner

theorem Command.encode_of_decode [Readers] {c : Command} {t : WireType} (ht : c.requestType? = some t)
    {content : Content} {v : t.Value} (hv : t.shape.decode content = .ok v) :
    ∃ dump, t.shape.dumpText v = .ok dump ∧
      (Envelope.mk (.whole c.label) (t.shape.toDatum v)).encode = .ok (c.frameText dump) := by
  have heach := t.shape.each_of_decode t.wellFormed hv
  have hshort : t.shape.IsShort v := heach.mono (fun _ h => h) fun _ _ => trivial
  obtain ⟨j, hj⟩ := t.shape.exists_dump (heach.mono (fun _ _ => trivial) fun _ h => h)
  refine ⟨j.compact .byName, map_eq_ok.mpr ⟨j, hj, rfl⟩, ?_⟩
  cases c with
  | address => cases ht
  | sync => cases ht; exact encode_envelope (c := .sync) hshort hj
  | sign => cases ht; exact encode_envelope (c := .sign) hshort hj
  | transactionData => cases ht; exact encode_envelope (c := .transactionData) hshort hj
  | identity => cases ht; exact encode_envelope (c := .identity) hshort hj
  | signWithTransactionData =>
    cases ht
    exact encode_envelope (c := .signWithTransactionData) hshort hj

namespace Cli

variable {κ : Type}

theorem exists_printed [Readers] {t : WireType} {content : Content} {v : t.Value}
    (hv : t.shape.decode content = .ok v) :
    ∃ j, t.shape.dump v = .ok j ∧ printed t.shape v = .ok (j.indented .byName ++ "\n") := by
  have heach := t.shape.each_of_decode t.wellFormed hv
  obtain ⟨j, hj⟩ := t.shape.exists_dump (heach.mono (fun _ _ => trivial) fun _ h => h)
  refine ⟨j, hj, ?_⟩
  unfold printed
  rw [hj]

/-! ## Reports -/

@[simp] theorem connection_conclude (p : Plan) (dialled : List Dial) (connection : Option κ)
    (log : List LogRecord) (reply : Except Fault String) :
    (p.conclude dialled connection log reply).connection = connection := by
  cases reply <;> rfl

/-- The report without the record of the calls on its connection. -/
def Report.forget (r : Report (κ × List Call)) : Report κ :=
  { r with connection := r.connection.map Prod.fst }

theorem forget_conclude (p : Plan) (dialled : List Dial) (connection : Option (κ × List Call))
    (log : List LogRecord) (reply : Except Fault String) :
    (p.conclude dialled connection log reply).forget =
      p.conclude dialled (connection.map Prod.fst) log reply := by
  cases reply <;> rfl

theorem conclude_system {f : Fault} (hf : f.isSystem) (p : Plan) (dialled : List Dial)
    (connection : Option κ) : p.conclude dialled connection [] (.error f) =
      ⟨1, "", [], dialled, connection, some f⟩ := by
  cases f with
  | system _ | tls _ => rfl
  | _ => cases hf

theorem line_ne_empty (s : String) : s ++ "\n" ≠ "" := by
  intro h
  have hlength := congrArg String.length h
  simp at hlength

/-! ## Runs under a plan -/

section

variable [Readers] {s : Surroundings} {p : Plan} {c : Connection κ} {dialler : Dial → Except Fault κ}

theorem run_unconnected {f : Fault} (hplan : plan s = .ok p)
    (hf : (connect p.settings s.files dialler).result = .error f) : run s c dialler =
      p.conclude (connect p.settings s.files dialler).dialled none [] (.error f) := by
  unfold run
  rw [hplan]
  simp only [Plan.perform, hf, log_connect_of_error hf]

theorem run_connected {k : κ} (hplan : plan s = .ok p)
    (hk : (connect p.settings s.files dialler).result = .ok k) :
    let ran := p.act.run (.webSocket c (some p.settings.urlText)) k
    run s c dialler = p.conclude (connect p.settings s.files dialler).dialled (some ran.state)
      ((connect p.settings s.files dialler).log ++ ran.log)
      ((ran.result.getD (.error .cancelled)).bind (printed p.command.reply.shape)) := by
  unfold run
  rw [hplan]
  simp only [Plan.perform, hk]

/-! ## Records of calls -/

/-- A run with a record of the calls that are made on its connection. -/
def recordedRun (s : Surroundings) (c : Connection κ) (dialler : Dial → Except Fault κ) :
    Report (κ × List Call) :=
  run s c.recording fun d => (·, []) <$> dialler d

theorem recordedRun_unconnected {f : Fault} (hplan : plan s = .ok p)
    (hf : (connect p.settings s.files dialler).result = .error f) : recordedRun s c dialler =
      p.conclude (connect p.settings s.files dialler).dialled none [] (.error f) := by
  rw [recordedRun, run_unconnected hplan (by rw [connect_map, hf]; rfl), connect_map]

/-- The record changes nothing else. -/
theorem forget_recordedRun (s : Surroundings) (c : Connection κ) (dialler : Dial → Except Fault κ) :
    (recordedRun s c dialler).forget = run s c dialler := by
  cases hplan : plan s with
  | error stop =>
    rw [recordedRun, run_of_stop hplan, run_of_stop hplan]
    cases stop <;> rfl
  | ok p =>
    cases hk : (connect p.settings s.files dialler).result with
    | error f =>
      rw [run_unconnected hplan hk, recordedRun_unconnected hplan hk, forget_conclude]
      rfl
    | ok k =>
      rw [recordedRun, run_connected hplan hk, run_connected hplan (by rw [connect_map, hk]; rfl),
        forget_conclude, connect_map, ← p.act.forget_run_recording c _ k []]
      rfl

/-- With a connection a run makes the calls of its exchange, closes the connection, and reports how the
exchange ended. -/
theorem recordedRun_connected (hclose : ∀ k, (c.close k).1 = .ok ()) {k : κ} (hplan : plan s = .ok p)
    (hk : (connect p.settings s.files dialler).result = .ok k) : ∃ k' log,
      recordedRun s c dialler = p.conclude (connect p.settings s.files dialler).dialled
        (some (k', (c.course p.command p.request k).calls ++ [.close])) log
        (((c.course p.command p.request k).outcome p.command).bind
          (printed p.command.reply.shape)) := by
  obtain ⟨k', hended⟩ := Client.ended_callWithin hclose (some p.settings.urlText) p.command
    p.request k
  have hresult : (p.act.run (.webSocket c.recording (some p.settings.urlText)) (k, [])).result = _ :=
    congrArg Prod.fst hended
  have hstate : (p.act.run (.webSocket c.recording (some p.settings.urlText)) (k, [])).state = _ :=
    congrArg Prod.snd hended
  rw [recordedRun, run_connected hplan (by rw [connect_map, hk]; rfl), hresult, hstate, connect_map]
  exact ⟨k', _, rfl⟩

/-! ## Signers that cannot be reached -/

/-- Every fault of dialling is explained by one transport fault, and the program tells it; what makes
connecting fail otherwise is a file that a secure connection is to trust and whose certificates cannot be
loaded. The fault of that file is passed on before anything is dialled, and escapes the program. -/
theorem connect_failure_exactly (dialler : Dial → Except Fault κ)
    (hdialler : ∀ d f, dialler d = .error f → f.isConnection ∨ f.isSystem) :
    (∀ (settings : Settings) (files : Files), settings.WellTyped →
      (settings.LacksTrust files → ∃ f, settings.tls files = .error f ∧ f.isSystem ∧
        connect settings files dialler = ⟨[], .error f, []⟩) ∧
      (¬ settings.LacksTrust files → ∃ d : Dial, settings .url = .text d.url ∧
        (connect settings files dialler).dialled = [d] ∧
        ((∃ k, dialler d = .ok k ∧ (connect settings files dialler).result = .ok k) ∨
          ∃ f, dialler d = .error f ∧ (connect settings files dialler).result =
            .error (.transport (some ("Failed to connect to " ++ settings.urlText ++ ": " ++ f.describe))
              (some f))))) ∧
    ∀ (s : Surroundings) (p : Plan) (c : Connection κ) (f : Fault), plan s = .ok p →
      (connect p.settings s.files dialler).result = .error f →
      p.settings.WellTyped ∧
      (p.settings.LacksTrust s.files → run s c dialler = ⟨1, "", [], [], none, some f⟩) ∧
      (¬ p.settings.LacksTrust s.files → ∃ d : Dial, p.settings .url = .text d.url ∧ run s c dialler =
        ⟨1, "", [.text ("Cannot reach signer at " ++ p.settings.urlText ++ ": " ++ f.describe ++ "\n")],
          [d], none, none⟩) := by
  refine ⟨fun settings files htyped => ⟨fun hlacks => connect_of_lacking htyped hlacks dialler,
    connect_of_trusting hdialler htyped⟩, ?_⟩
  intro s p c f hplan hf
  have htyped := wellTyped_of_plan hplan
  have hrun : run s c dialler = _ := run_unconnected hplan hf
  refine ⟨htyped, fun hlacks => ?_, fun htrust => ?_⟩
  · obtain ⟨g, -, hsystem, hconnect⟩ := connect_of_lacking htyped hlacks dialler
    rw [hconnect] at hf hrun
    cases hf
    rw [hrun, conclude_system hsystem]
  · obtain ⟨d, hurl, hdialled, ⟨k, -, hk⟩ | ⟨g, -, hg⟩⟩ := connect_of_trusting hdialler htyped htrust
    · rw [hk] at hf
      cases hf
    · rw [hg] at hf
      cases hf
      rw [hrun, hdialled]
      exact ⟨d, hurl, rfl⟩

end

/-- A secure connection that times out is told as such, unless it is to trust the certificates of an empty
file. -/
theorem connect_failure_exactly_empty :
    let dialler : Dial → Except Fault Script := fun _ => .error (.system ⟨true, none, some "timed out"⟩)
    let secure : Settings := Settings.default.set .url (.text (.whole "wss://c"))
    let pinned : Settings := secure.set .caFile (.text (.whole "c.pem"))
    let files : Files := ⟨fun _ => .file [], fun content =>
      if content.isEmpty then .error "no certificate or crl found" else .ok ()⟩
    let s (arguments : List String) : Surroundings :=
      ⟨"--url" :: "wss://c" :: arguments, fun _ => none, files, []⟩
    plan (s ["address"]) = .ok ⟨.warning, secure, .address, .text (.whole getRequest)⟩ ∧
      plan (s ["--ca-file", "c.pem", "address"]) =
        .ok ⟨.warning, pinned, .address, .text (.whole getRequest)⟩ ∧
      secure.WellTyped ∧ ¬ secure.LacksTrust files ∧
      pinned.WellTyped ∧ pinned.LacksTrust files ∧
      (run (s ["address"]) .script dialler).notices =
        [.text "Cannot reach signer at wss://c: Failed to connect to wss://c: timed out\n"] ∧
      (run (s ["--ca-file", "c.pem", "address"]) .script dialler).notices = [] ∧
      (run (s ["--ca-file", "c.pem", "address"]) .script dialler).escaped.isSome := by
  intro dialler secure pinned files s
  have hplan : plan (s ["address"]) = .ok ⟨.warning, secure, .address, .text (.whole getRequest)⟩ := by cbv
  have hplan' : plan (s ["--ca-file", "c.pem", "address"]) =
      .ok ⟨.warning, pinned, .address, .text (.whole getRequest)⟩ := by cbv
  have hdialler : ∀ d f, dialler d = .error f → f.isConnection ∨ f.isSystem := by
    intro d f hf
    cases hf
    exact .inr rfl
  have htrust : ¬ secure.LacksTrust files := by
    rintro ⟨-, name, hname, -⟩
    cases hname
  have hlacks : pinned.LacksTrust files := by
    refine ⟨rfl, "c.pem", rfl, by decide, ?_⟩
    rintro ⟨content, hstate, hcertify⟩
    cases hstate
    cases hcertify
  have hfault : (connect secure files dialler).result =
      .error (.transport (some "Failed to connect to wss://c: timed out")
        (some (.system ⟨true, none, some "timed out"⟩))) := by cbv
  obtain ⟨f, -, -, hconnect⟩ := connect_of_lacking (wellTyped_of_plan hplan') hlacks dialler
  obtain ⟨-, hruns⟩ := connect_failure_exactly dialler hdialler
  obtain ⟨htyped, -, htold⟩ := hruns _ _ .script _ hplan hfault
  obtain ⟨htyped', hescaped, -⟩ := hruns _ _ .script f hplan' (congrArg Attempt.result hconnect)
  obtain ⟨d, -, hrun⟩ := htold htrust
  rw [hrun, hescaped hlacks]
  exact ⟨hplan, hplan', htyped, htrust, htyped', hlacks, by cbv, rfl, rfl⟩

/-! ## A run from end to end -/

section

variable [Readers] {s : Surroundings} {p : Plan} {c : Connection κ} {dialler : Dial → Except Fault κ}

theorem frame_of_plan (hplan : plan s = .ok p) {t : WireType} (ht : p.command.requestType? = some t) :
    ∃ h source text v dump, heading s = .ok h ∧ h.source s = .ok source ∧
      source = Utf8.encodeText text ∧ t.shape.decode (.text (.whole text)) = .ok v ∧
      t.shape.dumpText v = .ok dump ∧
      (Envelope.mk (.whole p.command.label) p.request).encode = .ok (p.command.frameText dump) := by
  obtain ⟨h, source, text, v, hheading, hsource, htext, hv, hdatum⟩ := request_of_plan hplan ht
  obtain ⟨dump, hdump, hencode⟩ := Command.encode_of_decode ht hv
  exact ⟨h, source, text, v, dump, hheading, hsource, htext, hv, hdump, hdatum ▸ hencode⟩

theorem printed_of_outcome {command : Command} {course : Course} {v : command.reply.Value}
    (hv : course.outcome command = .ok v) : ∃ j, command.reply.shape.dump v = .ok j ∧
      (course.outcome command).bind (printed command.reply.shape) = .ok (j.indented .byName ++ "\n") := by
  obtain ⟨frame, text, -, hdecode⟩ := Course.outcome_eq_ok.mp hv
  rw [hv]
  exact exists_printed hdecode

section

variable (hclose : ∀ k, (c.close k).1 = .ok ()) (hplan : plan s = .ok p)

include hclose hplan

theorem recordedRun_replied {k : κ} (hk : (connect p.settings s.files dialler).result = .ok k)
    {v : p.command.reply.Value} (hv : (c.course p.command p.request k).outcome p.command = .ok v) :
    ∃ j, p.command.reply.shape.dump v = .ok j ∧ (recordedRun s c dialler).exitCode = 0 ∧
      (recordedRun s c dialler).output = j.indented .byName ++ "\n" := by
  obtain ⟨k', log, hrun⟩ := recordedRun_connected hclose hplan hk
  obtain ⟨j, hj, hprinted⟩ := printed_of_outcome hv
  rw [hrun, hprinted]
  exact ⟨j, hj, rfl, rfl⟩

theorem recordedRun_failed
    (hnone : ∀ k v, (connect p.settings s.files dialler).result = .ok k →
      (c.course p.command p.request k).outcome p.command ≠ .ok v) :
    (recordedRun s c dialler).exitCode = 1 ∧ (recordedRun s c dialler).output = "" := by
  cases hk : (connect p.settings s.files dialler).result with
  | error f =>
    rw [recordedRun_unconnected hplan hk]
    exact ⟨rfl, rfl⟩
  | ok k =>
    obtain ⟨k', log, hrun⟩ := recordedRun_connected hclose hplan hk
    rw [hrun]
    cases ho : (c.course p.command p.request k).outcome p.command with
    | error f => exact ⟨rfl, rfl⟩
    | ok v => exact absurd ho (hnone k v hk)

/-- A run under a plan whose request has a frame sends that frame once, if it connects, and nothing else. -/
theorem calls_recordedRun {frame : String}
    (hencode : (Envelope.mk (.whole p.command.label) p.request).encode = .ok frame) {last : κ}
    {calls : List Call} (h : (recordedRun s c dialler).connection = some (last, calls)) :
    calls = [.send (.whole frame), .close] ∨ calls = [.send (.whole frame), .receive, .close] := by
  cases hk : (connect p.settings s.files dialler).result with
  | error f =>
    rw [recordedRun_unconnected hplan hk] at h
    cases h
  | ok k =>
    obtain ⟨k', log, hrun⟩ := recordedRun_connected hclose hplan hk
    rw [hrun, connection_conclude] at h
    cases h
    obtain hsent | hanswered := Client.calls_course (c := c) (k := k) hencode
    · exact .inl (by rw [hsent]; rfl)
    · exact .inr (by rw [hanswered]; rfl)

end

/-- A run under a plan, where the connection can always be closed. A request is read from UTF-8 text, and its
dump is in the one frame that is sent. If connecting fails with a transport fault, then nothing is sent, and
the error output says why. If it succeeds, then the connection is closed once, after the last call that the
exchange makes on it. The program succeeds, and has output, exactly if the exchange has a reply; every fault
of the client is told. -/
theorem run_end_to_end (s : Surroundings) {p : Plan} (hplan : plan s = .ok p) (c : Connection κ)
    (hclose : ∀ k, (c.close k).1 = .ok ()) (dialler : Dial → Except Fault κ) :
    let attempt := connect p.settings s.files dialler
    let exchange (k : κ) := Client.callOver c (some p.settings.urlText) p.command p.request k
    let r := recordedRun s c dialler
    r.forget = run s c dialler ∧
    (∀ t, p.command.requestType? = some t → ∃ h source text v dump,
      heading s = .ok h ∧ h.source s = .ok source ∧ source = Utf8.encodeText text ∧
      t.shape.decode (.text (.whole text)) = .ok v ∧ t.shape.dumpText v = .ok dump ∧
      ∀ k calls, r.connection = some (k, calls) →
        calls = [.send (.whole (p.command.frameText dump)), .close] ∨
        calls = [.send (.whole (p.command.frameText dump)), .receive, .close]) ∧
    (∀ m cause, attempt.result = .error (.transport m cause) →
      p.settings .url = .text (.whole p.settings.urlText) ∧
      r = ⟨1, "", [.text ("Cannot reach signer at " ++ p.settings.urlText ++ ": " ++
        (Fault.transport m cause).describe ++ "\n")], attempt.dialled, none, none⟩) ∧
    (∀ k, attempt.result = .ok k → .close ∉ (exchange k).state.2 ∧
      ∃ k', r.connection = some (k', (exchange k).state.2 ++ [.close])) ∧
    (r.exitCode = 0 ↔ ∃ k v, attempt.result = .ok k ∧ (exchange k).result = some (.ok v)) ∧
    (r.output ≠ "" ↔ ∃ k v, attempt.result = .ok k ∧ (exchange k).result = some (.ok v)) ∧
    (∀ k v, attempt.result = .ok k → (exchange k).result = some (.ok v) →
      ∃ j, p.command.reply.shape.dump v = .ok j ∧ r.output = j.indented .byName ++ "\n") ∧
    ∀ k origin cause, attempt.result = .ok k →
      (exchange k).result = some (.error (.client origin cause)) →
      r.exitCode = 1 ∧ r.output = "" ∧ r.escaped = none ∧ ∃ records : List LogRecord,
        r.notices = records.map .record ++ [.text ("Signer request failed: " ++
          (Fault.client origin cause).describe ++ "\n")] := by
  intro attempt exchange r
  have hresult : ∀ k reply, (exchange k).result = some reply →
      (c.course p.command p.request k).outcome p.command = reply :=
    fun k reply h => Option.some.inj ((Client.result_callOver _ _ _ _ k).symm.trans h)
  have hcalls : ∀ k, (exchange k).state.2 = (c.course p.command p.request k).calls :=
    fun k => Client.calls_callOver _ _ _ _ k
  have hreplied : (∃ k v, attempt.result = .ok k ∧ (exchange k).result = some (.ok v)) →
      r.exitCode = 0 ∧ r.output ≠ "" := by
    rintro ⟨k, v, hk, hv⟩
    obtain ⟨j, -, hcode, houtput⟩ := recordedRun_replied hclose hplan hk (hresult k _ hv)
    exact ⟨hcode, houtput ▸ line_ne_empty _⟩
  have hfailed : (¬ ∃ k v, attempt.result = .ok k ∧ (exchange k).result = some (.ok v)) →
      r.exitCode = 1 ∧ r.output = "" := by
    intro hnone
    refine recordedRun_failed hclose hplan fun k v hk hv => hnone ⟨k, v, hk, ?_⟩
    exact (Client.result_callOver _ _ _ _ k).trans (congrArg some hv)
  refine ⟨forget_recordedRun s c dialler, ?_, ?_, ?_, ⟨?_, fun h => (hreplied h).1⟩,
    ⟨?_, fun h => (hreplied h).2⟩, ?_, ?_⟩
  · intro t ht
    obtain ⟨h, source, text, v, dump, hheading, hsource, htext, hv, hdump, hencode⟩ :=
      frame_of_plan hplan ht
    exact ⟨h, source, text, v, dump, hheading, hsource, htext, hv, hdump,
      fun last calls hconnection => calls_recordedRun hclose hplan hencode hconnection⟩
  · intro m cause hf
    exact ⟨(wellTyped_of_plan hplan).url_eq, recordedRun_unconnected hplan hf⟩
  · intro k hk
    obtain ⟨k', log, hrun⟩ := recordedRun_connected hclose hplan hk
    rw [hcalls, show r = _ from hrun, connection_conclude]
    exact ⟨Client.close_notMem_calls _, k', rfl⟩
  · intro hcode
    by_contra hnone
    rw [(hfailed hnone).1] at hcode
    cases hcode
  · intro houtput
    by_contra hnone
    exact houtput (hfailed hnone).2
  · intro k v hk hv
    obtain ⟨j, hj, -, houtput⟩ := recordedRun_replied hclose hplan hk (hresult k _ hv)
    exact ⟨j, hj, houtput⟩
  · intro k origin cause hk hf
    obtain ⟨k', log, hrun⟩ := recordedRun_connected hclose hplan hk
    rw [show r = _ from hrun, hresult k _ hf]
    exact ⟨rfl, rfl, rfl, _, rfl⟩

end

/-- The identity command with an empty request, to a signer that replies, to one that leaves, and to one that
cannot be reached. -/
theorem run_end_to_end_identity :
    let s : Surroundings := ⟨["identity"], fun _ => none, ⟨fun _ => .missing, fun _ => .ok ()⟩,
      Utf8.encodeText "\x7b\"virtual_assets\":[]\x7d"⟩
    let p : Plan := ⟨.warning, Settings.default, .identity,
      WireType.identityRequest.shape.toDatum ⟨[]⟩⟩
    let replying : Script := .ofSteps [.ok (.text (.whole "\x7b\"proofs\":[]\x7d"))] []
    let leaving : Script := .ofSteps [] []
    let frame : Text := .whole "\x7b\"command\":\"identity\",\"request\":\x7b\"virtual_assets\":[]\x7d\x7d"
    let replied := recordedRun s .script fun _ => .ok replying
    let left := recordedRun s .script fun _ => .ok leaving
    let refused := recordedRun s .script fun _ => .error (.system ⟨false, some 111, some "refused"⟩)
    plan s = .ok p ∧ (∀ k, (Connection.script.close k).1 = .ok ()) ∧
      replied.exitCode = 0 ∧ replied.output ≠ "" ∧
      (∃ k, replied.connection = some (k, [.send frame, .receive, .close])) ∧
      left.exitCode = 1 ∧ left.output = "" ∧
      (∃ k, left.connection = some (k, [.send frame, .receive, .close])) ∧
      (∃ records : List LogRecord, left.notices = records.map .record ++ [.text
        "Signer request failed: Signer connection closed while waiting for a reply\n"]) ∧
      refused.exitCode = 1 ∧ refused.connection = none ∧ refused.notices = [.text
        ("Cannot reach signer at ws://127.0.0.1:29987: " ++
          "Failed to connect to ws://127.0.0.1:29987: [Errno 111] refused\n")] := by
  intro s p replying leaving frame replied left refused
  have hplan : plan s = .ok p := by cbv
  have hclose : ∀ k, (Connection.script.close k).1 = .ok () := fun k => rfl
  let exchange (k : Script) := Client.callOver .script (some p.settings.urlText) p.command p.request k
  have hreplied : (exchange replying).result = some (.ok ⟨[]⟩) := by cbv
  have hleft : (exchange leaving).result = some (.error (.client .endOfStream none)) := by cbv
  have hcalls : (exchange replying).state.2 = [.send frame, .receive] := by cbv
  have hcalls' : (exchange leaving).state.2 = [.send frame, .receive] := by cbv
  obtain ⟨-, -, -, hclosed, hcode, houtput, -, -⟩ :=
    run_end_to_end s hplan .script hclose fun _ => .ok replying
  obtain ⟨-, -, -, hclosed', -, -, -, hfault⟩ :=
    run_end_to_end s hplan .script hclose fun _ => .ok leaving
  obtain ⟨-, -, hrefused, -⟩ := run_end_to_end s hplan .script hclose fun _ =>
    .error (.system ⟨false, some 111, some "refused"⟩)
  obtain ⟨-, hreport⟩ := hrefused _ _ rfl
  obtain ⟨-, k, hk⟩ := hclosed replying rfl
  obtain ⟨-, k', hk'⟩ := hclosed' leaving rfl
  obtain ⟨hcode', houtput', -, hnotices⟩ := hfault leaving .endOfStream none rfl hleft
  refine ⟨hplan, hclose, hcode.mpr ⟨replying, ⟨[]⟩, rfl, hreplied⟩,
    houtput.mpr ⟨replying, ⟨[]⟩, rfl, hreplied⟩, ⟨k, hk.trans ?_⟩, hcode', houtput', ⟨k', hk'.trans ?_⟩,
    hnotices, ?_, ?_, ?_⟩
  · rw [hcalls]
    rfl
  · rw [hcalls']
    rfl
  · rw [show refused = _ from hreport]
  · rw [show refused = _ from hreport]
  · rw [show refused = _ from hreport]
    rfl

end Cli

end RemoteSigner
