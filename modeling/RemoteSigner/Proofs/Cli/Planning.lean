import Mathlib
import RemoteSigner.Channel.Script
import RemoteSigner.Cli.Run
import RemoteSigner.Proofs.Settings.Loading
import RemoteSigner.Proofs.Text.Utf8

/-!
# Command lines and their requests

A command line is a heading, which is everything but the request, and bytes that are to be the request
(`plan_eq`, `readCommandWords_eq`). Bytes that spell no request of the command stop the program before it
connects (`unfit_request_stops`).
-/

namespace RemoteSigner.Cli

/-- What a command line says before its request: the level, the settings, the command and its words. -/
structure Heading where
  level : LogLevel
  settings : Settings
  command : Command
  words : List String

/-- All of a command line but the words of its command. -/
def heading (s : Surroundings) : Except Stop Heading := do
  if s.arguments.isEmpty then throw .noArguments
  let words ← readProgramWords s s.arguments
  let level ← readLevel s.environment words
  let (command, rest) ← readCommand s words.others
  let settings ← readSettings s words
  return ⟨level, settings, command, rest⟩

namespace Heading

/-- The bytes that the words of the command supply as its request, from a file or the input. -/
def source (h : Heading) (s : Surroundings) : Except Stop Bytes := do
  let words ← parseCommandWords h.command h.words
  let source ← readSource s h.command (sourceName words)
  refuseSurplus h.command words.others.tail
  return source

/-- The plan under the heading. -/
def planOf (h : Heading) (request : Datum) : Plan := ⟨h.level, h.settings, h.command, request⟩

end Heading

variable {s : Surroundings} {h : Heading} {t : WireType} {source : Bytes}

/-! ## Plans -/

section

variable [Readers]

theorem plan_eq (s : Surroundings) :
    plan s = heading s >>= fun h => h.planOf <$> readCommandWords s h.command h.words := by
  unfold plan heading
  cases s.arguments.isEmpty with
  | true => rfl
  | false =>
    simp only [Bool.false_eq_true, if_false, bind_assoc, pure_bind, map_eq_pure_bind]
    rfl

theorem plan_eq_ok {p : Plan} : plan s = .ok p ↔ ∃ h request, heading s = .ok h ∧
    readCommandWords s h.command h.words = .ok request ∧ h.planOf request = p := by
  simp only [plan_eq, bind_eq_ok, map_eq_ok, exists_and_left]

theorem readCommandWords_eq (ht : h.command.requestType? = some t) :
    readCommandWords s h.command h.words = h.source s >>= readRequest h.command t := by
  unfold readCommandWords Heading.source
  simp only [ht, bind_assoc, pure_bind]

theorem plan_of_source (hheading : heading s = .ok h) (ht : h.command.requestType? = some t)
    (hsource : h.source s = .ok source) : plan s = h.planOf <$> readRequest h.command t source := by
  rw [plan_eq, hheading]
  show h.planOf <$> readCommandWords s h.command h.words = _
  rw [readCommandWords_eq ht, hsource]
  rfl

/-! ## Requests -/

variable {c : Command}

theorem readRequest_eq_ok {request : Datum} : readRequest c t source = .ok request ↔ ∃ text v,
    source = Utf8.encodeText text ∧ t.shape.decode (.text (.whole text)) = .ok v ∧
      t.shape.toDatum v = request := by
  simp only [← Utf8.decodeText_eq_ok]
  unfold readRequest
  cases Utf8.decodeText source with
  | error m => simp
  | ok text =>
    simp only [Except.ok.injEq, exists_and_left, exists_eq_left']
    cases t.shape.decode (.text (.whole text)) <;> simp

theorem readRequest_unfit {text : String} {r : Rejection}
    (hr : t.shape.decode (.text (.whole text)) = .error r) :
    readRequest c t (Utf8.encodeText text) =
      .error (.usage (.command c) ("Invalid value for REQUEST: " ++ r.headline)) := by
  unfold readRequest
  rw [Utf8.decodeText_eq_ok.mpr rfl]
  simp only [hr]
  rfl

/-- Bytes that are no text are not wrong usage: the fault of reading them is passed on as it is. -/
theorem readRequest_malformed {m : Utf8.Malformed} (hm : Utf8.decodeText source = .error m) :
    readRequest c t source = .error (.fault (.malformed m)) := by
  unfold readRequest
  rw [hm]

/-! ## What a plan holds -/

/-- The settings of a plan have the types they are meant to have. -/
theorem wellTyped_of_plan {p : Plan} (hplan : plan s = .ok p) : p.settings.WellTyped := by
  obtain ⟨h, request, hheading, -, rfl⟩ := plan_eq_ok.mp hplan
  unfold heading at hheading
  cases hempty : s.arguments.isEmpty with
  | true =>
    rw [hempty] at hheading
    cases hheading
  | false =>
    rw [hempty] at hheading
    simp only [Bool.false_eq_true, if_false, bind_eq_ok] at hheading
    obtain ⟨words, -, level, -, ⟨command, rest⟩, -, settings, hsettings, hh⟩ := hheading
    cases hh
    exact wellTyped_readSettings hsettings

/-- The request of a plan was read from a UTF-8 text that spells it. -/
theorem request_of_plan {p : Plan} (hplan : plan s = .ok p) (ht : p.command.requestType? = some t) :
    ∃ h source text v, heading s = .ok h ∧ h.source s = .ok source ∧ source = Utf8.encodeText text ∧
      t.shape.decode (.text (.whole text)) = .ok v ∧ t.shape.toDatum v = p.request := by
  obtain ⟨h, request, hheading, hrequest, rfl⟩ := plan_eq_ok.mp hplan
  rw [readCommandWords_eq ht] at hrequest
  obtain ⟨source, hsource, hrequest⟩ := bind_eq_ok.mp hrequest
  obtain ⟨text, v, htext, hv, hdatum⟩ := readRequest_eq_ok.mp hrequest
  exact ⟨h, source, text, v, hheading, hsource, htext, hv, hdatum⟩

/-! ## Runs that stop -/

variable {κ : Type}

theorem run_of_stop {stop : Stop} (hstop : plan s = .error stop) (connection : Connection κ)
    (dialler : Dial → Except Fault κ) : run s connection dialler = stop.report := by
  unfold run
  rw [hstop]

/-- A request that its command has no use for stops the program before it connects, with nothing on the
output. If the source of the request is UTF-8, then the program ends as used in a wrong way, and names the
request; if it is not, then the fault of decoding it escapes. -/
theorem unfit_request_stops (s : Surroundings) (connection : Connection κ)
    (dialler : Dial → Except Fault κ) {h : Heading} (hheading : heading s = .ok h) {t : WireType}
    (ht : h.command.requestType? = some t) {source : Bytes} (hsource : h.source s = .ok source)
    (hunfit : ∀ text v, source = Utf8.encodeText text →
      t.shape.decode (.text (.whole text)) ≠ .ok v) :
    let r := run s connection dialler
    (r.dialled = [] ∧ r.connection = none ∧ r.output = "") ∧
    (r.exitCode = 2 ↔ ∃ text, source = Utf8.encodeText text) ∧
    (∀ text, source = Utf8.encodeText text → ∃ rejection,
      t.shape.decode (.text (.whole text)) = .error rejection ∧
      r = .ended 2 "" [.text ((Topic.command h.command).usageLines ++
        "Error: " ++ ("Invalid value for REQUEST: " ++ rejection.headline) ++ "\n")]) ∧
    ∀ m, Utf8.decodeText source = .error m → r = ⟨1, "", [], [], none, some (.malformed m)⟩ := by
  have hplan := plan_of_source hheading ht hsource
  cases hm : Utf8.decodeText source with
  | error m =>
    rw [readRequest_malformed hm] at hplan
    have hrun : run s connection dialler = ⟨1, "", [], [], none, some (.malformed m)⟩ :=
      run_of_stop hplan connection dialler
    have hnone : ∀ text, source ≠ Utf8.encodeText text := by
      intro text htext
      rw [Utf8.decodeText_eq_ok.mpr htext] at hm
      cases hm
    rw [hrun]
    refine ⟨⟨rfl, rfl, rfl⟩, ?_, fun text htext => absurd htext (hnone text), ?_⟩
    · simp [hnone]
    · intro m' hm'
      cases hm'
      rfl
  | ok text =>
    obtain rfl := Utf8.decodeText_eq_ok.mp hm
    cases hr : t.shape.decode (.text (.whole text)) with
    | ok v => exact absurd hr (hunfit text v rfl)
    | error rejection =>
      rw [readRequest_unfit hr] at hplan
      rw [run_of_stop hplan connection dialler]
      refine ⟨⟨rfl, rfl, rfl⟩, ⟨fun _ => ⟨text, rfl⟩, fun _ => rfl⟩, ?_, ?_⟩
      · intro text' htext'
        rw [Utf8.decodeText_eq_ok.mpr htext'] at hm
        cases hm
        exact ⟨rejection, hr, rfl⟩
      · intro m hm'
        cases hm'

end

/-- To sign what a byte spells that begins no character ends with a fault that escapes. To sign what an
object without entries spells is wrong usage. Neither connects, though it could. -/
theorem unfit_request_stops_sign :
    let s (input : Bytes) : Surroundings := ⟨["sign"], fun _ => none, ⟨fun _ => .missing, fun _ => .ok ()⟩, input⟩
    let h : Heading := ⟨.warning, Settings.default, .sign, []⟩
    let r (input : Bytes) := run (s input) .script fun _ => .ok (.ofSteps [] [])
    (∀ input, heading (s input) = .ok h ∧ h.source (s input) = .ok input) ∧
      h.command.requestType? = some .signRequest ∧
      (∃ m, Utf8.decodeText [0xFF] = .error m ∧
        r [0xFF] = ⟨1, "", [], [], none, some (.malformed m)⟩) ∧
      (r (Utf8.encodeText "\x7b\x7d")).exitCode = 2 ∧ (r (Utf8.encodeText "\x7b\x7d")).dialled = [] := by
  intro s h r
  have hsource : ∀ input, heading (s input) = .ok h ∧ h.source (s input) = .ok input := by
    intro input
    exact ⟨by cbv, by cbv⟩
  obtain ⟨m, hm⟩ : ∃ m, Utf8.decodeText [0xFF] = .error m := ⟨_, rfl⟩
  have hbyte : ∀ text v, [0xFF] = Utf8.encodeText text →
      WireType.signRequest.shape.decode (.text (.whole text)) ≠ .ok v := by
    intro text v htext
    rw [Utf8.decodeText_eq_ok.mpr htext] at hm
    cases hm
  have hobject : ∀ text v, Utf8.encodeText "\x7b\x7d" = Utf8.encodeText text →
      WireType.signRequest.shape.decode (.text (.whole text)) ≠ .ok v := by
    intro text v htext
    have hbraces := Utf8.decodeText_eq_ok.mpr htext
    rw [Utf8.decodeText_eq_ok.mpr rfl] at hbraces
    cases hbraces
    have hmissing : ∃ rejection, WireType.signRequest.shape.decode (.text (.whole "\x7b\x7d")) =
        .error rejection := ⟨_, rfl⟩
    obtain ⟨rejection, hrejection⟩ := hmissing
    simp [hrejection]
  obtain ⟨-, -, -, hescaped⟩ := unfit_request_stops (s [0xFF]) .script (fun _ => .ok (.ofSteps [] []))
    (hsource _).1 rfl (hsource _).2 hbyte
  obtain ⟨⟨hdialled, -, -⟩, hcode, -, -⟩ := unfit_request_stops (s (Utf8.encodeText "\x7b\x7d")) .script
    (fun _ => .ok (.ofSteps [] [])) (hsource _).1 rfl (hsource _).2 hobject
  exact ⟨hsource, rfl, ⟨m, hm, hescaped m hm⟩, hcode.mpr ⟨_, rfl⟩, hdialled⟩

end RemoteSigner.Cli
