import RemoteSigner.Cli.Plan
import RemoteSigner.Json.Printer

/-!
# Running the program

The program makes one call per run. Its reply goes to the output as indented JSON; faults and log records
go to the error output. The exit status is 0 for a reply, 2 for wrong usage and 1 for any other failure.
-/

namespace RemoteSigner.Cli

/-- A piece of the error output: a log record, which is written with the time, or plain text. -/
inductive Notice where
  | record (r : LogRecord)
  | text (s : String)
  deriving DecidableEq, Repr

/-- What a run leaves behind. -/
structure Report (κ : Type) where
  exitCode : Nat
  output : String
  notices : List Notice
  dialled : List Dial
  /-- The connection as the run left it. -/
  connection : Option κ
  /-- A fault that the program does not handle. -/
  escaped : Option Fault

namespace Report

variable {κ : Type}

/-- A run that ended before it connected. -/
def ended (exitCode : Nat) (output : String) (notices : List Notice) : Report κ :=
  ⟨exitCode, output, notices, [], none, none⟩

/-- The error output; `stamp` is what stands before each log record. -/
def errorOutput (stamp : String) (r : Report κ) : String :=
  String.join (r.notices.map fun
    | .record record => stamp ++ record.line ++ "\n"
    | .text s => s)

end Report

/-- How a misuse is worded, under usage lines if it is about an option that does not exist. -/
def Misuse.report (topic : Topic) : Misuse → String
  | .noSuchOption name =>
    topic.usageLines ++ "Error: No such option " ++ quoted name ++ "." ++
      suggestion (topic.options.map Opt.name) name ++ "\n"
  | .needsArgument name => "Error: Option " ++ quoted name ++ " requires an argument.\n"
  | .takesNoValue name => "Error: Option " ++ quoted name ++ " does not take a value.\n"

/-- The report of a run that stopped before it connected. -/
def Stop.report {κ : Type} : Stop → Report κ
  | .help topic => .ended 0 topic.help []
  | .noArguments => .ended 2 "" [.text Topic.program.help]
  | .misused m topic => .ended 2 "" [.text (m.report topic)]
  | .usage topic message => .ended 2 "" [.text (topic.usageLines ++ "Error: " ++ message ++ "\n")]
  | .fault f => ⟨1, "", [], [], none, some f⟩

variable [Readers]

/-- The call of a plan, after which the connection is closed. -/
def Plan.act (p : Plan) : Act p.command.reply.Value := Client.callWithin false p.command p.request

/-- A reply as it is printed. -/
def printed {α : Type} (shape : Shape α) (a : α) : Except Fault String :=
  match shape.dump a with
  | .ok j => .ok (j.indented .byName ++ "\n")
  | .error f => .error (.unwritable f)

/-- The records that are written at a level. -/
def noticesAt (level : LogLevel) (log : List LogRecord) : List Notice :=
  (log.filter fun r => level.rank ≤ r.level.rank).map .record

/-- The report of a connected run that ended with a fault. -/
def faultNotices (p : Plan) : Fault → List Notice × Option Fault
  | .transport m c =>
    ([.text ("Cannot reach signer at " ++ p.settings.urlText ++ ": " ++
      (Fault.transport m c).describe ++ "\n")], none)
  | .client origin cause =>
    ([.text ("Signer request failed: " ++ (Fault.client origin cause).describe ++ "\n")], none)
  | f => ([], some f)

/-- The report of a run with the given output and log. -/
def Plan.conclude {κ : Type} (p : Plan) (dialled : List Dial) (connection : Option κ)
    (log : List LogRecord) : Except Fault String → Report κ
  | .ok output => ⟨0, output, noticesAt p.level log, dialled, connection, none⟩
  | .error f =>
    let (notices, escaped) := faultNotices p f
    ⟨1, "", noticesAt p.level log ++ notices, dialled, connection, escaped⟩

/-- Connects, makes the call, closes the connection, and reports. -/
def Plan.perform {κ : Type} (p : Plan) (files : Files) (connection : Connection κ)
    (dialler : Dial → Except Fault κ) : Report κ :=
  let attempt := connect p.settings files dialler
  match attempt.result with
  | .error f => p.conclude attempt.dialled none attempt.log (.error f)
  | .ok state =>
    let ran := p.act.run (.webSocket connection (some p.settings.urlText)) state
    let reply := (ran.result.getD (.error .cancelled)).bind (printed p.command.reply.shape)
    p.conclude attempt.dialled (some ran.state) (attempt.log ++ ran.log) reply

/-- One run of the program. -/
def run {κ : Type} (s : Surroundings) (connection : Connection κ)
    (dialler : Dial → Except Fault κ) : Report κ :=
  match plan s with
  | .error stop => stop.report
  | .ok p => p.perform s.files connection dialler

end RemoteSigner.Cli
