import RemoteSigner.Cli.Usage
import RemoteSigner.Client.Exchange
import RemoteSigner.Client.Connect
import RemoteSigner.Settings.Environment

/-!
# From a command line to a call

A command line is taken apart in a fixed order, and the first thing wrong with it stops the program: the
program's own words, its options in the order in which they were typed, the name of the command, the
settings, the words of the command, the request. What is left after that is a `Plan`: one call under
settings.
-/

namespace RemoteSigner.Cli

/-- What the program finds when it starts. -/
structure Surroundings where
  arguments : List String
  environment : Environment
  files : Files
  input : Bytes

/-- Why the program stops before it connects. -/
inductive Stop where
  | help (topic : Topic)
  /-- The command line is empty. -/
  | noArguments
  /-- The words are no command line. -/
  | misused (m : Misuse) (topic : Topic)
  /-- The program or a command is used in a wrong way. -/
  | usage (topic : Topic) (message : String)
  /-- Something else went wrong, which is passed on as it is. -/
  | fault (f : Fault)

/-- One call under settings. -/
structure Plan where
  level : LogLevel
  settings : Settings
  command : Command
  request : Datum

/-! ## Wording -/

def invalidValue (hint what : String) : String := "Invalid value for " ++ hint ++ ": " ++ what

def noSuchCommand (name : String) : String :=
  "No such command " ++ quoted name ++ "." ++ suggestion (Command.all.map Command.typed) name

/-- The words of a command that it has no place for. -/
def surplus (words : List String) : String :=
  "Got unexpected extra argument" ++ (if words.length = 1 then "" else "s") ++ " (" ++
    " ".intercalate words ++ ")"

/-! ## Options of the program -/

/-- A logging level is typed in any letter case. -/
def levelOf? (s : String) : Option LogLevel :=
  LogLevel.all.find? fun l => l.label.toLower == s.toLower

/-- The text of the logging level: an option, a variable, or the default. -/
def levelText (env : Environment) (words : Words) : String :=
  match words.value? .logLevel with
  | some s => s
  | none => (env.value? "SIGNER_CLIENT_LOG_LEVEL").getD LogLevel.warning.label

/-- The logging level. -/
def readLevel (env : Environment) (words : Words) : Except Stop LogLevel :=
  let s := levelText env words
  match levelOf? s with
  | some l => .ok l
  | none =>
    .error (.usage .program (invalidValue "'--log-level'"
      (quoted s ++ " is not one of " ++
        ", ".intercalate (LogLevel.all.map fun l => quoted l.label.toLower) ++ ".")))

/-- A file of trusted certificates has to be a file. -/
def checkCaFile (files : Files) (words : Words) : Except Stop Unit :=
  match words.value? .caFile with
  | none => .ok ()
  | some name =>
    let bad (what : String) : Except Stop Unit :=
      .error (.usage .program (invalidValue "'--ca-file'" ("File " ++ quoted name ++ what)))
    match files.state name with
    | .missing => bad " does not exist."
    | .directory => bad " is a directory."
    | .locked => bad " is not readable."
    | .file _ => .ok ()

/-- One option is looked at. -/
def checkOption (s : Surroundings) (words : Words) : Opt → Except Stop Unit
  | .logLevel => (fun _ => ()) <$> readLevel s.environment words
  | .caFile => checkCaFile s.files words
  | _ => .ok ()

/-- The words of the program, with every option looked at. -/
def readProgramWords (s : Surroundings) (arguments : List String) : Except Stop Words := do
  let words ← (parseWords Opt.ofProgram false arguments).mapError (.misused · .program)
  if words.has .help then throw (.help .program)
  (words.order ++ [Opt.logLevel]).forM (checkOption s words)
  return words

/-- The command that the words name. A name that starts with a dash is read as an option once more. -/
def readCommand (s : Surroundings) : List String → Except Stop (Command × List String)
  | [] => .error (.usage .program "Missing command.")
  | name :: rest =>
    match Command.ofTyped? name with
    | some c => .ok (c, rest)
    | none => do
      if name.toList.head? = some '-' then
        let _ ← readProgramWords s (name :: rest)
      throw (.usage .program (noSuchCommand name))

/-- What the options override in the settings. -/
def overrides (words : Words) : List (String × Datum) :=
  let text (o : Opt) : Datum :=
    match words.value? o with
    | some v => .text (.whole v)
    | none => .null
  [ (Setting.url.name, text .url),
    (Setting.verifyTls.name, if words.has .insecure then .bool false else .null),
    (Setting.caFile.name, text .caFile) ]

/-- The settings, from the environment and the options. -/
def readSettings (s : Surroundings) (words : Words) : Except Stop Settings :=
  match Settings.load s.environment (overrides words) with
  | .ok settings => .ok settings
  | .error (.plain .value message cause) =>
    .error (.usage .program (Fault.plain .value message cause).describe)
  | .error f => .error (.fault f)

/-! ## The words of a command -/

/-- The file with the request; a dash stands for the input. -/
def readSource (s : Surroundings) (c : Command) (name : String) : Except Stop Bytes :=
  let bad (why : String) : Except Stop Bytes :=
    .error (.usage (.command c) (invalidValue "'[REQUEST]'" ("'" ++ name ++ "': " ++ why)))
  if name = "-" then .ok s.input
  else
    match s.files.state name with
    | .missing => bad "No such file or directory"
    | .directory => bad "Is a directory"
    | .locked => bad "Permission denied"
    | .file content => .ok content

/-- The words of a command that has no place for them. -/
def refuseSurplus (c : Command) (words : List String) : Except Stop Unit :=
  if words.isEmpty then .ok () else .error (.usage (.command c) (surplus words))

variable [Readers]

/-- The request of type `t` that the bytes spell. -/
def readRequest (c : Command) (t : WireType) (source : Bytes) : Except Stop Datum :=
  match Utf8.decodeText source with
  | .error m => .error (.fault (.malformed m))
  | .ok text =>
    match t.shape.decode (.text (.whole text)) with
    | .ok v => .ok (t.shape.toDatum v)
    | .error r => .error (.usage (.command c) (invalidValue "REQUEST" r.headline))

/-- The words of a command; help about it goes before all else. -/
def parseCommandWords (c : Command) (arguments : List String) : Except Stop Words := do
  let words ← (parseWords Opt.ofCommand true arguments).mapError (.misused · (.command c))
  if words.has .help then throw (.help (.command c))
  return words

/-- The name of the source of a request: the first word of a command, or else a dash. -/
def sourceName (words : Words) : String := words.others.headD "-"

/-- The request that the words of a command call for. -/
def readCommandWords (s : Surroundings) (c : Command) (arguments : List String) :
    Except Stop Datum := do
  let words ← parseCommandWords c arguments
  match c.requestType? with
  | none =>
    refuseSurplus c words.others
    return .text (.whole getRequest)
  | some t =>
    let source ← readSource s c (sourceName words)
    refuseSurplus c words.others.tail
    readRequest c t source

/-- The call that the command line asks for. -/
def plan (s : Surroundings) : Except Stop Plan := do
  if s.arguments.isEmpty then throw .noArguments
  let words ← readProgramWords s s.arguments
  let level ← readLevel s.environment words
  let (command, rest) ← readCommand s words.others
  let settings ← readSettings s words
  let request ← readCommandWords s command rest
  return ⟨level, settings, command, request⟩

/-- Whether the command line asks for a request from the input. -/
def readsInput (s : Surroundings) : Bool :=
  let source : Except Stop (Option String) := do
    let words ← readProgramWords s s.arguments
    let (command, rest) ← readCommand s words.others
    let words ← parseCommandWords command rest
    return command.requestType?.map fun _ => sourceName words
  match source with
  | .ok (some name) => name = "-"
  | _ => false

end RemoteSigner.Cli
