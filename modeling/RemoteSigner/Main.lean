import RemoteSigner.Channel.Script
import RemoteSigner.Cli.Run

/-!
# The program

Reads what the command line refers to, runs `Cli.run`, and writes what it reports. There is no network
beneath this program, and no library that secures connections: every attempt to connect is refused, and no
certificate is usable.
-/

namespace RemoteSigner.Main

/-- What stands under a name in the file system. -/
def fileState (name : String) : IO FileState := do
  try
    return .file (← IO.FS.readBinFile name).toList
  catch
    | .inappropriateType .. => return .directory
    | .permissionDenied .. => return .locked
    | _ => return .missing

/-- The environment variables that the program looks at. -/
def variableNames : List String :=
  "SIGNER_CLIENT_LOG_LEVEL" :: EnvironmentSetting.all.map (·.variableName)

/-- The names that a word of the command line can refer to: itself, and the value of an option. -/
def mentioned (word : String) : List String :=
  word :: (Cli.splitOption word.toList).2.toList

/-- The value that a list of pairs has for a name. -/
def lookup {α : Type} (pairs : List (String × α)) (name : String) : Option α :=
  (pairs.find? (·.1 == name)).map (·.2)

/-- What the program finds when it starts, with no input yet. -/
def surroundings (arguments : List String) : IO Cli.Surroundings := do
  let mut values := []
  for name in variableNames do
    if let some value ← IO.getEnv name then
      values := (name, value) :: values
  let mut files := []
  for name in (lookup values "SIGNER_CLIENT_CA_FILE").toList ++ arguments.flatMap mentioned do
    files := (name, ← fileState name) :: files
  return ⟨arguments, lookup values,
    ⟨fun name => (lookup files name).getD .missing, fun _ => .error "NO_CERTIFICATE_OR_CRL_FOUND"⟩, []⟩

/-- Every attempt to connect is refused. -/
def refused (_ : Dial) : Except Fault Script :=
  .error (.system ⟨false, none, some "no network"⟩)

end RemoteSigner.Main

open RemoteSigner in
/-- One run of the program. -/
def main (arguments : List String) : IO UInt32 := do
  let mut s ← Main.surroundings arguments
  if Cli.readsInput s then
    s := { s with input := (← (← IO.getStdin).readBinToEnd).toList }
  let report := Cli.run s .script Main.refused
  IO.print report.output
  IO.eprint (report.errorOutput "")
  if let some fault := report.escaped then
    IO.eprintln (fault.name ++ ": " ++ fault.describe)
  return UInt32.ofNat report.exitCode
