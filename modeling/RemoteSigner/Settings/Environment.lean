import RemoteSigner.Settings.Basic
import RemoteSigner.Settings.Number

/-!
# Settings from the environment

Six of the settings can be given by environment variables, and all of them by overrides, which win. An
unset variable and an empty one are the same; an override that is null is as good as absent.
-/

namespace RemoteSigner

/-- The values of environment variables. Only values that are UTF-8 are covered. -/
abbrev Environment := String → Option String

namespace Environment

/-- The value of a variable, if it is set and not empty. -/
def value? (env : Environment) (name : String) : Option String :=
  (env name).bind fun s => if s = "" then none else some s

end Environment

/-- A setting that an environment variable can give, and how its text is read. -/
structure EnvironmentSetting where
  setting : Setting
  variableName : String
  read : String → Except Fault Datum

namespace EnvironmentSetting

/-- The fault of a variable whose text is not what it must be. -/
def unreadable (name expected text why : String) : Fault :=
  .plain .value (some (name ++ " must be " ++ expected ++ ", got " ++ quoted text))
    (some (.plain .value (some why) none))

/-- A number of seconds. -/
def seconds (name : String) (text : String) : Except Fault Float :=
  (SettingNumber.readFloat text).mapError (unreadable name "a number" text)

/-- A number of bytes. -/
def size (name : String) (text : String) : Except Fault Int :=
  (SettingNumber.readInteger text).mapError (unreadable name "an integer" text)

/-- Text that switches a setting on. -/
def isOn (text : String) : Bool :=
  ["1", "true", "yes", "on"].contains (text.map Char.toLower)

/-- The settings that the environment can give, in the order in which they are read. An interval or a
size that is not greater than zero stands for none. -/
def all : List EnvironmentSetting :=
  [ ⟨.url, "SIGNER_CLIENT_URL", fun s => .ok (.text (.whole s))⟩,
    ⟨.openTimeout, "SIGNER_CLIENT_OPEN_TIMEOUT", fun s =>
      .float <$> seconds "SIGNER_CLIENT_OPEN_TIMEOUT" s⟩,
    ⟨.pingInterval, "SIGNER_CLIENT_PING_INTERVAL", fun s =>
      (fun x => if Binary64.isPositive x then .float x else .null) <$>
        seconds "SIGNER_CLIENT_PING_INTERVAL" s⟩,
    ⟨.maxSize, "SIGNER_CLIENT_MAX_SIZE", fun s =>
      (fun n => if 0 < n then .int n else .null) <$> size "SIGNER_CLIENT_MAX_SIZE" s⟩,
    ⟨.verifyTls, "SIGNER_CLIENT_VERIFY_TLS", fun s => .ok (.bool (isOn s))⟩,
    ⟨.caFile, "SIGNER_CLIENT_CA_FILE", fun s => .ok (.text (.whole s))⟩ ]

/-- The settings with this one as the environment has it. -/
def apply (env : Environment) (settings : Settings) (e : EnvironmentSetting) :
    Except Fault Settings :=
  match env.value? e.variableName with
  | none => .ok settings
  | some text => settings.set e.setting <$> e.read text

end EnvironmentSetting

namespace Settings

/-- The settings as the environment has them. -/
def ofEnvironment (env : Environment) : Except Fault Settings :=
  EnvironmentSetting.all.foldlM (EnvironmentSetting.apply env) default

/-- The fault of a name that is no setting's. -/
def unknownName (name : String) : Fault :=
  .plain .type (some ("Unknown config option: " ++ name)) none

/-- The settings with one override. -/
def override (settings : Settings) (o : String × Datum) : Except Fault Settings :=
  match Setting.ofName? o.1 with
  | none => .error (unknownName o.1)
  | some s =>
    match o.2 with
    | .null => .ok settings
    | v => .ok (settings.set s v)

/-- A name that stands for the kind of settings to load, so that no override can have it. -/
def reservedName : String := "cls"

/-- The settings as the environment and then the overrides have them. -/
def load (env : Environment) (overrides : List (String × Datum)) : Except Fault Settings :=
  if overrides.any (·.1 == reservedName) then .error (nameTaken "from_env" reservedName)
  else ofEnvironment env >>= fun settings => overrides.foldlM override settings

end Settings

end RemoteSigner
