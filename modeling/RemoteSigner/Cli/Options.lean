/-!
# Options of a command line

A word of the command line is an option if it starts with a dash and is longer than that. A long option
takes its value from behind an equals sign or from the next word, whatever that is. Two dashes end the
options; some command lines end them at the first other word too.
-/

namespace RemoteSigner.Cli

/-- The options of the program and its commands. -/
inductive Opt where
  | url
  | logLevel
  | insecure
  | caFile
  | help
  deriving DecidableEq, Repr

namespace Opt

def name : Opt → String
  | url => "--url"
  | logLevel => "--log-level"
  | insecure => "--insecure"
  | caFile => "--ca-file"
  | help => "--help"

def takesValue : Opt → Bool
  | url | logLevel | caFile => true
  | insecure | help => false

/-- The options of the program itself. -/
def ofProgram : List Opt := [url, logLevel, insecure, caFile, help]

/-- The options of each command. -/
def ofCommand : List Opt := [help]

end Opt

/-- Why the words are no command line. -/
inductive Misuse where
  | noSuchOption (name : String)
  | needsArgument (name : String)
  | takesNoValue (name : String)
  deriving DecidableEq, Repr

/-- The options of a command line with their values, in order, and its other words. -/
structure Words where
  given : List (Opt × String)
  others : List String
  deriving DecidableEq, Repr

namespace Words

/-- Whether an option was given. -/
def has (w : Words) (o : Opt) : Bool := w.given.any (·.1 == o)

/-- The last value that was given for an option. -/
def value? (w : Words) (o : Opt) : Option String :=
  (w.given.reverse.find? (·.1 == o)).map (·.2)

/-- The options that were given, each once, in the order in which they first came. -/
def order (w : Words) : List Opt :=
  (w.given.map (·.1)).eraseDups

/-- The words with one more option in front. -/
def withOption (o : Opt) (v : String) (w : Words) : Words := { w with given := (o, v) :: w.given }

/-- The words with one more other word in front. -/
def withOther (s : String) (w : Words) : Words := { w with others := s :: w.others }

end Words

/-- The name and the attached value of an option. -/
def splitOption (word : List Char) : String × Option String :=
  let name := word.takeWhile (· != '=')
  (String.ofList name,
    match word.drop name.length with
    | [] => none
    | _ :: value => some (String.ofList value))

/-- The name by which an unknown option is refused: all of a long one, the first letter of a short one. -/
def refusedName (word : List Char) (name : String) : String :=
  match word with
  | '-' :: '-' :: _ => name
  | d :: c :: _ => String.ofList [d, c]
  | _ => name

/-- What one word of a command line is. -/
inductive WordKind where
  | endOfOptions
  | other
  | flag (o : Opt)
  | valued (o : Opt) (attached : Option String)
  | misuse (m : Misuse)
  deriving DecidableEq, Repr

/-- What a word is, where `known` are the options. -/
def classify (known : List Opt) (word : String) : WordKind :=
  match word.toList with
  | ['-', '-'] => .endOfOptions
  | '-' :: c :: rest =>
    let cs := '-' :: c :: rest
    let (name, attached) := splitOption cs
    match known.find? (·.name == name), attached with
    | none, _ => .misuse (.noSuchOption (refusedName cs name))
    | some o, attached =>
      if o.takesValue then .valued o attached
      else if attached.isSome then .misuse (.takesNoValue name)
      else .flag o
  | _ => .other

/-- The options and the other words of a command line; if `interspersed`, options may follow other words. -/
def parseWords (known : List Opt) (interspersed : Bool) : List String → Except Misuse Words
  | [] => .ok ⟨[], []⟩
  | word :: rest =>
    match classify known word with
    | .endOfOptions => .ok ⟨[], rest⟩
    | .other =>
      if interspersed then (Words.withOther word) <$> parseWords known interspersed rest
      else .ok ⟨[], word :: rest⟩
    | .flag o => (Words.withOption o "") <$> parseWords known interspersed rest
    | .valued o (some v) => (Words.withOption o v) <$> parseWords known interspersed rest
    | .valued o none =>
      match rest with
      | [] => .error (.needsArgument word)
      | v :: rest => (Words.withOption o v) <$> parseWords known interspersed rest
    | .misuse m => .error m

end RemoteSigner.Cli
