import RemoteSigner.Cli.Options
import RemoteSigner.Signer.Envelope
import RemoteSigner.Text.Quoted
import RemoteSigner.Text.Similar

/-!
# Usage texts

The help of the program and of each command, and the lines that stand above a report of wrong usage.
-/

namespace RemoteSigner

namespace Command

/-- The command as it is typed. -/
def typed : Command → String
  | sync => "sync"
  | sign => "sign"
  | address => "address"
  | transactionData => "transaction-data"
  | identity => "identity"
  | signWithTransactionData => "sign-with-data"

def ofTyped? (s : String) : Option Command := all.find? (·.typed == s)

/-- What the command does, in one sentence. -/
def summary : Command → String
  | sync => "Synchronize the signer with new ledger data."
  | sign => "Sign a transaction."
  | address => "Fetch the signer's receiving address."
  | transactionData => "Fetch raw transaction data for transfer posts."
  | identity => "Fetch identity proofs for virtual assets."
  | signWithTransactionData => "Sign a transaction and return each post with its transaction data."

end Command

namespace Cli

def programName : String := "signer-client"

/-- What stands behind a complaint about a name that is not known: the known names that are like it. -/
def suggestion (known : List String) (name : String) : String :=
  match Similar.names known name with
  | [] => ""
  | [s] => " Did you mean " ++ quoted s ++ "?"
  | ss => " (Did you mean one of: " ++ ", ".intercalate (ss.map quoted) ++ "?)"

/-- What usage texts are about: the program, or one of its commands. -/
inductive Topic where
  | program
  | command (c : Command)
  deriving DecidableEq, Repr

namespace Topic

/-- The options that it takes. -/
def options : Topic → List Opt
  | program => Opt.ofProgram
  | command _ => Opt.ofCommand

/-- How the program or the command is called. -/
def path : Topic → String
  | program => programName
  | command c => programName ++ " " ++ c.typed

/-- What may follow. -/
def synopsis : Topic → String
  | program => "[OPTIONS] COMMAND [ARGS]..."
  | command .address => "[OPTIONS]"
  | command _ => "[OPTIONS] [REQUEST]"

def usageLine (t : Topic) : String := "Usage: " ++ t.path ++ " " ++ t.synopsis ++ "\n"

/-- The lines above a report of wrong usage. -/
def usageLines (t : Topic) : String :=
  t.usageLine ++ "Try '" ++ t.path ++ " --help' for help.\n\n"

/-- Texts under a heading. -/
def paragraph (heading : String) (lines : List String) : String :=
  "\n" ++ heading ++ ":\n" ++ String.join (lines.map fun l => "  " ++ l ++ "\n")

def programOptions : List String :=
  [ "--url TEXT                      Signer WebSocket URL (default:",
    "                                $SIGNER_CLIENT_URL)",
    "--log-level [debug|info|warning|error]",
    "                                Logging level (logs go to stderr)",
    "--insecure                      Skip TLS certificate verification (wss://)",
    "--ca-file FILE                  CA bundle for verifying the signer's",
    "                                certificate",
    "--help                          Show this message and exit." ]

def programCommands : List String :=
  [ "address           Fetch the signer's receiving address.",
    "identity          Fetch identity proofs for virtual assets.",
    "sign              Sign a transaction.",
    "sign-with-data    Sign a transaction and return each post with its...",
    "sync              Synchronize the signer with new ledger data.",
    "transaction-data  Fetch raw transaction data for transfer posts." ]

/-- The help about the program or a command. -/
def help (t : Topic) : String :=
  match t with
  | program =>
    t.usageLine ++ "\n  Signer client - send commands to a signer over WebSocket.\n" ++
      paragraph "Options" programOptions ++ paragraph "Commands" programCommands
  | command c =>
    t.usageLine ++ "\n  " ++ c.summary ++ "\n" ++
      paragraph "Options" ["--help  Show this message and exit."]

end Topic

end Cli

end RemoteSigner
