/-
Starting the program, up to the moment when the database would be contacted.
-/
import Latchkey.CommandLine.DatabaseUrl
import Latchkey.CommandLine.Help
import Latchkey.CommandLine.LogFilter
import Latchkey.Http.Api

namespace Latchkey.CommandLine

/-- What the program has written when it ends. -/
structure Report where
  exitCode : UInt32
  output : String
  /-- Log lines without their time. -/
  logs : List String
  /-- The line that tells about a failure. -/
  message : String
deriving DecidableEq, Repr

inductive Launch
  | ended (report : Report)
  /-- Everything is in order and the database has to be contacted. -/
  | ready (options : Options) (logs : List String)
deriving DecidableEq, Repr

namespace Launch

/-- The log line of a start. -/
def startLine (o : Options) : String :=
  "INFO " ++ programName ++ ": starting " ++ programName ++ " version=" ++ Text.quoted version
    ++ " max_connections=" ++ toString o.maxConnections

/-- The fields of the log line, the message among them. -/
def startFields : List String := ["message", "version", "max_connections"]

/-- The log lines of a start that are shown. -/
def startLogs (env : Environment) (o : Options) : List String :=
  let filter := LogFilter.ofVariable (env.get? LogFilter.variableName)
  if filter.shows programName startFields .info then [startLine o] else []

/-- The environment with what a file adds to it, if there is one. -/
def environment (env : Environment) (file : Option Bytes) : Environment :=
  match file with
  | some bytes => env.load bytes
  | none => env

/-- Starts with arguments, an environment, and the file that adds to it, if there is one. -/
def start (arguments : List String) (env : Environment) (file : Option Bytes) : Launch :=
  let env := environment env file
  match Options.ofArguments arguments env with
  | .error .help => .ended ⟨0, helpText env, [], ""⟩
  | .error .version => .ended ⟨0, versionText version, [], ""⟩
  | .error halt => .ended ⟨2, "", [], Terminal.firstLine halt.message⟩
  | .ok options =>
    let logs := startLogs env options
    match DatabaseUrl.check options.databaseUrl with
    | .error fault => .ended ⟨1, "", logs, "Error: Configuration(" ++ fault.describe ++ ")"⟩
    | .ok () => .ready options logs

/-- Whether the options were read, so that the signing secret is needed. -/
def resolvesSecret : Launch → Bool
  | ended report => report.exitCode == 1
  | ready _ _ => true

end Launch

end Latchkey.CommandLine
