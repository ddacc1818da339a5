/-
The program: reads its arguments, its environment and the file of the signing secret, and writes
what a start comes to.
-/
import Latchkey.CommandLine.Launch
import Latchkey.Draws
import Latchkey.SecretSources

open Latchkey Latchkey.CommandLine

/-- The content of a file, if it can be read. -/
def readIfThere (path : String) : IO (Option Bytes) := do
  try return some (← IO.FS.readBinFile path).data.toList
  catch _ => return none

/-- The environment variables that matter to the program, with their values. -/
def readEnvironment : IO Environment := do
  let names := LogFilter.variableName :: "XDG_DATA_HOME" :: "HOME" :: SecretSources.variableNames
    ++ OptionKey.all.filterMap OptionKey.environmentName?
  names.filterMapM fun name => return (← IO.getEnv name).map (name, ·)

/-- Resolves the signing secret, and keeps it in its file if it is a fresh one. -/
def resolveSecret (env : Environment) : IO String := do
  let data := SecretSources.dataDirectory (env.get? "XDG_DATA_HOME") (env.get? "HOME")
  let directory := SecretSources.directory data
  let path := directory ++ "/" ++ SecretSources.fileName
  let file ← readIfThere path
  let values := SecretSources.variableNames.map fun name => (env.get? name).map Bytes.ofString
  let fresh := OpaqueToken.ofBytes (← IO.getRandomBytes OpaqueToken.length.toUSize).data.toList
  let (secret, after) := SecretSources.resolve fresh ⟨values, file, true⟩
  if after.file ≠ file then
    try
      IO.FS.createDirAll directory
      IO.FS.writeFile path secret
    catch _ => pure ()
  return secret

def main (arguments : List String) : IO UInt32 := do
  let file ← readIfThere ".env"
  let env ← readEnvironment
  let launch := Launch.start arguments env file
  if launch.resolvesSecret then
    let _ ← resolveSecret (Launch.environment env file)
  match launch with
  | .ended report =>
    IO.print report.output
    for line in report.logs do IO.eprintln line
    if report.message.isEmpty then pure () else IO.eprintln report.message
    return report.exitCode
  | .ready _ logs =>
    for line in logs do IO.eprintln line
    IO.eprintln "Error: no database driver is linked in"
    return 1
