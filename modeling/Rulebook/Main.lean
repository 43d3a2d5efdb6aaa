-- The program: reads the variables and the files that the arguments name,
-- and shows what the command line makes of them.
import Rulebook.CommandLine

namespace Rulebook.Program

/-- The variables of the environment that the settings are read from. -/
def readVariables : IO Variables := do
  let found ← Settings.variableNames.mapM fun name => do return (name, ← IO.getEnv name)
  return Variables.change [] found

/-- The bytes of a file; nothing if it cannot be read. -/
def readBytes (name : String) : IO (Option (List UInt8)) := do
  try return some (← IO.FS.readBinFile name).toList
  catch _ => return none

/-- The named files, under their paths. -/
def readFiles (names : List String) : IO Files := do
  let found ← names.mapM fun name => do return (FilePath.ofText name, ← readBytes name)
  return fun path => (found.lookup path).join

/-- The names of the files to read: that of the variables, and those that
the arguments name. -/
def fileNames (args : List String) : List String :=
  match CommandLine.arguments args with
  | .ok a => CommandLine.variableFileName :: a.command.fileNames
  | .error _ => []

def usage : String :=
  "usage: rulebook [-h] [-q | -v | --debug] (eval | lookups | operations) ..."

/-- Shows how the command line ended, and gives its exit code. -/
def finish : CommandLine.Ending → IO UInt32
  | .stopped s => do
    if s = .help then IO.println usage else IO.eprintln usage
    return s.exitCode.toUInt32
  | .escaped e => do
    IO.eprintln e.message
    return 1
  | .done screen log => do
    log.forM fun line => IO.eprintln line
    screen.text.forM fun line => IO.println line
    return screen.exitCode.toUInt32

end Rulebook.Program

def main (args : List String) : IO UInt32 := do
  let files ← Rulebook.Program.readFiles (Rulebook.Program.fileNames args)
  Rulebook.Program.finish
    (Rulebook.CommandLine.run files (← Rulebook.Program.readVariables) args)
