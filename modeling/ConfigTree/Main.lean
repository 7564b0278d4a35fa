import ConfigTree.Command.Run

set_option relaxedAutoImplicit false
set_option autoImplicit false

/-!
# The command line

The program parses its arguments, reads the files that the command names, and shows and writes what
the report of the command holds.
-/

namespace ConfigTree

/-- The fault behind a failed operation on a file. The number of an error may come negated. -/
def faultOf : IO.Error → FileFault
  | .noFileOrDirectory _ _ _ => .missing
  | .inappropriateType _ code _ =>
    if code = 20 ∨ code + 20 = 0 then .notDirectory else .directory
  | .invalidArgument _ code _ =>
    if code = 36 ∨ code + 36 = 0 then .nameTooLong else .nullInName
  | .permissionDenied _ _ _ => .other "Permission denied (os error 13)"
  | e => .other (toString e)

/-- The text of a file. -/
def readText (file : String) : IO (Except FileFault String) := do
  try
    return decodeText (← IO.FS.readBinFile file)
  catch e => return .error (faultOf e)

/-- Writes a text to a file; the outcome is the fault that prevented it. -/
def writeText (file content : String) : IO (Option FileFault) := do
  try
    IO.FS.writeFile file content
    return none
  catch e => return some (faultOf e)

/-- How the program is called. -/
def usage : String :=
  "Usage: zyconf [-v] get FILE PATH [--raw] [-f FORMAT] [-d DEFAULT]\n" ++
  "       zyconf [-v] dump FILE [-r] [-f FORMAT] [-o OUTPUT]\n" ++
  "       zyconf [-v] check FILES..."

/-- Runs a command line; the outcome is the exit code. -/
def runCommandLine (line : CommandLine) : IO UInt32 := do
  let contents ← line.command.files.mapM fun file => return (file, ← readText file)
  let report := line.command.run fun file => (contents.lookup file).getD (.error .missing)
  let fault ← match report.pending with
    | some (file, content) => writeText file content
    | none => pure none
  let report := report.afterWrite fault
  IO.print report.output
  IO.eprint (report.course line.verbose)
  return report.verdict.code.toUInt32

end ConfigTree

/-- The program. -/
def main (arguments : List String) : IO UInt32 := do
  match ConfigTree.CommandLine.parse? arguments with
  | some line => ConfigTree.runCommandLine line
  | none =>
    IO.eprintln ConfigTree.usage
    return 2
