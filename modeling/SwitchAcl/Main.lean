import SwitchAcl.CommandLine.Report

/-!
# The program

Reads the two files a command line names, and shows the report of its run: the documents on the
standard output and the log on the standard error.
-/

namespace SwitchAcl.CommandLine

/-- Why reading a file failed.  The code of an error may come with either sign. -/
def faultOf : IO.Error → FileFault
  | .noFileOrDirectory .. => .missing
  | .inappropriateType _ code _ => if code = 20 ∨ code = -20 then .notFolder else .isFolder
  | e => .other e.toString

/-- The text in a file. -/
def readFile (path : String) : IO (Except FileFault String) := do
  try
    return decodeText (← IO.FS.readBinFile path)
  catch e =>
    return .error (faultOf e)

/-- A report is shown. -/
def Report.print (r : Report) : IO UInt32 := do
  for warning in r.warnings do
    (← IO.getStderr).putStrLn warning
  (← IO.getStdout).putStr r.output
  for line in r.log do
    (← IO.getStderr).putStrLn line.long
  return r.exitCode.toUInt32

/-- A command line is run. -/
def runProgram (args : List String) : IO UInt32 := do
  match Invocation.parse args with
  | .ok i => (i.report (← readFile i.settingsPath) (← readFile i.snapshotPath)).print
  | .error stop =>
    match stop with
    | .refused e => (← IO.getStderr).putStrLn ("error: " ++ e.message)
    | .help => pure ()
    | .version => pure ()
    stop.report.print

end SwitchAcl.CommandLine

def main (args : List String) : IO UInt32 := SwitchAcl.CommandLine.runProgram args
