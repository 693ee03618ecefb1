import Songbook.CommandLine.Program

/-!
# The command line program

The program on the files, the environment and the streams of the system.
-/

namespace Songbook.CommandLine

/-- What the system says of an error. Some calls give its number with the sign turned. -/
def systemText (e : IO.Error) : String :=
  let told (code : UInt32) (details : String) :=
    details ++ " (os error " ++ toString (if code < 0x80000000 then code else 0 - code) ++ ")"
  match e with
  | .noFileOrDirectory _ code _ => told code "No such file or directory"
  | .permissionDenied _ code _ => told code "Permission denied"
  | .inappropriateType _ code details => told code details
  | .resourceExhausted _ code details => told code details
  | .otherError code details => told code details
  | _ => e.toString

/-- Tells whether an action failed, and why. -/
def attempt {α : Type} (x : IO α) : IO (Except String α) :=
  try return .ok (← x)
  catch e => return .error (systemText e)

/-- Writes a text to a file that is opened in a mode. -/
def writeText (mode : IO.FS.Mode) (path text : String) : IO Unit :=
  IO.FS.withFile path mode fun file => do
    file.putStr text
    file.flush

/-- The system as a host. -/
def systemHost : Host IO where
  lookup := fun name => IO.getEnv name
  home := return none
  read path := attempt (IO.FS.readBinFile path)
  input := do (← IO.getStdin).readBinToEnd
  create path := attempt (writeText .write path "")
  append path text := attempt (writeText .append path text)
  print text := attempt do
    let output ← IO.getStdout
    output.putStr text
    output.flush

end Songbook.CommandLine

def main (arguments : List String) : IO UInt32 := do
  let report ← Songbook.CommandLine.run Songbook.CommandLine.systemHost arguments
  (← IO.getStderr).putStr (report.log ++ report.reason)
  return report.ending.exitCode
