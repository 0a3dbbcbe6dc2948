/- # Agreement.Main: the program

Carries out the script of a command line on real files.
-/
import Agreement.CommandLine.Run
import Std.Time.DateTime.Timestamp

namespace Agreement

/-- What an error of the operating system means for a file. -/
def FileFault.ofError : IO.Error → FileFault
  | .noFileOrDirectory .. => .missing
  | .inappropriateType _ 21 _ => .directory
  | .inappropriateType .. => .notDirectory
  | .invalidArgument _ 36 _ => .nameTooLong
  | .permissionDenied .. => .denied
  | _ => .notText

/-- Carries out a script on real files. -/
def Script.perform {α : Type} : Script α → IO α
  | done a => return a
  | read path next => do
    let result ← (IO.FS.readFile path).toBaseIO
    (next (result.mapError .ofError)).perform
  | write path content next => do
    let result ← (IO.FS.writeFile path content).toBaseIO
    (next (result.mapError .ofError)).perform

/-- The present time. -/
def Timestamp.now : IO Timestamp := do
  let t ← Std.Time.Timestamp.now
  let nanoseconds := t.toNanosecondsSinceUnixEpoch.val
  return ⟨nanoseconds / 1000000000, (nanoseconds % 1000000000).toNat⟩

end Agreement

open Agreement CommandLine

/-- Runs the program and prints what it leaves. -/
def main (args : List String) : IO UInt32 := do
  let env := ⟨← IO.getEnv "TAVNIT_LEXICON", ← IO.getEnv "TAVNIT_LIBRARY"⟩
  let exit ← (run (← Timestamp.now) env args).perform
  IO.print exit.output
  IO.eprint exit.errors
  return UInt32.ofNat exit.code
