import Mathlib.Init
import StreamLinks.CommandLine.Run

/-!
# The program

The words of the command line are read, files are looked up on the disk, and
what a run leaves behind is printed.  No message gets through from here, and
log lines have the time at which the run ends.
-/

namespace StreamLinks

/-- The file error behind an error of the system, whose code may be negated. -/
def FileError.ofSystem : IO.Error → FileError
  | .noFileOrDirectory .. => .missing
  | .inappropriateType _ code details =>
      if min code (0 - code) = 21 then .isFolder
      else if min code (0 - code) = 20 then .notFolder
      else .other details
  | .alreadyExists .. => .alreadyThere
  | .permissionDenied .. => .forbidden
  | error => .other (toString error)

def diskFiles : Files IO where
  read path := do
    match ← (IO.FS.readBinFile path).toBaseIO with
    | .error error => return .error (.ofSystem error)
    | .ok bytes =>
        match Text.decode? bytes.toList with
        | some text => return .ok text
        | none => return .error .notText
  makeFolder path := do
    match ← (IO.FS.createDirAll path).toBaseIO with
    | .error error => return .error (.ofSystem error)
    | .ok () => return .ok ()

/-- The time of log lines, where it is known. -/
def timeText : IO String := do
  match ← Std.Time.PlainDateTime.now.toBaseIO with
  | .ok now => return now.format "uuuu-MM-dd HH:mm:ss.SSS"
  | .error _ => return "Unknown Time"

end StreamLinks

open StreamLinks in
def main (words : List String) : IO UInt32 := do
  let configVariable ← IO.getEnv "TUBELINK_CONFIG"
  let logVariable ← IO.getEnv "RUST_LOG"
  let ending ←
    CommandLine.runWith diskFiles (Client.network Wire.unreachable) configVariable words id
  let time ← timeText
  let outcome := CommandLine.Outcome.ofEnding ending
  IO.print outcome.output
  IO.eprint (ending.errorText fun settings event =>
    Log.shownLine settings logVariable time event)
  return outcome.exitCode.toUInt32
