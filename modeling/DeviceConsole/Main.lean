import DeviceConsole.CommandLine.Run
import DeviceConsole.Editor.Prompt
import Std.Time.DateTime.Timestamp

/-!
# `Main` — the program in its surroundings

Reads the arguments, the user's choices, the one settings file that counts and the clock, hands them to
`CommandLine.begin`, and prints what it reports. Lines are asked for on a terminal only.

## Contents

* `timeNow`, `placesNow`, `readTree` — the surroundings;
* `emit` — prints a report;
* `converse` — the console, line by line;
* `main` — the program.
-/

namespace DeviceConsole

open CommandLine (Arguments Launch Report)

/-- The time of the clock. -/
def timeNow : IO Time := return (← Std.Time.Timestamp.now).toNanosecondsSinceUnixEpoch.val

/-- The places of the user. -/
def placesNow : IO Places :=
  return .ofChoices (← IO.getEnv "HOME") (← IO.getEnv "XDG_CONFIG_HOME")

/-- What a path leads to, as a tree of files; what is no readable file counts as a folder. -/
def readTree (path : String) : IO FileTree := do
  try
    let bytes ← IO.FS.readBinFile path
    let content := match String.fromUTF8? bytes with
      | some text => .text text
      | none => .bytes
    return .ofPaths [(path, content)]
  catch
    | .noFileOrDirectory .. => return .ofPaths []
    | _ => return .ofPaths [(path ++ "/unreadable", .bytes)]

/-- Prints a report and gives its exit code. -/
def emit (report : Report) : IO UInt32 := do
  let output ← IO.getStdout
  output.putStr report.output
  output.flush
  IO.eprint report.reports
  return UInt32.ofNat report.code

/-- Asks for lines until one says farewell or the input ends. -/
partial def converse (launch : Launch) (session : Session) : IO Unit := do
  let output ← IO.getStdout
  let prompt : Editor.Prompt := ⟨launch.settings.console.prompt, session.backend.debug⟩
  output.putStr (prompt.left ++ Editor.indicator)
  output.flush
  let line ← (← IO.getStdin).getLine
  unless line.isEmpty do
    let (answered, next) := CommandLine.answerAt (← timeNow) launch (Text.trim line) session
    let _ ← emit { output := answered.output, reports := answered.reports }
    unless answered.farewell do converse launch next

end DeviceConsole

open DeviceConsole in
/-- The program. -/
def main (args : List String) : IO UInt32 := do
  let places ← placesNow
  let path := ((CommandLine.Arguments.parse args).toOption.bind (·.configFile)).getD places.settingsPath
  let tree ← readTree path
  let now ← timeNow
  let colours ← (← IO.getStdout).isTty
  match CommandLine.begin places tree now colours args with
  | .error error => emit error.report
  | .ok (.console launch session report) =>
    if ← (← IO.getStdin).isTty then
      let _ ← emit report
      converse launch session
      emit (CommandLine.closing (← timeNow) launch)
    else emit (CommandLine.Stage.withoutTerminal now (.console launch session report))
  | .ok (.finished report) => emit report
