import DeviceConsole.CommandLine.Launch
import DeviceConsole.Session
import DeviceConsole.Text.Control

/-!
# `CommandLine.Run` — the whole program

The program carries out a task or the lines of its arguments; without either it opens the console, for which it
needs a terminal. Events are reported beside the output as far as the settings ask for it, but for those of the levels
below information. All that is not a line of the console happens at one time.

## Contents

* `Report` — exit code, output and reports;
* `Event`, `writeEvent`, `eventsOf` — reported events;
* `usage`, `UsageError.report` — arguments that are refused or that only ask for something;
* `Stage`, `begin` — the program up to the console;
* `Answered`, `answerAt` — a line of the console;
* `Stage.withoutTerminal` — the program without a terminal;
* `run` — the whole program without a terminal.
-/

namespace DeviceConsole.CommandLine

/-! ## Reports -/

/-- What the program leaves: an exit code, its output and what stands beside it. -/
structure Report where
  code : Nat := 0
  output : String := ""
  reports : String := ""
  deriving DecidableEq, Repr

/-- Something to report. -/
structure Event where
  level : LogLevel
  text : String
  deriving DecidableEq, Repr

/-- The line of an event, if it is reported at all; the time comes first if it is asked for. What a terminal would
act on is written out. -/
def writeEvent (now : Time) (logging : LoggingSettings) (event : Event) : String :=
  if logging.level.reports event.level then
    let heading := event.level.heading
    (if logging.timestamps then Text.Timestamp.write now ++ " " else "") ++
      Format.repeatText (5 - heading.length) " " ++ heading ++ " " ++ Text.revealAll event.text ++ "\n"
  else ""

/-- The lines of events. -/
def writeEvents (now : Time) (logging : LoggingSettings) (events : List Event) : String :=
  String.join (events.map (writeEvent now logging))

/-- What there is to report about a command and its answer. -/
def eventsOf : Command × Dispatcher.Reply → List Event
  | (.discover, .ok outcome) =>
    [⟨.info, Format.writeCount outcome.devices ++ " devices known after discovery"⟩]
  | (command, .error error) => [⟨.warn, "'" ++ command.name ++ "' failed: " ++ error.message⟩]
  | _ => []

/-- The worker takes commands from now on. -/
def started : Event := ⟨.info, "Command dispatcher started"⟩

/-- The worker takes no commands any more. -/
def ended : Event := ⟨.info, "Command dispatcher stopped"⟩

/-- Ends a report with a result. -/
def Report.close (report : Report) : Except ConsoleError Unit → Report
  | .ok _ => report
  | .error error =>
    { report with code := 1, reports := report.reports ++ "Error: " ++ error.message ++ "\n" }

/-- The arguments that the program takes. This is all the help that there is on them. -/
def usage : String :=
  "Usage: " ++ programName ++ " [-c FILE] [--format FORMAT] [--no-color] [-q] [-v] [--vv] [--debug] " ++
    "[-e LINE]... [version | completion SHELL | config [--show] [--validate] | help [COMMAND]]\n"

/-- The report on arguments that are refused or that only ask for something. -/
def UsageError.report : UsageError → Report
  | helpWanted => { output := usage }
  | versionWanted => { output := versionLine }
  | refusal => { code := 2, reports := "error: " ++ refusal.message ++ "\n\n" ++ usage }

/-! ## Stages -/

/-- The program is over, or the console is open. -/
inductive Stage where
  | finished (report : Report)
  | console (launch : Launch) (session : Session) (report : Report)

/-- The session of a launch. -/
def openSession (now : Time) (launch : Launch) (colours : Bool) : Except ConsoleError Session := do
  let site ← (Backend.ofEntries launch.settings.devices).mapError .settings
  let session := Session.ofBackend { site with debug := launch.settings.console.debug }
    (launch.settings.display.formatter (launch.settings.display.colours && colours))
  let (result, session) := session.start now
  let _ ← result
  return session

/-- Opens the line editor and greets. -/
def openConsole (now : Time) (launch : Launch) (session : Session) (report : Report) : Stage :=
  let logging := launch.settings.logging
  match openEditor launch.settings.history.size with
  | .error error =>
    .finished ({ report with reports := report.reports ++ writeEvent now logging ended }.close (.error error))
  | .ok _ =>
    .console launch session
      { report with
        output := report.output ++ launch.banner
        reports := report.reports ++ writeEvent now logging ⟨.info, "Interactive session started"⟩ }

/-- Carries out the lines of the arguments. -/
def runLines (now : Time) (launch : Launch) (session : Session) (report : Report) : Report :=
  let (batch, _) := session.runBatch now launch.arguments.execute
  let events := batch.answered.flatMap eventsOf ++ [ended]
  { report with
    output := report.output ++ batch.printed
    reports := report.reports ++ writeEvents now launch.settings.logging events }.close batch.result

/-- The program after its settings are found. -/
def proceed (places : Places) (tree : FileTree) (now : Time) (colours : Bool) (launch : Launch) : Stage :=
  let report : Report := { reports := String.join (launch.warnings.map (· ++ "\n")) }
  match launch.perform places tree with
  | some task => .finished ({ report with output := task.printed }.close task.result)
  | none =>
    match openSession now launch colours with
    | .error error => .finished (report.close (.error error))
    | .ok session =>
      let report :=
        { report with reports := report.reports ++ writeEvent now launch.settings.logging started }
      if launch.arguments.execute.isEmpty then openConsole now launch session report
      else .finished (runLines now launch session report)

/-- The program up to the console. Answers are coloured if the settings ask for it and `colours` allows it. -/
def begin (places : Places) (tree : FileTree) (now : Time) (colours : Bool) (args : List String) :
    Except UsageError Stage :=
  (Arguments.parse args).map fun arguments =>
    match Launch.prepare places tree arguments with
    | .error error => .finished (Report.close {} (.error error))
    | .ok launch => proceed places tree now colours launch

/-- What a line of the console leaves: what it prints, what is reported, and whether it says farewell. -/
structure Answered where
  output : String := ""
  reports : String := ""
  farewell : Bool := false
  deriving DecidableEq, Repr

/-- What a line that fails is called in a report. -/
def failureOf (line : String) (error : ConsoleError) : Event :=
  ⟨.warn, "'" ++ Text.trim line ++ "' failed: " ++ error.message⟩

/-- Carries out a line of the console. -/
def answerAt (now : Time) (launch : Launch) (line : String) (session : Session) : Answered × Session :=
  let logging := launch.settings.logging
  let failed (events : List Event) (error : ConsoleError) (next : Session) : Answered :=
    { reports := writeEvents now logging (events ++ [failureOf line error]) ++
        next.formatter.writeError error ++ "\n" }
  match session.answerLine now line with
  | (.error error, next) => (failed [] error next, next)
  | (.ok none, next) => ({}, next)
  | (.ok (some (command, reply)), next) =>
    let events := eventsOf (command, reply)
    match next.outcomeOf command reply with
    | .error error => (failed events error next, next)
    | .ok .blank => ({}, next)
    | .ok (.shown text) =>
      ({ output := Session.printed text, reports := writeEvents now logging events }, next)
    | .ok (.farewell text) =>
      ({ output := Session.printed text, reports := writeEvents now logging events, farewell := true }, next)

/-- The last report of the console. -/
def closing (now : Time) (launch : Launch) : Report where
  output := if launch.arguments.quiet then "" else "Goodbye!\n"
  reports := writeEvent now launch.settings.logging ended

/-- The console cannot be used without a terminal. -/
def Stage.withoutTerminal (now : Time) : Stage → Report
  | .finished report => report
  | .console launch _ report =>
    { report with reports := report.reports ++ writeEvent now launch.settings.logging ended }.close
      (.error (.io "No such device or address (os error 6)"))

/-- The whole program without a terminal. -/
def run (places : Places) (tree : FileTree) (now : Time) (args : List String) : Except UsageError Report :=
  (begin places tree now false args).map (Stage.withoutTerminal now)

end DeviceConsole.CommandLine
