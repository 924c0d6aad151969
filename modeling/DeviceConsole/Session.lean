import DeviceConsole.Dispatcher.Turns
import DeviceConsole.Editor.History
import DeviceConsole.Format.Formatter

/-!
# `Session` — lines in, text out

A session parses each line with the names that are known at that moment, submits the command to its dispatcher
and shows the answer. A line that fails does not end the session. Lines that are given together are carried out at
one time.

## Contents

* `Session`, `Session.ofBackend` — a site behind a dispatcher, and a way to show answers;
* `Session.parse`, `Session.submit` — the two steps of a line;
* `LineOutcome`, `Session.answerLine`, `Session.executeLine` — a line;
* `BatchOutcome`, `Session.runBatch` — lines in order, until one fails or says farewell;
* `Session.submitAll` — several commands at once;
* `openEditor` — whether lines can be edited with a history of a size.
-/

namespace DeviceConsole

open Format (Formatter)

/-- A site behind a dispatcher, and a way to show answers. -/
structure Session where
  dispatcher : Dispatcher Backend
  formatter : Formatter

/-- What a line gives. -/
inductive LineOutcome where
  | blank
  | shown (text : String)
  | farewell (text : String)
  deriving DecidableEq, Repr

/-- What several lines print, the commands that were carried out with their answers, and the error that ends them
early. -/
structure BatchOutcome where
  printed : String
  answered : List (Command × Dispatcher.Reply)
  result : Except ConsoleError Unit

/-- Carries out a command on a site. -/
def carryOut (now : Time) : Dispatcher.Executor Backend :=
  fun command backend => ((Router.route now command).run).run backend

namespace Session

/-- A session over a site. -/
def ofBackend (backend : Backend) (formatter : Formatter) : Session := ⟨{ site := backend }, formatter⟩

/-- The site as it is now. -/
def backend (session : Session) : Backend := session.dispatcher.site

/-- Starts the dispatcher. -/
def start (now : Time) (session : Session) : Except ConsoleError Unit × Session :=
  let (result, dispatcher) := Dispatcher.start (carryOut now) session.dispatcher
  (result, { session with dispatcher })

/-- Stops the dispatcher. -/
def stop (now : Time) (session : Session) : Lifecycle × Session :=
  let (during, dispatcher) := Dispatcher.stop (carryOut now) session.dispatcher
  (during, { session with dispatcher })

/-- The command of a line. -/
def parse (session : Session) (line : String) : Except ConsoleError Command :=
  session.backend.directory.parse line

/-- Submits a command and waits for its answer. -/
def submit (now : Time) (command : Command) (session : Session) : Dispatcher.Reply × Session :=
  let (reply, dispatcher) := Dispatcher.submit (carryOut now) command session.dispatcher
  (reply, { session with dispatcher })

/-- Submits commands at once and waits for all answers. -/
def submitAll (now : Time) (commands : List Command) (session : Session) :
    List Dispatcher.Reply × Session :=
  let (replies, dispatcher) := Dispatcher.submitAll (carryOut now) commands session.dispatcher
  (replies, { session with dispatcher })

/-- The command of a line with its answer; none for a blank line. -/
def answerLine (now : Time) (line : String) (session : Session) :
    Except ConsoleError (Option (Command × Dispatcher.Reply)) × Session :=
  if Text.isBlank line then (.ok none, session)
  else match session.parse line with
    | .error error => (.error error, session)
    | .ok command =>
      let (reply, next) := session.submit now command
      (.ok (some (command, reply)), next)

/-- What the answer to a command gives. -/
def outcomeOf (session : Session) (command : Command) :
    Dispatcher.Reply → Except ConsoleError LineOutcome
  | .error error => .error error
  | .ok outcome =>
    let text := session.formatter.write outcome
    .ok (if command = .quit then .farewell text else .shown text)

/-- Carries out a line. -/
def executeLine (now : Time) (line : String) (session : Session) :
    Except ConsoleError LineOutcome × Session :=
  match session.answerLine now line with
  | (.error error, next) => (.error error, next)
  | (.ok none, next) => (.ok .blank, next)
  | (.ok (some (command, reply)), next) => (next.outcomeOf command reply, next)

/-- A text as it is printed: on a line of its own, unless it is empty. -/
def printed (text : String) : String := if text.isEmpty then "" else text ++ "\n"

/-- Puts a command with its answer and the text of the answer in front. -/
def BatchOutcome.after (command : Command) (reply : Dispatcher.Reply) (text : String)
    (outcome : BatchOutcome) : BatchOutcome :=
  { outcome with
    printed := printed text ++ outcome.printed
    answered := (command, reply) :: outcome.answered }

/-- Carries out lines in order, until one fails or says farewell. -/
def runBatch (now : Time) : List String → Session → BatchOutcome × Session
  | [], session => (⟨"", [], .ok ()⟩, session)
  | line :: rest, session =>
    match session.answerLine now line with
    | (.error error, next) => (⟨"", [], .error error⟩, next)
    | (.ok none, next) => runBatch now rest next
    | (.ok (some (command, reply)), next) =>
      match next.outcomeOf command reply with
      | .error error => (⟨"", [(command, reply)], .error error⟩, next)
      | .ok .blank => runBatch now rest next
      | .ok (.farewell text) => (BatchOutcome.after command reply text ⟨"", [], .ok ()⟩, next)
      | .ok (.shown text) =>
        let (outcome, last) := runBatch now rest next
        (BatchOutcome.after command reply text outcome, last)

end Session

/-- Refuses to open a line editor whose history cannot be that large. -/
def openEditor (historySize : Nat) : Except ConsoleError Unit :=
  match Editor.History.ofCapacity? historySize with
  | some _ => .ok ()
  | none =>
    .error (.generic
      "Line editor error: error within history: History capacity too large to be addressed safely")

end DeviceConsole
