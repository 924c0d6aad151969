import DeviceConsole.Dispatcher.Move
import DeviceConsole.Router

/-!
# `Dispatcher.Turns` — calls on one thread

On one thread the processes take turns: a process goes on until it has to wait or is done, then the next one
does. Callers go before the worker, so a call that never waits leaves the worker where it was.

## Contents

* `runTurn` — the moves of one process until it has none;
* `runRounds` — turns of some callers and the worker until all callers have returned;
* `start`, `submit`, `submitAll`, `stop`, `cancel`, `settle` — calls from the beginning to the end.
-/

namespace DeviceConsole.Dispatcher

variable {σ : Type} (execute : Executor σ)

/-- The answer to a command to quit. -/
def farewell : Reply := .ok Router.farewell

/-- More moves than a process can make before it has to wait. -/
def turnLength : Nat := 16

/-- The moves of one process until it has none. -/
def runTurn (process : Process) : Nat → Dispatcher σ → Dispatcher σ
  | 0, dispatcher => dispatcher
  | moves + 1, dispatcher =>
    match dispatcher.move? execute farewell process with
    | some next => runTurn process moves next
    | none => dispatcher

/-- A turn of every process, in order. -/
def runTurns (processes : List Process) (dispatcher : Dispatcher σ) : Dispatcher σ :=
  processes.foldl (fun d process => runTurn execute process turnLength d) dispatcher

/-- Whether the calls have returned. -/
def haveReturned (dispatcher : Dispatcher σ) (tickets : List Nat) : Bool :=
  tickets.all fun ticket => (dispatcher.callers[ticket]?.map Caller.hasReturned).getD true

/-- Turns of callers, and of the worker after them, until all calls have returned. Each round but the last
finishes a call, so their number bounds the rounds. -/
def runRounds (tickets : List Nat) : Nat → Dispatcher σ → Dispatcher σ
  | 0, dispatcher => dispatcher
  | rounds + 1, dispatcher =>
    let next := runTurns execute (tickets.map .caller) dispatcher
    if next.haveReturned tickets then next
    else runRounds tickets rounds (runTurn execute .worker turnLength next)

/-- Adds callers and gives their numbers. -/
def addCallers (dispatcher : Dispatcher σ) (callers : List Caller) : List Nat × Dispatcher σ :=
  ((List.range callers.length).map (· + dispatcher.callers.length),
    { dispatcher with callers := dispatcher.callers ++ callers })

/-- Runs calls to their end and gives where they stand then. -/
def call (callers : List Caller) (dispatcher : Dispatcher σ) : List Caller × Dispatcher σ :=
  let (tickets, begun) := dispatcher.addCallers callers
  let done := runRounds execute tickets (callers.length + 2) begun
  (tickets.filterMap (done.callers[·]?), done)

/-! ## Calls -/

/-- Starts the dispatcher. -/
def start (dispatcher : Dispatcher σ) : Except ConsoleError Unit × Dispatcher σ :=
  match call execute [.starter .begun] dispatcher with
  | ([.starter (.refused state)], done) =>
    (.error (.generic ("Dispatcher cannot start, it is " ++ state.name)), done)
  | (_, done) => (.ok (), done)

/-- The answer that a caller came back with. -/
def Caller.reply : Caller → Reply
  | .submitter (.returned reply) => reply
  | _ => refusal

/-- Submits commands at once and waits for all answers. -/
def submitAll (commands : List Command) (dispatcher : Dispatcher σ) : List Reply × Dispatcher σ :=
  let (callers, done) := call execute (commands.map fun c => .submitter (.begun c)) dispatcher
  (callers.map Caller.reply, done)

/-- Submits a command and waits for its answer. -/
def submit (command : Command) (dispatcher : Dispatcher σ) : Reply × Dispatcher σ :=
  let (replies, done) := submitAll execute [command] dispatcher
  (replies.head?.getD refusal, done)

/-- Stops the dispatcher. The first state is what it reports when the call waits or returns for the first
time. -/
def stop (dispatcher : Dispatcher σ) : Lifecycle × Dispatcher σ :=
  let (tickets, begun) := dispatcher.addCallers [.stopper .begun]
  let first := runTurns execute (tickets.map .caller) begun
  (first.lifecycle, runRounds execute tickets 2 (runTurn execute .worker turnLength first))

/-- Cancels from outside. -/
def cancel (dispatcher : Dispatcher σ) : Dispatcher σ := { dispatcher with cancelled := true }

/-- Lets the worker go on until it waits. -/
def settle (dispatcher : Dispatcher σ) : Dispatcher σ := runTurn execute .worker turnLength dispatcher

end DeviceConsole.Dispatcher
