import DeviceConsole.Outcome

/-!
# `Dispatcher.State` — one worker, many callers

Commands are handed to one worker through a channel with room for one submission, and each submitter waits for
the answer to its own command. Callers start the dispatcher, submit commands and stop it, all at the same time;
every lock that they take and every wait is a point where another process may go on. A process is therefore a
small state machine, and `Dispatcher.Move` says what each of its moves does.

## Contents

* `Lifecycle` — the state that the dispatcher reports;
* `Starter`, `Submitter`, `Stopper`, `Worker` — where a process stands;
* `Dispatcher` — the shared state with all processes.
-/

namespace DeviceConsole

/-- The state that a dispatcher reports. -/
inductive Lifecycle where
  | created
  | started
  | running
  | stopping
  | stopped
  deriving DecidableEq, Repr

/-- The name of a state. -/
def Lifecycle.name : Lifecycle → String
  | created => "created"
  | started => "started"
  | running => "running"
  | stopping => "stopping"
  | stopped => "stopped"

/-- Whether submissions are taken in this state. -/
def Lifecycle.accepts (lifecycle : Lifecycle) : Bool :=
  lifecycle = .started || lifecycle = .running

namespace Dispatcher

/-- The answer to a submission. -/
abbrev Reply := Except ConsoleError Outcome

/-- The answer to a submission that no worker takes. -/
def refusal : Reply := .error (.execution .dispatcherStopped)

/-! ## Callers -/

/-- A call that starts the dispatcher: it takes the receiving end of the channel, reports `started`, brings the
worker to life and keeps a handle to wait for it. Without a receiving end it is refused. -/
inductive Starter where
  | begun
  | hasReceiver
  | reported
  | spawned
  | returned
  | refused (state : Lifecycle)
  deriving DecidableEq, Repr

/-- A call that submits a command: it looks at the reported state, takes a sending end of the channel, waits for
room and sends, and waits for the answer. -/
inductive Submitter where
  | begun (command : Command)
  | admitted (command : Command)
  | sending (command : Command)
  | waiting
  | answered (reply : Reply)
  | returned (reply : Reply)

/-- A call that stops the dispatcher: it locks out other stops, reports `stopping` unless the worker has ended,
cancels, drops both ends of the channel, takes the handle and waits for the worker, and reports `stopped`. -/
inductive Stopper where
  | begun
  | looking
  | reporting
  | cancelling
  | droppingSender
  | droppingReceiver
  | takingHandle
  | awaiting
  | finishing
  | returned
  deriving DecidableEq, Repr

/-- A process that calls the dispatcher. -/
inductive Caller where
  | starter (at_ : Starter)
  | submitter (at_ : Submitter)
  | stopper (at_ : Stopper)

/-- Whether the call has returned. -/
def Caller.hasReturned : Caller → Bool
  | starter .returned | starter (.refused _) | submitter (.returned _) | stopper .returned => true
  | _ => false

/-! ## The worker -/

/-- The worker: brought to life, waiting for a submission, carrying out a command, handing over its answer, and
on its way out. A submission is known by the number of its caller. -/
inductive Worker where
  | absent
  | spawned
  | idle
  | executing (ticket : Nat) (command : Command)
  | replying (ticket : Nat) (reply : Reply)
  | leaving
  | closing
  | ended

/-! ## The shared state -/

/-- Where the receiving end of the channel is. -/
inductive Receiver where
  | stored
  | taken
  | dropped
  deriving DecidableEq, Repr

end Dispatcher

/-- A dispatcher over a site of type `σ`, with everything that its processes share and where each process
stands. -/
structure Dispatcher (σ : Type) where
  site : σ
  lifecycle : Lifecycle := .created
  cancelled : Bool := false
  hasSender : Bool := true
  receiver : Dispatcher.Receiver := .stored
  queue : List (Nat × Command) := []
  hasHandle : Bool := false
  stopLock : Option Nat := none
  worker : Dispatcher.Worker := .absent
  callers : List Dispatcher.Caller := []

end DeviceConsole
