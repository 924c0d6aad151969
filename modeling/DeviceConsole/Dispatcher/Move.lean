import DeviceConsole.Dispatcher.State

/-!
# `Dispatcher.Move` — what each process does next

A move is one access to shared state. A process that has to wait has no move, and a caller that has returned has
none either. All interleavings of the processes are the lists of moves.

## Contents

* `moveStarter?`, `moveSubmitter?`, `moveStopper?`, `moveWorker?` — the moves of each kind of process;
* `Process`, `move?` — the move of any process;
* `runSchedule?` — the moves of a list of processes.
-/

namespace DeviceConsole.Dispatcher

variable {σ : Type}

/-- How commands are carried out on a site. -/
abbrev Executor (σ : Type) := Command → σ → Reply × σ

/-! ## Callers -/

/-- Puts a caller at another point. -/
def setCaller (dispatcher : Dispatcher σ) (ticket : Nat) (caller : Caller) : Dispatcher σ :=
  { dispatcher with callers := dispatcher.callers.set ticket caller }

/-- Hands the answer to the submitter that waits for it. -/
def deliver (dispatcher : Dispatcher σ) (ticket : Nat) (reply : Reply) : Dispatcher σ :=
  dispatcher.setCaller ticket (.submitter (.answered reply))

/-- Drops the receiving end of the channel: nothing can be sent any more, and what is in the channel is
refused. -/
def dropReceiver (dispatcher : Dispatcher σ) : Dispatcher σ :=
  let refused := dispatcher.queue.foldl (fun d submission => d.deliver submission.1 refusal) dispatcher
  { refused with receiver := .dropped, queue := [] }

/-- The move of a starter. -/
def moveStarter? (dispatcher : Dispatcher σ) (ticket : Nat) : Starter → Option (Dispatcher σ)
  | .begun =>
    if dispatcher.receiver = .stored then
      some ({ dispatcher with receiver := .taken }.setCaller ticket (.starter .hasReceiver))
    else some (dispatcher.setCaller ticket (.starter (.refused dispatcher.lifecycle)))
  | .hasReceiver =>
    some ({ dispatcher with lifecycle := .started }.setCaller ticket (.starter .reported))
  | .reported => some ({ dispatcher with worker := .spawned }.setCaller ticket (.starter .spawned))
  | .spawned =>
    if dispatcher.stopLock.isNone then
      some ({ dispatcher with hasHandle := true }.setCaller ticket (.starter .returned))
    else none
  | .returned | .refused _ => none

/-- The move of a submitter. -/
def moveSubmitter? (dispatcher : Dispatcher σ) (ticket : Nat) : Submitter → Option (Dispatcher σ)
  | .begun command =>
    if dispatcher.lifecycle.accepts then
      some (dispatcher.setCaller ticket (.submitter (.admitted command)))
    else some (dispatcher.setCaller ticket (.submitter (.returned refusal)))
  | .admitted command =>
    if dispatcher.hasSender then
      some (dispatcher.setCaller ticket (.submitter (.sending command)))
    else some (dispatcher.setCaller ticket (.submitter (.returned refusal)))
  | .sending command =>
    if dispatcher.cancelled || dispatcher.receiver = .dropped then
      some (dispatcher.setCaller ticket (.submitter (.returned refusal)))
    else if dispatcher.queue.isEmpty then
      some ({ dispatcher with queue := [(ticket, command)] }.setCaller ticket (.submitter .waiting))
    else none
  | .answered reply => some (dispatcher.setCaller ticket (.submitter (.returned reply)))
  | .waiting | .returned _ => none

/-- The move of a stopper. -/
def moveStopper? (dispatcher : Dispatcher σ) (ticket : Nat) : Stopper → Option (Dispatcher σ)
  | .begun =>
    if dispatcher.stopLock.isNone then
      some ({ dispatcher with stopLock := some ticket }.setCaller ticket (.stopper .looking))
    else none
  | .looking =>
    let next := if dispatcher.lifecycle = .stopped then Stopper.cancelling else .reporting
    some (dispatcher.setCaller ticket (.stopper next))
  | .reporting =>
    some ({ dispatcher with lifecycle := .stopping }.setCaller ticket (.stopper .cancelling))
  | .cancelling =>
    some ({ dispatcher with cancelled := true }.setCaller ticket (.stopper .droppingSender))
  | .droppingSender =>
    some ({ dispatcher with hasSender := false }.setCaller ticket (.stopper .droppingReceiver))
  | .droppingReceiver =>
    let next := if dispatcher.receiver = .stored then dispatcher.dropReceiver else dispatcher
    some (next.setCaller ticket (.stopper .takingHandle))
  | .takingHandle =>
    let next := if dispatcher.hasHandle then Stopper.awaiting else .finishing
    some ({ dispatcher with hasHandle := false }.setCaller ticket (.stopper next))
  | .awaiting =>
    match dispatcher.worker with
    | .ended => some (dispatcher.setCaller ticket (.stopper .finishing))
    | _ => none
  | .finishing =>
    some ({ dispatcher with lifecycle := .stopped, stopLock := none }.setCaller ticket
      (.stopper .returned))
  | .returned => none

/-- The move of a caller. -/
def moveCaller? (dispatcher : Dispatcher σ) (ticket : Nat) : Option (Dispatcher σ) :=
  match dispatcher.callers[ticket]? with
  | some (.starter point) => dispatcher.moveStarter? ticket point
  | some (.submitter point) => dispatcher.moveSubmitter? ticket point
  | some (.stopper point) => dispatcher.moveStopper? ticket point
  | none => none

/-! ## The worker -/

/-- Whether anyone can still send: an end of the channel is stored, or a submitter holds one. -/
def canSend (dispatcher : Dispatcher σ) : Bool :=
  dispatcher.hasSender || dispatcher.callers.any fun
    | .submitter (.sending _) => true
    | _ => false

/-- The move of the worker. Between two commands it looks for cancellation first; a command to quit is answered
and ends it. -/
def moveWorker? (execute : Executor σ) (farewell : Reply) (dispatcher : Dispatcher σ) :
    Option (Dispatcher σ) :=
  match dispatcher.worker with
  | .spawned => some { dispatcher with lifecycle := .running, worker := .idle }
  | .idle =>
    if dispatcher.cancelled then some { dispatcher with worker := .leaving }
    else match dispatcher.queue with
      | (ticket, .quit) :: rest =>
        some ({ dispatcher with queue := rest, worker := .leaving }.deliver ticket farewell)
      | (ticket, command) :: rest =>
        some { dispatcher with queue := rest, worker := .executing ticket command }
      | [] => if dispatcher.canSend then none else some { dispatcher with worker := .leaving }
  | .executing ticket command =>
    let (reply, site) := execute command dispatcher.site
    some { dispatcher with site, worker := .replying ticket reply }
  | .replying ticket reply => some ({ dispatcher with worker := .idle }.deliver ticket reply)
  | .leaving => some { dispatcher with lifecycle := .stopped, worker := .closing }
  | .closing => some { dispatcher.dropReceiver with worker := .ended }
  | .absent | .ended => none

/-! ## Any process -/

/-- A process: a caller by its number, the worker, or the parent that cancels. -/
inductive Process where
  | caller (ticket : Nat)
  | worker
  | parent
  deriving DecidableEq, Repr

/-- The move of a process; `none` if it has to wait or is done. -/
def move? (execute : Executor σ) (farewell : Reply) (dispatcher : Dispatcher σ) :
    Process → Option (Dispatcher σ)
  | .caller ticket => dispatcher.moveCaller? ticket
  | .worker => dispatcher.moveWorker? execute farewell
  | .parent => some { dispatcher with cancelled := true }

/-- The moves of processes in the order of a schedule; `none` if one of them has no move. -/
def runSchedule? (execute : Executor σ) (farewell : Reply) :
    List Process → Dispatcher σ → Option (Dispatcher σ)
  | [], dispatcher => some dispatcher
  | process :: rest, dispatcher =>
    (dispatcher.move? execute farewell process).bind (runSchedule? execute farewell rest)

end DeviceConsole.Dispatcher
