import DeviceConsole.Dispatcher.Turns

/-!
# `Proofs.Dispatcher.Serial` — one submission at a time

A call on one thread goes on until it has to wait, then the worker does. With nothing else in the channel, the turns
of a submission come out as one step: a running dispatcher carries the command out and waits for the next one, it
takes leave on the command to quit, and after that it refuses whatever is submitted.

* `Running` — a dispatcher that waits for commands;
* `submit_of_running`, `submit_quit`, `submit_of_closed` — what a submission gives, and the dispatcher after it;
* `running_of_start` — a new dispatcher is running once it is started.
-/

namespace DeviceConsole.Dispatcher

variable {σ : Type} {execute : Executor σ} {d next : Dispatcher σ} {process : Process} {command : Command}

/-! ## Turns -/

theorem runTurn_step {moves : Nat} (moved : d.move? execute farewell process = some next) :
    runTurn execute process (moves + 1) d = runTurn execute process moves next := by
  rw [runTurn, moved]

theorem runTurn_halt (moves : Nat) (halted : d.move? execute farewell process = none) :
    runTurn execute process moves d = d := by
  cases moves with
  | zero => rfl
  | succ moves => rw [runTurn, halted]

/-! ## The newest call -/

/-- A dispatcher with one more caller. -/
def joined (d : Dispatcher σ) (caller : Caller) : Dispatcher σ := { d with callers := d.callers ++ [caller] }

/-- The newest call moves alone. -/
theorem setCaller_joined (d : Dispatcher σ) (old new : Caller) :
    (d.joined old).setCaller d.callers.length new = d.joined new := by
  have last : (d.callers ++ [old]).set d.callers.length new = d.callers ++ [new] := by
    rw [List.set_append_right _ _ (Nat.le_refl _), Nat.sub_self]
    rfl
  exact congrArg (fun callers => ({ d with callers } : Dispatcher σ)) last

theorem getElem?_joined (d : Dispatcher σ) (caller : Caller) :
    (d.joined caller).callers[d.callers.length]? = some caller :=
  List.getElem?_concat_length

/-- A submitter that came last makes the moves of a submitter. -/
theorem move?_joined (d : Dispatcher σ) (point : Submitter) :
    (d.joined (.submitter point)).move? execute farewell (.caller d.callers.length)
      = (d.joined (.submitter point)).moveSubmitter? d.callers.length point := by
  rw [move?, moveCaller?, getElem?_joined]

/-! ## A running dispatcher -/

/-- The dispatcher takes commands: its worker has been brought to life and waits, with nothing in the channel. -/
structure Running (d : Dispatcher σ) : Prop where
  phase : d.lifecycle = .started ∧ d.worker = .spawned ∨ d.lifecycle = .running ∧ d.worker = .idle
  alive : d.cancelled = false
  sender : d.hasSender = true
  receiver : d.receiver = .taken
  empty : d.queue = []

theorem Running.accepts (h : Running d) : d.lifecycle.accepts = true := by
  rcases h.phase with ⟨started, -⟩ | ⟨running, -⟩
  · rw [started]
    rfl
  · rw [running]
    rfl

/-- A dispatcher whose worker has made its first move. -/
def awake (d : Dispatcher σ) : Dispatcher σ := { d with lifecycle := .running, worker := .idle }

/-- A dispatcher with one more submission, which is in the channel. -/
def offered (d : Dispatcher σ) (command : Command) : Dispatcher σ :=
  { d with queue := [(d.callers.length, command)] }.joined (.submitter .waiting)

/-- A dispatcher that has carried out a command, with the answer on its way to the newest caller. -/
def served (d : Dispatcher σ) (execute : Executor σ) (command : Command) : Dispatcher σ :=
  { d.awake with site := (execute command d.site).2, queue := [] }

/-- A dispatcher that has taken leave. -/
def left (d : Dispatcher σ) : Dispatcher σ :=
  { d with lifecycle := .stopped, worker := .ended, receiver := .dropped, queue := [] }

/-- A submitter goes on until its command is in the channel. -/
theorem runTurn_submitter (running : Running d) :
    runTurn execute (.caller d.callers.length) turnLength (d.joined (.submitter (.begun command)))
      = d.offered command := by
  have admitted : (d.joined (.submitter (.begun command))).move? execute farewell (.caller d.callers.length)
      = some (d.joined (.submitter (.admitted command))) := by
    have accepts : (d.joined (.submitter (.begun command))).lifecycle.accepts = true := running.accepts
    rw [move?_joined, moveSubmitter?, if_pos accepts, setCaller_joined]
  have sending : (d.joined (.submitter (.admitted command))).move? execute farewell (.caller d.callers.length)
      = some (d.joined (.submitter (.sending command))) := by
    have sender : (d.joined (.submitter (.admitted command))).hasSender = true := running.sender
    rw [move?_joined, moveSubmitter?, if_pos sender, setCaller_joined]
  have entered : (d.joined (.submitter (.sending command))).move? execute farewell (.caller d.callers.length)
      = some (d.offered command) := by
    have stillOpen : ((d.joined (.submitter (.sending command))).cancelled
        || (d.joined (.submitter (.sending command))).receiver = .dropped) = false := by
      show (d.cancelled || decide (d.receiver = .dropped)) = false
      rw [running.alive, running.receiver]
      rfl
    have room : (d.joined (.submitter (.sending command))).queue.isEmpty = true := by
      show d.queue.isEmpty = true
      rw [running.empty]
      rfl
    rw [move?_joined, moveSubmitter?, stillOpen, if_neg Bool.false_ne_true, if_pos room]
    exact congrArg some
      (setCaller_joined { d with queue := [(d.callers.length, command)] } (.submitter (.sending command)) _)
  have waits : (d.offered command).move? execute farewell (.caller d.callers.length) = none :=
    move?_joined { d with queue := [(d.callers.length, command)] } .waiting
  show runTurn execute _ (15 + 1) _ = _
  rw [runTurn_step admitted, runTurn_step sending, runTurn_step entered, runTurn_halt _ waits]

/-- The worker that has not moved yet does so first. -/
theorem runTurn_awake (execute : Executor σ) (command : Command) (running : Running d) :
    ∃ moves, runTurn execute .worker turnLength (d.offered command)
      = runTurn execute .worker (moves + 4) (d.awake.offered command) := by
  rcases running.phase with ⟨started, spawned⟩ | ⟨isRunning, idle⟩
  · refine ⟨11, ?_⟩
    have awoke : (d.offered command).move? execute farewell .worker = some (d.awake.offered command) := by
      have there : (d.offered command).worker = .spawned := spawned
      rw [move?, moveWorker?, there]
      rfl
    exact runTurn_step awoke
  · refine ⟨12, ?_⟩
    have same : d.awake = d := by
      rw [awake, ← isRunning, ← idle]
    rw [same]
    rfl

/-- The worker carries out the command in the channel, hands over the answer and waits. -/
theorem runTurn_worker (running : Running d) (other : command ≠ .quit) :
    runTurn execute .worker turnLength (d.offered command)
      = (d.served execute command).joined (.submitter (.answered (execute command d.site).1)) := by
  obtain ⟨moves, turn⟩ := runTurn_awake execute command running
  have handed : (d.awake.offered command).move? execute farewell .worker
      = some ({ d.awake with queue := [], worker := .executing d.callers.length command }.joined
          (.submitter .waiting)) := by
    have alive : ¬ (d.awake.offered command).cancelled = true := Bool.eq_false_iff.mp running.alive
    show (if (d.awake.offered command).cancelled = true then _ else _) = _
    rw [if_neg alive]
    cases command with
    | quit => exact absurd rfl other
    | _ => rfl
  have finished : ({ d.awake with queue := [], worker := .executing d.callers.length command }.joined
        (.submitter .waiting)).move? execute farewell .worker
      = some ({ d.served execute command with worker := .replying d.callers.length (execute command d.site).1 }.joined
          (.submitter .waiting)) := rfl
  have replied : ({ d.served execute command with
          worker := .replying d.callers.length (execute command d.site).1 }.joined
        (.submitter .waiting)).move? execute farewell .worker
      = some ((d.served execute command).joined (.submitter (.answered (execute command d.site).1))) :=
    congrArg some (setCaller_joined (d.served execute command) (.submitter .waiting) _)
  have waits : ((d.served execute command).joined (.submitter (.answered (execute command d.site).1))).move?
      execute farewell .worker = none := by
    have alive : ¬ (d.served execute command).cancelled = true := Bool.eq_false_iff.mp running.alive
    have canSend : ((d.served execute command).joined
        (.submitter (.answered (execute command d.site).1))).canSend = true := by
      show (d.hasSender || _) = true
      rw [running.sender, Bool.true_or]
    show (if (d.served execute command).cancelled = true then _ else if _ then none else _) = none
    rw [if_neg alive, if_pos canSend]
  rw [turn, runTurn_step handed, runTurn_step finished, runTurn_step replied, runTurn_halt _ waits]

/-- The worker takes leave on the command to quit. -/
theorem runTurn_worker_quit (running : Running d) :
    runTurn execute .worker turnLength (d.offered .quit)
      = d.left.joined (.submitter (.answered farewell)) := by
  obtain ⟨moves, turn⟩ := runTurn_awake execute .quit running
  have took : (d.awake.offered .quit).move? execute farewell .worker
      = some ({ d.awake with queue := [], worker := .leaving }.joined (.submitter (.answered farewell))) := by
    have alive : ¬ (d.awake.offered .quit).cancelled = true := Bool.eq_false_iff.mp running.alive
    show (if (d.awake.offered .quit).cancelled = true then _ else _) = _
    rw [if_neg alive]
    exact congrArg some
      (setCaller_joined { d.awake with queue := [], worker := .leaving } (.submitter .waiting) _)
  have leaves : ({ d.awake with queue := [], worker := .leaving }.joined (.submitter (.answered farewell))).move?
        execute farewell .worker
      = some ({ d.awake with queue := [], lifecycle := .stopped, worker := .closing }.joined
          (.submitter (.answered farewell))) := rfl
  have ends : ({ d.awake with queue := [], lifecycle := .stopped, worker := .closing }.joined
        (.submitter (.answered farewell))).move? execute farewell .worker
      = some (d.left.joined (.submitter (.answered farewell))) := rfl
  have gone : (d.left.joined (.submitter (.answered farewell))).move? execute farewell .worker = none := rfl
  rw [turn, runTurn_step took, runTurn_step leaves, runTurn_step ends, runTurn_halt _ gone]

/-- A submitter that has returned moves no more. -/
theorem runTurn_returns {before : Dispatcher σ} {reply : Reply}
    (returns : before.move? execute farewell (.caller d.callers.length) = some (d.joined (.submitter (.returned reply)))) :
    runTurn execute (.caller d.callers.length) turnLength before = d.joined (.submitter (.returned reply)) := by
  have stays : (d.joined (.submitter (.returned reply))).move? execute farewell (.caller d.callers.length) = none :=
    move?_joined d (.returned reply)
  show runTurn execute _ (15 + 1) _ = _
  rw [runTurn_step returns, runTurn_halt _ stays]

/-- A submitter that is answered returns. -/
theorem runTurn_answered (d : Dispatcher σ) (reply : Reply) :
    runTurn execute (.caller d.callers.length) turnLength (d.joined (.submitter (.answered reply)))
      = d.joined (.submitter (.returned reply)) := by
  refine runTurn_returns ?_
  rw [move?_joined, moveSubmitter?, setCaller_joined]

/-- A submitter that finds the dispatcher closed returns. -/
theorem runTurn_refused (closed : d.lifecycle.accepts = false) :
    runTurn execute (.caller d.callers.length) turnLength (d.joined (.submitter (.begun command)))
      = d.joined (.submitter (.returned refusal)) := by
  refine runTurn_returns ?_
  have refuses : ¬ (d.joined (.submitter (.begun command))).lifecycle.accepts = true := Bool.eq_false_iff.mp closed
  rw [move?_joined, moveSubmitter?, if_neg refuses, setCaller_joined]

/-! ## Submissions -/

section Submissions

variable {reply : Reply} {ticket : Nat}

/-- A submission gives what its call returns with after all rounds. -/
theorem submit_of_rounds
    (rounds : runRounds execute [d.callers.length] 3 (d.joined (.submitter (.begun command)))
      = next.joined (.submitter (.returned reply))) (number : next.callers.length = d.callers.length) :
    submit execute command d = (reply, next.joined (.submitter (.returned reply))) := by
  have begun : d.addCallers [.submitter (.begun command)]
      = ([d.callers.length], d.joined (.submitter (.begun command))) := by
    rw [addCallers]
    show ([0 + d.callers.length], _) = _
    rw [Nat.zero_add]
    rfl
  have stands : (next.joined (.submitter (.returned reply))).callers[d.callers.length]?
      = some (.submitter (.returned reply)) := number ▸ getElem?_joined next _
  have called : call execute [.submitter (.begun command)] d
      = ([.submitter (.returned reply)], next.joined (.submitter (.returned reply))) := by
    rw [call, begun]
    show ([d.callers.length].filterMap ((runRounds execute [d.callers.length] 3 _).callers[·]?),
      runRounds execute [d.callers.length] 3 _) = _
    rw [rounds, List.filterMap_cons_some stands]
    rfl
  have all : submitAll execute [command] d = ([reply], next.joined (.submitter (.returned reply))) := by
    rw [submitAll, List.map_singleton, called]
    rfl
  rw [submit, all]
  rfl

/-- Whether a call has returned is seen where it stands. -/
theorem haveReturned_joined {caller : Caller} (number : next.callers.length = ticket) :
    (next.joined caller).haveReturned [ticket] = caller.hasReturned := by
  have stands : (next.joined caller).callers[ticket]? = some caller := number ▸ getElem?_joined next caller
  rw [haveReturned, List.all_cons, stands]
  exact Bool.and_true _

/-- The rounds end when the call has returned. -/
theorem runRounds_returned {rounds : Nat} {caller : Caller}
    (turn : runTurn execute (.caller ticket) turnLength d = next.joined caller)
    (number : next.callers.length = ticket) (returned : caller.hasReturned = true) :
    runRounds execute [ticket] (rounds + 1) d = next.joined caller := by
  have turns : runTurns execute ([ticket].map .caller) d = next.joined caller := turn
  rw [runRounds, turns]
  show (if _ then _ else _) = _
  rw [if_pos ((haveReturned_joined number).trans returned)]

/-- A call that waits leaves the turn to the worker. -/
theorem runRounds_waiting {rounds : Nat} {caller : Caller}
    (turn : runTurn execute (.caller ticket) turnLength d = next.joined caller)
    (number : next.callers.length = ticket) (waits : caller.hasReturned = false) :
    runRounds execute [ticket] (rounds + 1) d
      = runRounds execute [ticket] rounds (runTurn execute .worker turnLength (next.joined caller)) := by
  have turns : runTurns execute ([ticket].map .caller) d = next.joined caller := turn
  have notYet : ¬ (next.joined caller).haveReturned [ticket] = true := by
    rw [haveReturned_joined number, waits]
    exact Bool.false_ne_true
  rw [runRounds, turns]
  show (if _ then _ else _) = _
  rw [if_neg notYet]

/-- A submission that the worker answers in its turn. -/
theorem submit_of_answered (running : Running d)
    (answered : runTurn execute .worker turnLength (d.offered command) = next.joined (.submitter (.answered reply)))
    (number : next.callers.length = d.callers.length) :
    submit execute command d = (reply, next.joined (.submitter (.returned reply))) := by
  refine submit_of_rounds ?_ number
  have returns : runTurn execute (.caller d.callers.length) turnLength (next.joined (.submitter (.answered reply)))
      = next.joined (.submitter (.returned reply)) := number ▸ runTurn_answered next reply
  have offers : runTurn execute (.caller d.callers.length) turnLength (d.joined (.submitter (.begun command)))
      = { d with queue := [(d.callers.length, command)] }.joined (.submitter .waiting) := runTurn_submitter running
  rw [runRounds_waiting offers rfl rfl]
  show runRounds execute _ 2 (runTurn execute .worker turnLength (d.offered command)) = _
  rw [answered]
  exact runRounds_returned returns number rfl

/-- **A running dispatcher carries out a command** and waits for the next one. -/
theorem submit_of_running (running : Running d) (other : command ≠ .quit) :
    submit execute command d
      = ((execute command d.site).1,
        (d.served execute command).joined (.submitter (.returned (execute command d.site).1))) :=
  submit_of_answered running (runTurn_worker running other) rfl

theorem Running.served (running : Running d) (other : Caller) :
    Running ((d.served execute command).joined other) where
  phase := .inr ⟨rfl, rfl⟩
  alive := running.alive
  sender := running.sender
  receiver := running.receiver
  empty := rfl

/-- **A running dispatcher takes leave on the command to quit.** -/
theorem submit_quit (running : Running d) :
    submit execute .quit d = (farewell, d.left.joined (.submitter (.returned farewell))) :=
  submit_of_answered running (runTurn_worker_quit running) rfl

/-- **A closed dispatcher refuses every command** and stays as it is. -/
theorem submit_of_closed (closed : d.lifecycle.accepts = false) :
    submit execute command d = (refusal, d.joined (.submitter (.returned refusal))) :=
  submit_of_rounds (runRounds_returned (runTurn_refused closed) rfl rfl) rfl

end Submissions

/-- **A new dispatcher is running once it is started.** -/
theorem running_of_start (execute : Executor σ) (site : σ) :
    ∃ started, start execute { site } = (.ok (), started) ∧ Running started ∧ started.site = site :=
  ⟨_, rfl, ⟨.inl ⟨rfl, rfl⟩, rfl, rfl, rfl, rfl⟩, rfl⟩

end DeviceConsole.Dispatcher
