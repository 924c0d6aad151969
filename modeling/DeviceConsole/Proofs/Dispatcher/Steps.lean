import DeviceConsole.Dispatcher.Turns

/-!
# `Proofs.Dispatcher.Steps` — what a move can do

Every call of a dispatcher is a process from the beginning, so a run is a schedule: a list of processes, each of
which makes its next move. What a run shows is read off the states before and after each move, and is no part of
the state. `Step` lists the moves with what they have checked, so that an invariant is proved once a kind of move.

* `Call`, `facing` — a new dispatcher with the calls that it will get;
* `Event`, `observed`, `history` — what a move shows, and what a run shows;
* `StarterStep`, `StopperStep`, `Step`, `step_of_move` — every move is one of these steps;
* `Step.monotone`, `Step.call_cases` — what a step cannot take back, and where a call stood before it;
* `run_induction` — what all steps keep, all runs keep.
-/

namespace DeviceConsole.Dispatcher

variable {σ : Type}

/-! ## Calls -/

/-- A call of the dispatcher. -/
inductive Call where
  | start
  | submit (command : Command)
  | stop

/-- Where a call begins. -/
def Call.first : Call → Caller
  | start => .starter .begun
  | submit command => .submitter (.begun command)
  | stop => .stopper .begun

/-- A new dispatcher over a site, with the calls that it gets. A call begins with its first move. -/
def facing (site : σ) (calls : List Call) : Dispatcher σ := { site, callers := calls.map Call.first }

/-! ## Events -/

/-- What a move shows. A submission is known by the number of its call. -/
inductive Event where
  /-- A submission enters the channel. -/
  | entered (ticket : Nat) (command : Command)
  /-- The worker takes a submission and hands its command to the executor. -/
  | handed (ticket : Nat) (command : Command)
  /-- The executor comes back. -/
  | finished (ticket : Nat) (command : Command) (reply : Reply)
  /-- The worker takes a submission as the command to quit. -/
  | tookQuit (ticket : Nat)
  /-- The worker sees that it is cancelled. -/
  | sawCancel
  /-- A submitting call returns. -/
  | returned (ticket : Nat) (reply : Reply)

/-- What a move of a caller shows. -/
def callerShows (ticket : Nat) : Option Caller → Option Caller → Option Event
  | some (.submitter (.sending command)), some (.submitter .waiting) => some (.entered ticket command)
  | _, some (.submitter (.returned reply)) => some (.returned ticket reply)
  | _, _ => none

/-- What a move of the worker shows, with the cancellation and the channel before it. -/
def workerShows (cancelled : Bool) (queue : List (Nat × Command)) : Worker → Worker → Option Event
  | .idle, .executing ticket command => some (.handed ticket command)
  | .executing ticket command, .replying _ reply => some (.finished ticket command reply)
  | .idle, .leaving =>
    if cancelled then some .sawCancel else queue.head?.map fun submission => .tookQuit submission.1
  | _, _ => none

/-- What a move of a process shows, told from where the process stood before and after it. -/
def observed (before after : Dispatcher σ) : Process → Option Event
  | .caller ticket => callerShows ticket before.callers[ticket]? after.callers[ticket]?
  | .worker => workerShows before.cancelled before.queue before.worker after.worker
  | .parent => none

/-- What a run shows, in order. -/
def history (execute : Executor σ) (farewell : Reply) : List Process → Dispatcher σ → List Event
  | [], _ => []
  | process :: rest, dispatcher =>
    match dispatcher.move? execute farewell process with
    | none => []
    | some next => (observed dispatcher next process).toList ++ history execute farewell rest next

/-- Adds what a move shows to what was shown before. -/
def record (events : List Event) : Option Event → List Event
  | none => events
  | some event => events ++ [event]

theorem record_append (events later : List Event) (event : Option Event) :
    record events event ++ later = events ++ (event.toList ++ later) := by
  cases event <;> simp [record]

/-! ## Callers -/

section Callers

variable {d : Dispatcher σ} {ticket : Nat} {old : Caller}

/-- A call that moves stands at another point, and the others where they stood. -/
theorem getElem?_setCaller (d : Dispatcher σ) (ticket : Nat) (new : Caller) (other : Nat) :
    (d.setCaller ticket new).callers[other]?
      = if other = ticket then d.callers[other]?.map fun _ => new else d.callers[other]? := by
  show (d.callers.set ticket new)[other]? = _
  rw [List.getElem?_set]
  by_cases same : ticket = other
  · subst same
    by_cases inside : ticket < d.callers.length <;> simp [inside]
  · rw [if_neg same, if_neg (Ne.symm same)]

theorem getElem?_setCaller_self (stood : d.callers[ticket]? = some old) (new : Caller) :
    (d.setCaller ticket new).callers[ticket]? = some new := by
  rw [getElem?_setCaller, if_pos rfl, stood]
  rfl

theorem getElem?_setCaller_ne {other : Nat} (ne : other ≠ ticket) (new : Caller) :
    (d.setCaller ticket new).callers[other]? = d.callers[other]? := by
  rw [getElem?_setCaller, if_neg ne]

theorem setCaller_cases {other : Nat} {new caller : Caller}
    (stands : (d.setCaller ticket new).callers[other]? = some caller) :
    other = ticket ∧ caller = new ∨ other ≠ ticket ∧ d.callers[other]? = some caller := by
  by_cases same : other = ticket
  · rw [getElem?_setCaller, if_pos same] at stands
    obtain ⟨stood, -, rfl⟩ := Option.map_eq_some_iff.mp stands
    exact .inl ⟨same, rfl⟩
  · rw [getElem?_setCaller_ne same] at stands
    exact .inr ⟨same, stands⟩

/-- The callers after the submissions of a channel are refused. -/
def refuseAll (queue : List (Nat × Command)) (callers : List Caller) : List Caller :=
  queue.foldl (fun callers submission => callers.set submission.1 (.submitter (.answered refusal))) callers

theorem dropReceiver_eq (d : Dispatcher σ) :
    d.dropReceiver = { d with callers := refuseAll d.queue d.callers, receiver := .dropped, queue := [] } := by
  have delivered : ∀ (queue : List (Nat × Command)) (d : Dispatcher σ),
      queue.foldl (fun d submission => d.deliver submission.1 refusal) d
        = { d with callers := refuseAll queue d.callers } := by
    intro queue
    induction queue with
    | nil => exact fun d => rfl
    | cons submission rest ih => exact fun d => ih (d.deliver submission.1 refusal)
  show ({ d.queue.foldl (fun d submission => d.deliver submission.1 refusal) d with
    receiver := .dropped, queue := [] } : Dispatcher σ) = _
  rw [delivered]

theorem getElem?_refuseAll (queue : List (Nat × Command)) (callers : List Caller) (ticket : Nat) :
    (refuseAll queue callers)[ticket]?
      = if ticket ∈ queue.map Prod.fst then callers[ticket]?.map fun _ => .submitter (.answered refusal)
        else callers[ticket]? := by
  induction queue generalizing callers with
  | nil => rfl
  | cons submission rest ih =>
    show (refuseAll rest (callers.set submission.1 _))[ticket]? = _
    rw [ih, List.getElem?_set]
    by_cases same : submission.1 = ticket
    · subst same
      by_cases inside : submission.1 < callers.length
      · simp [inside]
      · simp [inside]
    · have mem : ticket ∈ (submission :: rest).map Prod.fst ↔ ticket ∈ rest.map Prod.fst := by
        rw [List.map_cons, List.mem_cons, or_iff_right (Ne.symm same)]
      rw [if_neg same]
      by_cases later : ticket ∈ rest.map Prod.fst
      · rw [if_pos later, if_pos (mem.mpr later)]
      · rw [if_neg later, if_neg (mt mem.mp later)]

/-- The answer to the submissions in the channel goes to their callers, and to no one else. -/
theorem getElem?_dropReceiver (d : Dispatcher σ) (ticket : Nat) :
    d.dropReceiver.callers[ticket]?
      = if ticket ∈ d.queue.map Prod.fst then d.callers[ticket]?.map fun _ => .submitter (.answered refusal)
        else d.callers[ticket]? := by
  rw [dropReceiver_eq]
  exact getElem?_refuseAll d.queue d.callers ticket

theorem dropReceiver_cases {other : Nat} {caller : Caller} (stands : d.dropReceiver.callers[other]? = some caller) :
    other ∈ d.queue.map Prod.fst ∧ caller = .submitter (.answered refusal)
    ∨ other ∉ d.queue.map Prod.fst ∧ d.callers[other]? = some caller := by
  rw [getElem?_dropReceiver] at stands
  split at stands
  · next queued =>
    obtain ⟨stood, -, rfl⟩ := Option.map_eq_some_iff.mp stands
    exact .inl ⟨queued, rfl⟩
  · next absent => exact .inr ⟨absent, stands⟩

end Callers

/-! ## Steps -/

/-- What a starter does to the shared state, and where it goes. -/
inductive StarterStep (d : Dispatcher σ) : Starter → Starter → Dispatcher σ → Prop
  | taken : d.receiver = .stored → StarterStep d .begun .hasReceiver { d with receiver := .taken }
  | refused : d.receiver ≠ .stored → StarterStep d .begun (.refused d.lifecycle) d
  | reported : StarterStep d .hasReceiver .reported { d with lifecycle := .started }
  | spawned : StarterStep d .reported .spawned { d with worker := .spawned }
  | kept : d.stopLock = none → StarterStep d .spawned .returned { d with hasHandle := true }

/-- What a stopper does to the shared state, and where it goes. -/
inductive StopperStep (d : Dispatcher σ) (ticket : Nat) : Stopper → Stopper → Dispatcher σ → Prop
  | locked : d.stopLock = none → StopperStep d ticket .begun .looking { d with stopLock := some ticket }
  | ended : d.lifecycle = .stopped → StopperStep d ticket .looking .cancelling d
  | alive : d.lifecycle ≠ .stopped → StopperStep d ticket .looking .reporting d
  | reported : StopperStep d ticket .reporting .cancelling { d with lifecycle := .stopping }
  | cancelled : StopperStep d ticket .cancelling .droppingSender { d with cancelled := true }
  | droppedSender : StopperStep d ticket .droppingSender .droppingReceiver { d with hasSender := false }
  | droppedReceiver : d.receiver = .stored →
      StopperStep d ticket .droppingReceiver .takingHandle d.dropReceiver
  | noReceiver : d.receiver ≠ .stored → StopperStep d ticket .droppingReceiver .takingHandle d
  | tookHandle : d.hasHandle = true →
      StopperStep d ticket .takingHandle .awaiting { d with hasHandle := false }
  | noHandle : d.hasHandle = false →
      StopperStep d ticket .takingHandle .finishing { d with hasHandle := false }
  | awaited : d.worker = .ended → StopperStep d ticket .awaiting .finishing d
  | finished : StopperStep d ticket .finishing .returned { d with lifecycle := .stopped, stopLock := none }

/-- Why a submission is refused before it enters the channel: the dispatcher takes none, its sending end is gone,
or the worker is cancelled or has dropped the receiving end. -/
inductive Refuses (d : Dispatcher σ) : Submitter → Prop
  | closed {command : Command} : d.lifecycle.accepts = false → Refuses d (.begun command)
  | noSender {command : Command} : d.hasSender = false → Refuses d (.admitted command)
  | cancelled {command : Command} : d.cancelled = true → Refuses d (.sending command)
  | noReceiver {command : Command} : d.receiver = .dropped → Refuses d (.sending command)

/-- A move of a process, with what it has checked, and what it shows. -/
inductive Step (execute : Executor σ) (farewell : Reply) (d : Dispatcher σ) :
    Process → Option Event → Dispatcher σ → Prop
  | starter {ticket : Nat} {point next : Starter} {shared : Dispatcher σ} :
      d.callers[ticket]? = some (.starter point) → StarterStep d point next shared →
      Step execute farewell d (.caller ticket) none (shared.setCaller ticket (.starter next))
  | stopper {ticket : Nat} {point next : Stopper} {shared : Dispatcher σ} :
      d.callers[ticket]? = some (.stopper point) → StopperStep d ticket point next shared →
      Step execute farewell d (.caller ticket) none (shared.setCaller ticket (.stopper next))
  | admitted {ticket : Nat} {command : Command} :
      d.callers[ticket]? = some (.submitter (.begun command)) → d.lifecycle.accepts = true →
      Step execute farewell d (.caller ticket) none (d.setCaller ticket (.submitter (.admitted command)))
  | gotSender {ticket : Nat} {command : Command} :
      d.callers[ticket]? = some (.submitter (.admitted command)) → d.hasSender = true →
      Step execute farewell d (.caller ticket) none (d.setCaller ticket (.submitter (.sending command)))
  | refused {ticket : Nat} {point : Submitter} :
      d.callers[ticket]? = some (.submitter point) → Refuses d point →
      Step execute farewell d (.caller ticket) (some (.returned ticket refusal))
        (d.setCaller ticket (.submitter (.returned refusal)))
  | entered {ticket : Nat} {command : Command} :
      d.callers[ticket]? = some (.submitter (.sending command)) → d.cancelled = false → d.receiver ≠ .dropped →
      d.queue = [] →
      Step execute farewell d (.caller ticket) (some (.entered ticket command))
        ({ d with queue := [(ticket, command)] }.setCaller ticket (.submitter .waiting))
  | returned {ticket : Nat} {reply : Reply} :
      d.callers[ticket]? = some (.submitter (.answered reply)) →
      Step execute farewell d (.caller ticket) (some (.returned ticket reply))
        (d.setCaller ticket (.submitter (.returned reply)))
  | awoke : d.worker = .spawned →
      Step execute farewell d .worker none { d with lifecycle := .running, worker := .idle }
  | sawCancel : d.worker = .idle → d.cancelled = true →
      Step execute farewell d .worker (some .sawCancel) { d with worker := .leaving }
  | tookQuit {ticket : Nat} {rest : List (Nat × Command)} :
      d.worker = .idle → d.cancelled = false → d.queue = (ticket, .quit) :: rest →
      Step execute farewell d .worker (some (.tookQuit ticket))
        ({ d with queue := rest, worker := .leaving }.deliver ticket farewell)
  | handed {ticket : Nat} {command : Command} {rest : List (Nat × Command)} :
      d.worker = .idle → d.cancelled = false → d.queue = (ticket, command) :: rest → command ≠ .quit →
      Step execute farewell d .worker (some (.handed ticket command))
        { d with queue := rest, worker := .executing ticket command }
  | deserted : d.worker = .idle → d.cancelled = false → d.queue = [] → d.canSend = false →
      Step execute farewell d .worker none { d with worker := .leaving }
  | finished {ticket : Nat} {command : Command} :
      d.worker = .executing ticket command →
      Step execute farewell d .worker (some (.finished ticket command (execute command d.site).1))
        { d with
          site := (execute command d.site).2
          worker := .replying ticket (execute command d.site).1 }
  | replied {ticket : Nat} {reply : Reply} :
      d.worker = .replying ticket reply →
      Step execute farewell d .worker none ({ d with worker := .idle }.deliver ticket reply)
  | left : d.worker = .leaving →
      Step execute farewell d .worker none { d with lifecycle := .stopped, worker := .closing }
  | ended : d.worker = .closing →
      Step execute farewell d .worker none { d.dropReceiver with worker := .ended }
  | parent : Step execute farewell d .parent none { d with cancelled := true }

section Inversion

variable {execute : Executor σ} {farewell : Reply} {d next : Dispatcher σ} {ticket : Nat}

theorem starterStep_of_move {point : Starter} (moved : d.moveStarter? ticket point = some next) :
    ∃ after shared, StarterStep d point after shared ∧ next = shared.setCaller ticket (.starter after) := by
  cases point with
  | begun =>
    rw [moveStarter?] at moved
    split at moved
    · next stored => exact ⟨_, _, .taken stored, (Option.some.inj moved).symm⟩
    · next gone => exact ⟨_, _, .refused gone, (Option.some.inj moved).symm⟩
  | hasReceiver => exact ⟨_, _, .reported, (Option.some.inj moved).symm⟩
  | reported => exact ⟨_, _, .spawned, (Option.some.inj moved).symm⟩
  | spawned =>
    rw [moveStarter?] at moved
    split at moved
    · next free => exact ⟨_, _, .kept (Option.isNone_iff_eq_none.mp free), (Option.some.inj moved).symm⟩
    · cases moved
  | returned => cases moved
  | refused state => cases moved

theorem stopperStep_of_move {point : Stopper} (moved : d.moveStopper? ticket point = some next) :
    ∃ after shared, StopperStep d ticket point after shared ∧ next = shared.setCaller ticket (.stopper after) := by
  cases point with
  | begun =>
    rw [moveStopper?] at moved
    split at moved
    · next free => exact ⟨_, _, .locked (Option.isNone_iff_eq_none.mp free), (Option.some.inj moved).symm⟩
    · cases moved
  | looking =>
    rw [moveStopper?] at moved
    by_cases ended : d.lifecycle = .stopped
    · rw [if_pos ended] at moved
      exact ⟨_, _, .ended ended, (Option.some.inj moved).symm⟩
    · rw [if_neg ended] at moved
      exact ⟨_, _, .alive ended, (Option.some.inj moved).symm⟩
  | reporting => exact ⟨_, _, .reported, (Option.some.inj moved).symm⟩
  | cancelling => exact ⟨_, _, .cancelled, (Option.some.inj moved).symm⟩
  | droppingSender => exact ⟨_, _, .droppedSender, (Option.some.inj moved).symm⟩
  | droppingReceiver =>
    rw [moveStopper?] at moved
    by_cases stored : d.receiver = .stored
    · rw [if_pos stored] at moved
      exact ⟨_, _, .droppedReceiver stored, (Option.some.inj moved).symm⟩
    · rw [if_neg stored] at moved
      exact ⟨_, _, .noReceiver stored, (Option.some.inj moved).symm⟩
  | takingHandle =>
    rw [moveStopper?] at moved
    cases handle : d.hasHandle with
    | true =>
      rw [handle] at moved
      exact ⟨_, _, .tookHandle handle, (Option.some.inj moved).symm⟩
    | false =>
      rw [handle] at moved
      exact ⟨_, _, .noHandle handle, (Option.some.inj moved).symm⟩
  | awaiting =>
    rw [moveStopper?] at moved
    split at moved
    · next ended => exact ⟨_, _, .awaited ended, (Option.some.inj moved).symm⟩
    · cases moved
  | finishing => exact ⟨_, _, .finished, (Option.some.inj moved).symm⟩
  | returned => cases moved

theorem StarterStep.callers {point after : Starter} (h : StarterStep d point after next) :
    next.callers = d.callers := by
  cases h <;> rfl

/-- A stopper moves no other call, but it may answer what is in the channel. -/
theorem StopperStep.callers {point after : Stopper} (h : StopperStep d ticket point after next) :
    next.callers = d.callers ∨ next = d.dropReceiver := by
  cases h with
  | droppedReceiver => exact .inr rfl
  | _ => exact .inl rfl

/-- A call that moves shows where it stood and where it goes. -/
theorem observed_setCaller {shared : Dispatcher σ} {old between : Caller} (stood : d.callers[ticket]? = some old)
    (there : shared.callers[ticket]? = some between) (new : Caller) :
    observed d (shared.setCaller ticket new) (.caller ticket) = callerShows ticket (some old) (some new) := by
  rw [observed, stood, getElem?_setCaller_self there]

theorem step_of_moveSubmitter {point : Submitter} (stood : d.callers[ticket]? = some (.submitter point))
    (moved : d.moveSubmitter? ticket point = some next) :
    Step execute farewell d (.caller ticket) (observed d next (.caller ticket)) next := by
  cases point with
  | begun command =>
    rw [moveSubmitter?] at moved
    cases accepts : d.lifecycle.accepts with
    | true =>
      rw [accepts] at moved
      cases moved
      rw [observed_setCaller stood stood]
      exact .admitted stood accepts
    | false =>
      rw [accepts] at moved
      cases moved
      rw [observed_setCaller stood stood]
      exact .refused stood (.closed accepts)
  | admitted command =>
    rw [moveSubmitter?] at moved
    cases sender : d.hasSender with
    | true =>
      rw [sender] at moved
      cases moved
      rw [observed_setCaller stood stood]
      exact .gotSender stood sender
    | false =>
      rw [sender] at moved
      cases moved
      rw [observed_setCaller stood stood]
      exact .refused stood (.noSender sender)
  | sending command =>
    rw [moveSubmitter?] at moved
    by_cases refused : (d.cancelled || d.receiver = .dropped) = true
    · rw [if_pos refused] at moved
      cases moved
      rw [observed_setCaller stood stood]
      rw [Bool.or_eq_true, decide_eq_true_eq] at refused
      exact .refused stood (refused.elim .cancelled .noReceiver)
    · rw [if_neg refused] at moved
      rw [Bool.or_eq_true, decide_eq_true_eq, not_or, Bool.not_eq_true] at refused
      split at moved
      · next room =>
        cases moved
        have there : ({ d with queue := [(ticket, command)] } : Dispatcher σ).callers[ticket]? = some _ := stood
        rw [observed_setCaller stood there]
        exact .entered stood refused.1 refused.2 (List.isEmpty_iff.mp room)
      · cases moved
  | waiting => cases moved
  | answered reply =>
    cases moved
    rw [observed_setCaller stood stood]
    exact .returned stood
  | returned reply => cases moved

theorem Step.showing {process : Process} {event shown : Option Event}
    (step : Step execute farewell d process event next) (same : shown = event) :
    Step execute farewell d process shown next := same ▸ step

theorem step_of_moveWorker (moved : d.moveWorker? execute farewell = some next) :
    Step execute farewell d .worker (workerShows d.cancelled d.queue d.worker next.worker) next := by
  unfold moveWorker? at moved
  split at moved
  · next awake =>
    cases moved
    rw [awake]
    exact .awoke awake
  · next idle =>
    by_cases cancelled : d.cancelled = true
    · rw [if_pos cancelled] at moved
      cases moved
      exact (Step.sawCancel idle cancelled).showing (by rw [idle, cancelled]; rfl)
    · rw [if_neg cancelled] at moved
      rw [Bool.not_eq_true] at cancelled
      split at moved
      · next ticket rest queue =>
        cases moved
        exact (Step.tookQuit idle cancelled queue).showing (by rw [idle, cancelled, queue]; rfl)
      · next ticket command rest other queue =>
        cases moved
        rw [idle]
        exact .handed idle cancelled queue fun quit => other quit
      · next queue =>
        split at moved
        · cases moved
        · next deserted =>
          cases moved
          exact (Step.deserted idle cancelled queue (Bool.eq_false_iff.mpr deserted)).showing
            (by rw [idle, cancelled, queue]; rfl)
  · next ticket command executing =>
    cases moved
    rw [executing]
    exact .finished executing
  · next ticket reply replying =>
    cases moved
    rw [replying]
    exact .replied replying
  · next leaving =>
    cases moved
    rw [leaving]
    exact .left leaving
  · next closing =>
    cases moved
    rw [closing]
    exact .ended closing
  · cases moved
  · cases moved

/-- **Every move is a step**, and shows what the step shows. -/
theorem step_of_move {process : Process} (moved : d.move? execute farewell process = some next) :
    Step execute farewell d process (observed d next process) next := by
  cases process with
  | parent =>
    cases moved
    exact .parent
  | worker => exact step_of_moveWorker moved
  | caller ticket =>
    replace moved : d.moveCaller? ticket = some next := moved
    unfold moveCaller? at moved
    split at moved
    · next point stood =>
      obtain ⟨after, shared, step, rfl⟩ := starterStep_of_move moved
      rw [observed_setCaller stood (step.callers ▸ stood)]
      exact .starter stood step
    · next point stood => exact step_of_moveSubmitter stood moved
    · next point stood =>
      obtain ⟨after, shared, step, rfl⟩ := stopperStep_of_move moved
      obtain ⟨between, there⟩ : ∃ between, shared.callers[ticket]? = some between := by
        rcases step.callers with same | rfl
        · exact ⟨_, same ▸ stood⟩
        · rw [getElem?_dropReceiver, stood]
          split <;> exact ⟨_, rfl⟩
      rw [observed_setCaller stood there]
      exact .stopper stood step
    · cases moved

end Inversion

/-! ## What a step leaves -/

section Leaves

variable {execute : Executor σ} {farewell : Reply} {d next : Dispatcher σ} {process : Process} {event : Option Event}

/-- **Nothing takes back a cancellation**, and neither end of the channel returns to where it was stored. -/
theorem Step.monotone (step : Step execute farewell d process event next) :
    (d.cancelled = true → next.cancelled = true) ∧ (d.hasSender = false → next.hasSender = false)
      ∧ (d.receiver ≠ .stored → next.receiver ≠ .stored) := by
  cases step with
  | starter stood change =>
    cases change with
    | taken stored => exact ⟨id, id, fun _ => nofun⟩
    | _ => exact ⟨id, id, id⟩
  | stopper stood change =>
    cases change with
    | cancelled => exact ⟨fun _ => rfl, id, id⟩
    | droppedSender => exact ⟨id, fun _ => rfl, id⟩
    | droppedReceiver stored =>
      rw [dropReceiver_eq]
      exact ⟨id, id, fun _ => nofun⟩
    | _ => exact ⟨id, id, id⟩
  | ended closing =>
    rw [dropReceiver_eq]
    exact ⟨id, id, fun _ => nofun⟩
  | parent => exact ⟨fun _ => rfl, id, id⟩
  | _ => exact ⟨id, id, id⟩

/-- A call that does not submit stands where it stood, or it has moved itself. -/
theorem Step.call_cases (step : Step execute farewell d process event next) {ticket : Nat} {caller : Caller}
    (no : ∀ point, caller ≠ .submitter point) (stands : next.callers[ticket]? = some caller) :
    d.callers[ticket]? = some caller
    ∨ (∃ old after shared, d.callers[ticket]? = some (.starter old) ∧ StarterStep d old after shared
      ∧ caller = .starter after ∧ next = shared.setCaller ticket (.starter after))
    ∨ ∃ old after shared, d.callers[ticket]? = some (.stopper old) ∧ StopperStep d ticket old after shared
      ∧ caller = .stopper after ∧ next = shared.setCaller ticket (.stopper after) := by
  have elsewhere {mover : Nat} {point : Submitter}
      (stands : (d.setCaller mover (.submitter point)).callers[ticket]? = some caller) :
      d.callers[ticket]? = some caller := by
    rcases setCaller_cases stands with ⟨-, same⟩ | ⟨-, stood⟩
    · exact absurd same (no point)
    · exact stood
  have dropped (stands : d.dropReceiver.callers[ticket]? = some caller) : d.callers[ticket]? = some caller := by
    rcases dropReceiver_cases stands with ⟨-, new⟩ | ⟨-, stood⟩
    · exact absurd new (no _)
    · exact stood
  cases step with
  | starter stood change =>
    rcases setCaller_cases stands with ⟨rfl, same⟩ | ⟨-, there⟩
    · exact .inr (.inl ⟨_, _, _, stood, change, same, rfl⟩)
    · exact .inl (change.callers ▸ there)
  | stopper stood change =>
    rcases setCaller_cases stands with ⟨rfl, same⟩ | ⟨-, there⟩
    · exact .inr (.inr ⟨_, _, _, stood, change, same, rfl⟩)
    · rcases change.callers with same | rfl
      · exact .inl (same ▸ there)
      · exact .inl (dropped there)
  | ended closing => exact .inl (dropped stands)
  | awoke | sawCancel | handed | deserted | finished | left | parent => exact .inl stands
  | _ => exact .inl (elsewhere stands)

theorem Step.stopper_cases (step : Step execute farewell d process event next) {ticket : Nat} {point : Stopper}
    (stands : next.callers[ticket]? = some (.stopper point)) :
    d.callers[ticket]? = some (.stopper point)
    ∨ ∃ old shared, d.callers[ticket]? = some (.stopper old) ∧ StopperStep d ticket old point shared
      ∧ next = shared.setCaller ticket (.stopper point) := by
  rcases step.call_cases (by simp) stands with same | ⟨_, _, _, _, _, other, _⟩
    | ⟨old, after, shared, stood, change, same, rfl⟩
  · exact .inl same
  · cases other
  · cases same
    exact .inr ⟨old, shared, stood, change, rfl⟩

theorem Step.starter_cases (step : Step execute farewell d process event next) {ticket : Nat} {point : Starter}
    (stands : next.callers[ticket]? = some (.starter point)) :
    d.callers[ticket]? = some (.starter point)
    ∨ ∃ old shared, d.callers[ticket]? = some (.starter old) ∧ StarterStep d old point shared
      ∧ next = shared.setCaller ticket (.starter point) := by
  rcases step.call_cases (by simp) stands with same | ⟨old, after, shared, stood, change, same, rfl⟩
    | ⟨_, _, _, _, _, other, _⟩
  · exact .inl same
  · cases same
    exact .inr ⟨old, shared, stood, change, rfl⟩
  · cases other

end Leaves

/-! ## Runs -/

section Runs

variable {execute : Executor σ} {farewell : Reply} {start d : Dispatcher σ} {schedule : List Process}

/-- **What every step keeps, every run keeps**, whatever was shown before. -/
theorem run_induction {P : List Event → Dispatcher σ → Prop}
    (keeps : ∀ events before process event after, P events before →
      Step execute farewell before process event after → P (record events event) after)
    {events : List Event} (first : P events start)
    (ran : runSchedule? execute farewell schedule start = some d) :
    P (events ++ history execute farewell schedule start) d := by
  induction schedule generalizing start events with
  | nil =>
    cases ran
    rw [history, List.append_nil]
    exact first
  | cons process rest ih =>
    obtain ⟨next, moved, onwards⟩ := Option.bind_eq_some_iff.mp ran
    rw [history, moved]
    show P (events ++ ((observed start next process).toList ++ history execute farewell rest next)) d
    rw [← record_append]
    exact ih (keeps _ _ _ _ _ first (step_of_move moved)) onwards

/-- What holds of the state all along, and of everything that is shown meanwhile. -/
theorem run_forall {Q : Dispatcher σ → Prop} {R : Event → Prop}
    (keeps : ∀ before process event after, Q before → Step execute farewell before process event after →
      Q after ∧ ∀ shown ∈ event, R shown)
    (first : Q start) (ran : runSchedule? execute farewell schedule start = some d) :
    Q d ∧ ∀ event ∈ history execute farewell schedule start, R event := by
  have all := run_induction (P := fun events d => Q d ∧ ∀ event ∈ events, R event)
    (fun events before process event after ⟨now, shown⟩ step => ?_)
    ⟨first, fun event mem => absurd mem List.not_mem_nil⟩ ran
  · rwa [List.nil_append] at all
  · obtain ⟨then_, new⟩ := keeps before process event after now step
    refine ⟨then_, fun any mem => ?_⟩
    cases event with
    | none => exact shown any mem
    | some event =>
      rcases List.mem_append.mp mem with earlier | last
      · exact shown any earlier
      · exact new any (List.mem_singleton.mp last ▸ rfl)

end Runs

end DeviceConsole.Dispatcher
