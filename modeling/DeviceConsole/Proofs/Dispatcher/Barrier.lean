import DeviceConsole.Proofs.Dispatcher.Service

/-!
# `Proofs.Dispatcher.Barrier` — what a stop leaves behind

A stop cancels, closes the channel and waits for the worker whose handle it finds. After it the executor is not
called again and whatever is submitted is refused. But a start brings the worker to life before it stores the
handle, so a stop that takes the handle in between finds none and returns while a command is carried out. A stop
that overtakes no start leaves silence: nothing is in execution, and further stops change nothing.

* `Handled` — someone can wait for every worker that is alive;
* `Shut`, `Silent`, `Barring` — what a stop makes of the dispatcher, point by point;
* `barrier_of_stop` — what holds from the return of a stop on;
* `stop_overtakes_start` — a stop that returns while a command is carried out.
-/

namespace DeviceConsole.Dispatcher

variable {σ : Type} {execute : Executor σ} {farewell : Reply} {d next : Dispatcher σ} {process : Process}
  {event : Option Event} {calls : List Call} {events : List Event}

/-! ## Someone can wait for the worker -/

/-- Whether the worker is there and has not ended. -/
def Worker.isAlive : Worker → Bool
  | absent | ended => false
  | _ => true

/-- The call knows of the worker: it will store the handle, or it has taken it and waits. -/
def Knows (callers : List Caller) (ticket : Nat) : Prop :=
  callers[ticket]? = some (.starter .spawned) ∨ callers[ticket]? = some (.stopper .awaiting)

/-- The handle of a worker that is alive is stored, or a call knows of it. -/
def Handled (worker : Worker) (hasHandle : Bool) (callers : List Caller) : Prop :=
  worker.isAlive = true → hasHandle = true ∨ ∃ ticket, Knows callers ticket

theorem Handled.step (standing : ∀ ticket, Standing farewell calls events d ticket)
    (h : Handled d.worker d.hasHandle d.callers) (step : Step execute farewell d process event next) :
    Handled next.worker next.hasHandle next.callers := by
  have others {ticket : Nat} (knows : Knows d.callers ticket) (different : process ≠ .caller ticket) :
      Knows next.callers ticket := by
    rcases knows with stood | stood
    · exact .inl ((step.own_move standing stood nofun).resolve_left different)
    · exact .inr ((step.own_move standing stood nofun).resolve_left different)
  have another {mover ticket : Nat} {old : Caller} (stood : d.callers[mover]? = some old)
      (no : old ≠ .starter .spawned ∧ old ≠ .stopper .awaiting) (knows : Knows d.callers ticket) :
      Process.caller mover ≠ .caller ticket := by
    rintro ⟨rfl⟩
    rcases knows with knows | knows
    · exact no.1 (Option.some.inj (stood.symm.trans knows))
    · exact no.2 (Option.some.inj (stood.symm.trans knows))
  intro alive
  cases step with
  | starter stood change =>
    cases change with
    | spawned => exact .inr ⟨_, .inl (getElem?_setCaller_self stood _)⟩
    | kept free => exact .inl rfl
    | taken | refused | reported =>
      exact (h alive).imp id fun ⟨ticket, knows⟩ => ⟨ticket, others knows (another stood ⟨nofun, nofun⟩ knows)⟩
  | stopper stood change =>
    cases change with
    | tookHandle handle => exact .inr ⟨_, .inr (getElem?_setCaller_self stood _)⟩
    | noHandle handle =>
      rcases h alive with stored | ⟨ticket, knows⟩
      · rw [handle] at stored
        cases stored
      · exact .inr ⟨ticket, others knows (another stood ⟨nofun, nofun⟩ knows)⟩
    | awaited ended =>
      replace alive : d.worker.isAlive = true := alive
      rw [ended] at alive
      cases alive
    | droppedReceiver stored =>
      rw [dropReceiver_eq] at alive others ⊢
      exact (h alive).imp id fun ⟨ticket, knows⟩ => ⟨ticket, others knows (another stood ⟨nofun, nofun⟩ knows)⟩
    | _ => exact (h alive).imp id fun ⟨ticket, knows⟩ => ⟨ticket, others knows (another stood ⟨nofun, nofun⟩ knows)⟩
  | ended closing => cases alive
  | awoke there | sawCancel there | tookQuit there | handed there | deserted there | finished there | replied there
    | left there =>
    exact (h (by rw [there]; rfl)).imp id fun ⟨ticket, knows⟩ => ⟨ticket, others knows nofun⟩
  | parent => exact (h alive).imp id fun ⟨ticket, knows⟩ => ⟨ticket, others knows nofun⟩
  | admitted stood | gotSender stood | refused stood | entered stood | returned stood =>
    exact (h alive).imp id fun ⟨ticket, knows⟩ => ⟨ticket, others knows (another stood ⟨nofun, nofun⟩ knows)⟩

/-! ## A closed dispatcher -/

/-- Whether the call has taken the receiving end and not yet stored the handle of the worker. -/
def Starter.underWay : Starter → Bool
  | hasReceiver | reported | spawned => true
  | _ => false

/-- The dispatcher is cancelled and closed, and no start is under way. -/
structure Shut (d : Dispatcher σ) : Prop where
  cancelled : d.cancelled = true
  closed : d.hasSender = false
  gone : d.receiver ≠ .stored
  settled : ∀ (ticket : Nat) point, d.callers[ticket]? = some (.starter point) → point.underWay = false

/-- A closed dispatcher stays closed, since no start can take the receiving end any more. -/
theorem Shut.step (h : Shut d) (step : Step execute farewell d process event next) : Shut next := by
  obtain ⟨cancelled, closed, gone⟩ := step.monotone
  refine ⟨cancelled h.cancelled, closed h.closed, gone h.gone, fun ticket point stands => ?_⟩
  rcases step.starter_cases stands with same | ⟨old, shared, stood, change, -⟩
  · exact h.settled ticket point same
  · have settled := h.settled ticket old stood
    cases change with
    | taken stored => exact absurd stored h.gone
    | refused | kept => rfl
    | reported | spawned => cases settled

/-- No handle is stored in a closed dispatcher. -/
theorem Shut.noHandle (h : Shut d) (none_stored : d.hasHandle = false)
    (step : Step execute farewell d process event next) : next.hasHandle = false := by
  cases step with
  | starter stood change =>
    have settled := h.settled _ _ stood
    cases change with
    | kept free => cases settled
    | _ => exact none_stored
  | stopper stood change =>
    cases change with
    | droppedReceiver stored =>
      rw [dropReceiver_eq]
      exact none_stored
    | tookHandle | noHandle => rfl
    | _ => exact none_stored
  | ended closing =>
    rw [dropReceiver_eq]
    exact none_stored
  | _ => exact none_stored

/-- No worker comes to life in a closed dispatcher. -/
theorem Shut.notAlive (h : Shut d) (dead : d.worker.isAlive = false)
    (step : Step execute farewell d process event next) : next.worker.isAlive = false := by
  cases step with
  | starter stood change =>
    have settled := h.settled _ _ stood
    cases change with
    | spawned => cases settled
    | _ => exact dead
  | stopper stood change =>
    cases change with
    | droppedReceiver stored =>
      rw [dropReceiver_eq]
      exact dead
    | _ => exact dead
  | awoke there | sawCancel there | tookQuit there | handed there | deserted there | finished there | replied there
    | left there =>
    rw [there] at dead
    cases dead
  | ended closing => rfl
  | _ => exact dead

/-- **A dispatcher without a worker**, for good: it is closed, no handle is stored, it reports that it is stopped, and
no stop is about to report otherwise or waits. -/
structure Silent (d : Dispatcher σ) : Prop where
  shut : Shut d
  noHandle : d.hasHandle = false
  notAlive : d.worker.isAlive = false
  stopped : d.lifecycle = .stopped
  idle : ∀ (ticket : Nat) point, d.callers[ticket]? = some (.stopper point) → point ≠ .reporting ∧ point ≠ .awaiting

/-- **Silence lasts.** -/
theorem Silent.step (h : Silent d) (step : Step execute farewell d process event next) : Silent next := by
  refine ⟨h.shut.step step, h.shut.noHandle h.noHandle step, h.shut.notAlive h.notAlive step, ?_, ?_⟩
  · have dead := h.notAlive
    cases step with
    | starter stood change =>
      have settled := h.shut.settled _ _ stood
      cases change with
      | reported => cases settled
      | _ => exact h.stopped
    | stopper stood change =>
      have idle := h.idle _ _ stood
      cases change with
      | reported => exact absurd rfl idle.1
      | droppedReceiver stored =>
        rw [dropReceiver_eq]
        exact h.stopped
      | finished => rfl
      | _ => exact h.stopped
    | awoke awake =>
      rw [awake] at dead
      cases dead
    | left leaving => rfl
    | ended closing =>
      rw [closing] at dead
      cases dead
    | _ => exact h.stopped
  · intro ticket point stands
    rcases step.stopper_cases stands with same | ⟨old, shared, stood, change, -⟩
    · exact h.idle ticket point same
    · cases change with
      | alive running => exact absurd h.stopped running
      | tookHandle handle =>
        rw [h.noHandle] at handle
        cases handle
      | _ => exact ⟨nofun, nofun⟩

/-- A further stop changes nothing but the lock and where it stands itself. -/
theorem Silent.stopper (h : Silent d) {ticket : Nat} {point after : Stopper}
    (stood : d.callers[ticket]? = some (.stopper point)) (change : StopperStep d ticket point after next) :
    next = { d with stopLock := next.stopLock } := by
  obtain ⟨⟨cancelled, closed, gone, -⟩, noHandle, -, stopped, idle⟩ := h
  cases change with
  | reported => exact absurd rfl (idle ticket _ stood).1
  | cancelled => rw [← cancelled]
  | droppedSender => rw [← closed]
  | droppedReceiver stored => exact absurd stored gone
  | tookHandle handle =>
    rw [noHandle] at handle
    cases handle
  | noHandle => rw [← noHandle]
  | finished => rw [← stopped]
  | locked | ended | alive | noReceiver | awaited => rfl

/-! ## The points of a stop -/

/-- What a stop makes of the dispatcher from the point on where it takes the handle, if no start is under way. -/
inductive Barring (ticket : Nat) (d : Dispatcher σ) : Prop
  | taking : Shut d → d.callers[ticket]? = some (.stopper .takingHandle) → Barring ticket d
  | awaiting : Shut d → d.hasHandle = false → d.callers[ticket]? = some (.stopper .awaiting) → Barring ticket d
  | finishing : Shut d → d.hasHandle = false → d.worker.isAlive = false →
      d.callers[ticket]? = some (.stopper .finishing) → Barring ticket d
  | silent : Silent d → Barring ticket d

/-- A move of a stop is a step of it. -/
theorem Step.of_stopper {ticket : Nat} {point : Stopper}
    (step : Step execute farewell d (.caller ticket) event next)
    (stood : d.callers[ticket]? = some (.stopper point)) :
    ∃ after shared, StopperStep d ticket point after shared ∧ next = shared.setCaller ticket (.stopper after) := by
  cases step with
  | stopper own change =>
    cases stood.symm.trans own
    exact ⟨_, _, change, rfl⟩
  | starter own | admitted own | gotSender own | refused own | entered own | returned own =>
    cases stood.symm.trans own

/-- A stop that finds no handle although no start is under way finds no worker either. -/
theorem not_alive_of_noHandle {ticket : Nat} (shut : Shut d) (locking : Locking d.stopLock d.callers)
    (handled : Handled d.worker d.hasHandle d.callers)
    (stood : d.callers[ticket]? = some (.stopper .takingHandle)) (noHandle : d.hasHandle = false) :
    d.worker.isAlive = false := by
  refine Bool.eq_false_iff.mpr fun alive => ?_
  rcases handled alive with stored | ⟨other, spawned | awaiting⟩
  · rw [noHandle] at stored
    cases stored
  · cases shut.settled other .spawned spawned
  · have own := locking ticket .takingHandle stood (by decide) (by decide)
    cases own.symm.trans (locking other .awaiting awaiting (by decide) (by decide))
    cases stood.symm.trans awaiting

/-- **From the point where it takes the handle on, a stop that overtakes no start ends in silence.** -/
theorem Barring.step {ticket : Nat} (h : Barring ticket d)
    (standing : ∀ ticket, Standing farewell calls events d ticket) (locking : Locking d.stopLock d.callers)
    (handled : Handled d.worker d.hasHandle d.callers) (step : Step execute farewell d process event next) :
    Barring ticket next := by
  cases h with
  | silent h => exact .silent (h.step step)
  | taking shut stood =>
    have after := shut.step step
    rcases step.own_move standing stood nofun with rfl | same
    · obtain ⟨point, shared, change, rfl⟩ := step.of_stopper stood
      cases change with
      | tookHandle handle => exact .awaiting after rfl (getElem?_setCaller_self stood _)
      | noHandle handle =>
        have dead := not_alive_of_noHandle shut locking handled stood handle
        exact .finishing after rfl dead (getElem?_setCaller_self stood _)
    · exact .taking after same
  | awaiting shut noHandle stood =>
    have after := shut.step step
    rcases step.own_move standing stood nofun with rfl | same
    · obtain ⟨point, shared, change, rfl⟩ := step.of_stopper stood
      cases change with
      | awaited ended =>
        exact .finishing after noHandle (congrArg Worker.isAlive ended) (getElem?_setCaller_self stood _)
    · exact .awaiting after (shut.noHandle noHandle step) same
  | finishing shut noHandle dead stood =>
    have after := shut.step step
    rcases step.own_move standing stood nofun with rfl | same
    · obtain ⟨point, shared, change, rfl⟩ := step.of_stopper stood
      cases change with
      | finished =>
        refine .silent ⟨after, noHandle, dead, rfl, fun other point stands => ?_⟩
        rcases setCaller_cases stands with ⟨-, same⟩ | ⟨different, there⟩
        · cases same
          exact ⟨nofun, nofun⟩
        · -- another stop that has begun would hold the lock that this one gives back
          have own := locking ticket .finishing stood (by decide) (by decide)
          refine ⟨?_, ?_⟩ <;>
            · rintro rfl
              exact different (Option.some.inj ((locking other _ there (by decide) (by decide)).symm.trans own))
    · exact .finishing after (shut.noHandle noHandle step) (shut.notAlive dead step) same

/-! ## Runs -/

section Runs

variable {site : σ} {front back onwards : List Process} {m e : Dispatcher σ} {ticket : Nat}

/-- What every run keeps, with the lock and the handle. -/
structure Guarded (execute : Executor σ) (farewell : Reply) (site : σ) (calls : List Call) (events : List Event)
    (d : Dispatcher σ) : Prop where
  kept : Kept execute farewell site calls events d
  locking : Locking d.stopLock d.callers
  handled : Handled d.worker d.hasHandle d.callers

theorem Guarded.step (h : Guarded execute farewell site calls events d)
    (step : Step execute farewell d process event next) :
    Guarded execute farewell site calls (record events event) next :=
  ⟨h.kept.step step, h.locking.step step, h.handled.step h.kept.standing step⟩

theorem Guarded.run (h : Guarded execute farewell site calls events d)
    (ran : runSchedule? execute farewell onwards d = some e) :
    Guarded execute farewell site calls (events ++ history execute farewell onwards d) e :=
  run_induction (P := Guarded execute farewell site calls) (fun _ _ _ _ _ h step => h.step step) h ran

theorem guarded_facing : Guarded execute farewell site calls [] (facing site calls) := by
  refine ⟨kept_facing site calls, fun ticket point stands low => ?_, fun alive => ?_⟩
  · obtain ⟨call, -, same⟩ := getElem?_facing stands
    cases call <;> cases same
    exact absurd low (by decide)
  · cases alive

/-- Once it is cancelled, the worker hands nothing to the executor. -/
theorem not_handed_of_cancelled (cancelled : d.cancelled = true)
    (ran : runSchedule? execute farewell onwards d = some e) :
    ∀ event ∈ history execute farewell onwards d, event.handed? = none := by
  refine (run_forall (Q := fun d => d.cancelled = true) ?_ cancelled ran).2
  intro before process event after cancelled step
  refine ⟨step.monotone.1 cancelled, fun shown mem => ?_⟩
  cases step with
  | handed idle alive =>
    rw [cancelled] at alive
    cases alive
  | refused | entered | returned | sawCancel | tookQuit | finished =>
    cases mem
    rfl
  | _ => cases mem

/-- In a silent dispatcher no command comes back from the executor. -/
theorem not_finished_of_silent (silent : Silent d) (ran : runSchedule? execute farewell onwards d = some e) :
    Silent e ∧ ∀ event ∈ history execute farewell onwards d, event.finished? = none := by
  refine run_forall ?_ silent ran
  intro before process event after silent step
  refine ⟨silent.step step, fun shown mem => ?_⟩
  cases step with
  | finished executing =>
    have dead := silent.notAlive
    rw [executing] at dead
    cases dead
  | refused | entered | returned | sawCancel | tookQuit | handed =>
    cases mem
    rfl
  | _ => cases mem

/-- A submission that has not looked for the sending end of the channel, or was refused. -/
def TurnedAway (d : Dispatcher σ) (ticket : Nat) : Prop :=
  (∃ command, d.callers[ticket]? = some (.submitter (.begun command)))
  ∨ (∃ command, d.callers[ticket]? = some (.submitter (.admitted command)))
  ∨ d.callers[ticket]? = some (.submitter (.returned refusal))

theorem TurnedAway.step (h : TurnedAway d ticket) (standing : ∀ ticket, Standing farewell calls events d ticket)
    (closed : d.hasSender = false) (step : Step execute farewell d process event next) : TurnedAway next ticket := by
  rcases h with ⟨command, stood⟩ | ⟨command, stood⟩ | stood <;>
    rcases step.own_move standing stood nofun with rfl | same
  · cases step with
    | admitted own => exact .inr (.inl ⟨_, getElem?_setCaller_self own _⟩)
    | refused own => exact .inr (.inr (getElem?_setCaller_self own _))
    | starter own | stopper own | gotSender own | entered own | returned own => cases stood.symm.trans own
  · exact .inl ⟨command, same⟩
  · cases step with
    | gotSender own open_ =>
      rw [closed] at open_
      cases open_
    | refused own => exact .inr (.inr (getElem?_setCaller_self own _))
    | starter own | stopper own | admitted own | entered own | returned own => cases stood.symm.trans own
  · exact .inr (.inl ⟨command, same⟩)
  · cases step with
    | refused own refuses =>
      cases stood.symm.trans own
      cases refuses
    | starter own | stopper own | admitted own | gotSender own | entered own | returned own =>
      cases stood.symm.trans own
  · exact .inr (.inr same)

/-- A submission to a closed dispatcher is refused by its own moves, two at most. -/
theorem TurnedAway.refused (h : TurnedAway d ticket) (closed : d.hasSender = false) :
    ∃ moves last, moves ≤ 2 ∧ runSchedule? execute farewell (List.replicate moves (.caller ticket)) d = some last
      ∧ last.callers[ticket]? = some (.submitter (.returned refusal)) := by
  have atSender {d : Dispatcher σ} {command : Command} (closed : d.hasSender = false)
      (stood : d.callers[ticket]? = some (.submitter (.admitted command))) :
      d.move? execute farewell (.caller ticket) = some (d.setCaller ticket (.submitter (.returned refusal))) := by
    show d.moveCaller? ticket = _
    rw [moveCaller?, stood]
    show d.moveSubmitter? ticket _ = _
    rw [moveSubmitter?, closed]
    rfl
  rcases h with ⟨command, stood⟩ | ⟨command, stood⟩ | stood
  · have atState : d.move? execute farewell (.caller ticket)
        = d.moveSubmitter? ticket (.begun command) := by
      show d.moveCaller? ticket = _
      rw [moveCaller?, stood]
    rw [moveSubmitter?] at atState
    cases accepts : d.lifecycle.accepts with
    | false =>
      rw [accepts] at atState
      refine ⟨1, _, by decide, ?_, getElem?_setCaller_self stood _⟩
      rw [List.replicate_one, runSchedule?, atState]
      rfl
    | true =>
      rw [accepts] at atState
      have admitted := getElem?_setCaller_self stood (.submitter (.admitted command))
      refine ⟨2, _, by decide, ?_, getElem?_setCaller_self admitted _⟩
      show runSchedule? execute farewell [.caller ticket, .caller ticket] d = _
      rw [runSchedule?, atState]
      show runSchedule? execute farewell [.caller ticket] (d.setCaller ticket (.submitter (.admitted command))) = _
      rw [runSchedule?, atSender (d := d.setCaller ticket (.submitter (.admitted command))) closed admitted]
      rfl
  · refine ⟨1, _, by decide, ?_, getElem?_setCaller_self stood _⟩
    rw [List.replicate_one, runSchedule?, atSender closed stood]
    rfl
  · exact ⟨0, d, by decide, rfl, stood⟩

/-- **From the return of a stop on** the executor is not called, and what is submitted is refused after two moves of
its own at most. If no start was under way when the stop took the handle, nothing is in execution either, no command
comes back from the executor, and further stops change nothing but their lock. -/
theorem barrier_of_stop (first : runSchedule? execute farewell front (facing site calls) = some m)
    (taking : m.callers[ticket]? = some (.stopper .takingHandle))
    (second : runSchedule? execute farewell back m = some d)
    (returned : d.callers[ticket]? = some (.stopper .returned))
    (third : runSchedule? execute farewell onwards d = some e) :
    (∀ event ∈ history execute farewell onwards d, event.handed? = none)
    ∧ (∀ (submitter : Nat) command, d.callers[submitter]? = some (.submitter (.begun command)) →
        ∃ moves last, moves ≤ 2
          ∧ runSchedule? execute farewell (List.replicate moves (.caller submitter)) e = some last
          ∧ last.callers[submitter]? = some (.submitter (.returned refusal)))
    ∧ ((∀ (starter : Nat) point, m.callers[starter]? = some (.starter point) → point.underWay = false) →
        e.worker.inExecution = []
        ∧ (∀ event ∈ history execute farewell onwards d, event.finished? = none)
        ∧ ∀ (stopper : Nat) point next, e.callers[stopper]? = some (.stopper point) →
            e.move? execute farewell (.caller stopper) = some next →
            ∃ after, next = { e with stopLock := next.stopLock }.setCaller stopper (.stopper after)) := by
  have atTaking := guarded_facing.run first
  have atReturn := atTaking.run second
  obtain ⟨cancels, closes, -⟩ := atReturn.kept.silencing.past ticket .returned returned
  refine ⟨not_handed_of_cancelled (cancels (by decide)) third, fun submitter command stood => ?_, fun settled => ?_⟩
  · have onTheWay := run_induction
      (P := fun events d => Guarded execute farewell site calls events d ∧ d.hasSender = false ∧ TurnedAway d submitter)
      (fun events before process event after ⟨guarded, closed, away⟩ step =>
        ⟨guarded.step step, step.monotone.2.1 closed, away.step guarded.kept.standing closed step⟩)
      ⟨atReturn, closes (by decide), .inl ⟨command, stood⟩⟩ third
    exact onTheWay.2.2.refused onTheWay.2.1
  · obtain ⟨cancels', closes', empties'⟩ := atTaking.kept.silencing.past ticket .takingHandle taking
    have shut : Shut m := ⟨cancels' (by decide), closes' (by decide), empties' (by decide), settled⟩
    have barring := run_induction
      (P := fun events d => Guarded execute farewell site calls events d ∧ Barring ticket d)
      (fun events before process event after ⟨guarded, barring⟩ step =>
        ⟨guarded.step step, barring.step guarded.kept.standing guarded.locking guarded.handled step⟩)
      ⟨atTaking, .taking shut taking⟩ second
    have silent : Silent d := by
      cases barring.2 with
      | silent silent => exact silent
      | taking _ stood | awaiting _ _ stood | finishing _ _ _ stood => cases returned.symm.trans stood
    obtain ⟨last, nothing⟩ := not_finished_of_silent silent third
    refine ⟨?_, nothing, fun stopper point next stood moved => ?_⟩
    · have dead := last.notAlive
      cases working : e.worker with
      | executing other command =>
        rw [working] at dead
        cases dead
      | _ => rfl
    · replace moved : e.moveCaller? stopper = some next := moved
      rw [moveCaller?, stood] at moved
      obtain ⟨after, shared, change, rfl⟩ := stopperStep_of_move moved
      refine ⟨after, ?_⟩
      exact congrArg (fun shared => setCaller shared stopper (.stopper after)) (last.stopper stood change)

/-- A start, a submission and a stop. -/
def callsOfThree : List Call := [.start, .submit .discover, .stop]

/-- An executor that counts commands. -/
def countingAll : Executor Nat := fun _ count => (.ok { answer := .nothing }, count + 1)

/-- The start is done and the worker waits when the stop takes the handle. -/
def startFirst : List Process :=
  [.caller 0, .caller 0, .caller 0, .caller 0, .worker, .caller 2, .caller 2, .caller 2, .caller 2, .caller 2,
    .caller 2]

/-- From there on the stop waits until the worker has left. -/
def stopWaits : List Process := [.caller 2, .worker, .worker, .worker, .caller 2, .caller 2]

/-- The stop waits for the worker that the start has brought to life, and the submission that begins after its return
is refused. -/
theorem barrier_of_stop_started :
    ∃ m d, runSchedule? countingAll Dispatcher.farewell startFirst (facing 0 callsOfThree) = some m
      ∧ runSchedule? countingAll Dispatcher.farewell stopWaits m = some d
      ∧ d.callers = [.starter .returned, .submitter (.begun .discover), .stopper .returned]
      ∧ d.worker.inExecution = []
      ∧ ∃ moves last, moves ≤ 2
          ∧ runSchedule? countingAll Dispatcher.farewell (List.replicate moves (.caller 1)) d = some last
          ∧ last.callers[1]? = some (.submitter (.returned refusal)) := by
  obtain ⟨m, d, first, callers, second, callers'⟩ :
      ∃ m d, runSchedule? countingAll Dispatcher.farewell startFirst (facing 0 callsOfThree) = some m
        ∧ m.callers = [.starter .returned, .submitter (.begun .discover), .stopper .takingHandle]
        ∧ runSchedule? countingAll Dispatcher.farewell stopWaits m = some d
        ∧ d.callers = [.starter .returned, .submitter (.begun .discover), .stopper .returned] :=
    ⟨_, _, rfl, rfl, rfl, rfl⟩
  have third : runSchedule? countingAll Dispatcher.farewell [] d = some d := rfl
  have taking : m.callers[2]? = some (.stopper .takingHandle) := by rw [callers]; rfl
  have returned : d.callers[2]? = some (.stopper .returned) := by rw [callers']; rfl
  have begun : d.callers[1]? = some (.submitter (.begun .discover)) := by rw [callers']; rfl
  have settled : ∀ (starter : Nat) point, m.callers[starter]? = some (.starter point) → point.underWay = false := by
    intro starter point stands
    rw [callers] at stands
    match starter with
    | 0 => cases stands; rfl
    | 1 | 2 => cases stands
    | other + 3 => cases stands
  obtain ⟨-, refused, silent⟩ := barrier_of_stop first taking second returned third
  exact ⟨m, d, first, second, callers', (silent settled).1, refused 1 .discover begun⟩

/-- The stop takes the handle when the worker is alive and its handle is not stored yet. -/
def stopBetween : List Process :=
  [.caller 0, .caller 0, .caller 0, .worker, .caller 1, .caller 1, .caller 1, .worker, .caller 2, .caller 2, .caller 2,
    .caller 2, .caller 2, .caller 2, .caller 2, .caller 2]

/-- **A stop that overtakes a start** returns while a command is in execution. -/
theorem stop_overtakes_start :
    ∃ d, runSchedule? countingAll Dispatcher.farewell stopBetween (facing 0 callsOfThree) = some d
      ∧ d.callers[2]? = some (.stopper .returned) ∧ d.worker.inExecution = [(1, .discover)] :=
  ⟨_, rfl, rfl, rfl⟩

end Runs

end DeviceConsole.Dispatcher
