import DeviceConsole.Proofs.Dispatcher.Barrier

/-!
# `Proofs.Dispatcher.Forward` — which way the reported state goes

A start reports `started`, the worker reports `running` when it first moves and `stopped` when it leaves, and a stop
reports `stopping` and `stopped`. Each writes what it has to report whatever is reported at that moment, so a report
that is overtaken by a later one takes the state back. As long as none is overtaken, the reported state can be told
from where the worker and the stops stand (`Told`), and these only go forward.

* `Lifecycle.rank`, `reports` — the order of the states, and the states that a run reports;
* `Overtaken` — the three reports that can come too late: a start or the worker reports after a stop has, or a stop
  reports `stopping` after the worker has left;
* `Timely.step` — a report in time goes forward, and `Timely.overtaken` — one that is overtaken goes back;
* `reports_forward_iff` — a run goes forward exactly if no report in it is overtaken;
* `reports_go_back` — the worker that is brought to life by a start that is done is overtaken by the stop after it.
-/

namespace DeviceConsole

/-- The place of a state in the order in which a dispatcher is meant to pass through them. -/
def Lifecycle.rank : Lifecycle → Nat
  | created => 0
  | started => 1
  | running => 2
  | stopping => 3
  | stopped => 4

namespace Dispatcher

variable {σ : Type} {execute : Executor σ} {farewell : Reply} {d next : Dispatcher σ} {process : Process}
  {event : Option Event} {site : σ} {calls : List Call} {events : List Event} {ticket : Nat}

/-! ## Reports -/

/-- The states that a run reports: the first one, and the one after each move. -/
def reports (execute : Executor σ) (farewell : Reply) : List Process → Dispatcher σ → List Lifecycle
  | [], dispatcher => [dispatcher.lifecycle]
  | process :: rest, dispatcher =>
    dispatcher.lifecycle ::
      match dispatcher.move? execute farewell process with
      | none => []
      | some next => reports execute farewell rest next

/-- No state is in front of one that was reported before. -/
def Forward (states : List Lifecycle) : Prop :=
  states.Pairwise fun earlier later => earlier.rank ≤ later.rank

instance (states : List Lifecycle) : Decidable (Forward states) :=
  inferInstanceAs (Decidable (states.Pairwise _))

/-- A stop has reported, or has seen that there is nothing to report. -/
def HasReported (callers : List Caller) : Prop :=
  ∃ (ticket : Nat) (point : Stopper), callers[ticket]? = some (.stopper point) ∧ 3 ≤ point.rank

/-- A stop has returned. -/
def HasStopped (callers : List Caller) : Prop := ∃ ticket : Nat, callers[ticket]? = some (.stopper .returned)

/-- What the worker has reported: nothing, that it runs, or that it has left. -/
def Worker.reported : Worker → Nat
  | absent | spawned => 0
  | idle | executing _ _ | replying _ _ | leaving => 1
  | closing | ended => 2

theorem Worker.reported_le_two (worker : Worker) : worker.reported ≤ 2 := by
  cases worker <;> simp [reported]

/-- **The next move is a report that comes too late**: a start or the worker is about to report after a stop has
reported, or a stop is about to report `stopping` after the worker has left. -/
inductive Overtaken (d : Dispatcher σ) : Process → Prop
  | start {ticket : Nat} : d.callers[ticket]? = some (.starter .hasReceiver) → HasReported d.callers →
      Overtaken d (.caller ticket)
  | worker : d.worker = .spawned → HasReported d.callers → Overtaken d .worker
  | stop {ticket : Nat} : d.callers[ticket]? = some (.stopper .reporting) → d.worker.reported = 2 →
      Overtaken d (.caller ticket)

/-- No report of a run is overtaken. -/
def InTime (execute : Executor σ) (farewell : Reply) : List Process → Dispatcher σ → Prop
  | [], _ => True
  | process :: rest, dispatcher =>
    ¬ Overtaken dispatcher process
      ∧ ∀ next, dispatcher.move? execute farewell process = some next → InTime execute farewell rest next

/-! ## Where stops stand -/

theorem hasReported_of_hasStopped {callers : List Caller} (h : HasStopped callers) : HasReported callers := by
  obtain ⟨ticket, returned⟩ := h
  exact ⟨ticket, .returned, returned, by decide⟩

/-- A stop goes forward. -/
theorem StopperStep.rank_lt {point after : Stopper} (h : StopperStep d ticket point after next) :
    point.rank < after.rank := by
  cases h <;> decide

theorem caller_ne {other : Nat} (differ : other ≠ ticket) : Process.caller ticket ≠ .caller other :=
  fun same => differ (Process.caller.inj same).symm

/-- **A stop moves by its own moves only.** -/
theorem Step.stop_same (standing : ∀ ticket, Standing farewell calls events d ticket)
    (step : Step execute farewell d process event next) (other : process ≠ .caller ticket) (point : Stopper) :
    next.callers[ticket]? = some (.stopper point) ↔ d.callers[ticket]? = some (.stopper point) := by
  constructor
  · intro stands
    rcases step.stopper_cases stands with same | ⟨old, shared, stood, change, -⟩
    · exact same
    · rcases step.own_move standing stood nofun with own | stays
      · exact absurd own other
      · have kept : old = point := by
          rw [stands] at stays
          injection stays with stays
          injection stays with stays
          exact stays.symm
        exact absurd (kept ▸ change.rank_lt) (Nat.lt_irrefl _)
  · intro stood
    exact (step.own_move standing stood nofun).resolve_left other

/-- Where no stop moves, all stops stand where they stood. -/
theorem Step.stops_same (standing : ∀ ticket, Standing farewell calls events d ticket)
    (step : Step execute farewell d process event next)
    (noStop : ∀ (ticket : Nat) point, process = .caller ticket → d.callers[ticket]? ≠ some (.stopper point))
    (ticket : Nat) (point : Stopper) :
    next.callers[ticket]? = some (.stopper point) ↔ d.callers[ticket]? = some (.stopper point) := by
  by_cases own : process = .caller ticket
  · constructor
    · intro stands
      rcases step.stopper_cases stands with same | ⟨old, shared, stood, -, -⟩
      · exact same
      · exact absurd stood (noStop ticket old own)
    · intro stood
      exact absurd stood (noStop ticket point own)
  · exact step.stop_same standing own point

section OneStop

variable {point after : Stopper} {shared : Dispatcher σ}

/-- Where a stop stands after its own move. -/
theorem stopper_stands (stood : d.callers[ticket]? = some (.stopper point))
    (change : StopperStep d ticket point after shared) :
    (shared.setCaller ticket (.stopper after)).callers[ticket]? = some (.stopper after) := by
  rcases change.callers with same | rfl
  · exact getElem?_setCaller_self (same ▸ stood) _
  · obtain ⟨between, there⟩ : ∃ between, d.dropReceiver.callers[ticket]? = some between := by
      rw [getElem?_dropReceiver, stood]
      split
      · exact ⟨_, rfl⟩
      · exact ⟨_, rfl⟩
    exact getElem?_setCaller_self there _

variable (standing : ∀ ticket, Standing farewell calls events d ticket)
  (step : Step execute farewell d (.caller ticket) event (shared.setCaller ticket (.stopper after)))
  (stood : d.callers[ticket]? = some (.stopper point)) (change : StopperStep d ticket point after shared)

include standing step stood change

theorem hasReported_stopper :
    HasReported (shared.setCaller ticket (.stopper after)).callers ↔ HasReported d.callers ∨ 3 ≤ after.rank := by
  constructor
  · rintro ⟨other, standsAt, stands, far⟩
    by_cases same : other = ticket
    · subst same
      rw [stopper_stands stood change] at stands
      cases stands
      exact .inr far
    · exact .inl ⟨other, standsAt, (step.stop_same standing (caller_ne same) standsAt).mp stands, far⟩
  · rintro (⟨other, stoodAt, there, far⟩ | far)
    · by_cases same : other = ticket
      · subst same
        rw [stood] at there
        cases there
        exact ⟨other, after, stopper_stands stood change, Nat.le_trans far (Nat.le_of_lt change.rank_lt)⟩
      · exact ⟨other, stoodAt, (step.stop_same standing (caller_ne same) stoodAt).mpr there, far⟩
    · exact ⟨ticket, after, stopper_stands stood change, far⟩

theorem hasStopped_stopper :
    HasStopped (shared.setCaller ticket (.stopper after)).callers ↔ HasStopped d.callers ∨ after = .returned := by
  constructor
  · rintro ⟨other, stands⟩
    by_cases same : other = ticket
    · subst same
      rw [stopper_stands stood change] at stands
      cases stands
      exact .inr rfl
    · exact .inl ⟨other, (step.stop_same standing (caller_ne same) _).mp stands⟩
  · rintro (⟨other, there⟩ | rfl)
    · have differ : other ≠ ticket := by
        rintro rfl
        rw [stood] at there
        cases there
        cases change
      exact ⟨other, (step.stop_same standing (caller_ne differ) _).mpr there⟩
    · exact ⟨ticket, stopper_stands stood change⟩

end OneStop

/-! ## What the state is told from -/

/-- The reported state as it can be told from where the worker and the stops stand. -/
inductive Told (worker : Worker) (callers : List Caller) : Lifecycle → Prop
  | early {lifecycle : Lifecycle} : worker.reported = 0 → ¬ HasReported callers → lifecycle.rank ≤ 1 →
      Told worker callers lifecycle
  | running : worker.reported = 1 → ¬ HasReported callers → Told worker callers .running
  | stopping : worker.reported ≤ 1 → HasReported callers → ¬ HasStopped callers → Told worker callers .stopping
  | stopped : worker.reported = 2 ∨ HasStopped callers → Told worker callers .stopped

section Told

variable {worker other : Worker} {callers after : List Caller} {lifecycle : Lifecycle}

theorem Told.same (h : Told worker callers lifecycle) (stage : other.reported = worker.reported)
    (reported : HasReported after ↔ HasReported callers) (stopped : HasStopped after ↔ HasStopped callers) :
    Told other after lifecycle := by
  cases h with
  | early none silent low => exact .early (stage.trans none) (mt reported.mp silent) low
  | running works silent => exact .running (stage.trans works) (mt reported.mp silent)
  | stopping works said alive => exact .stopping (stage ▸ works) (reported.mpr said) (mt stopped.mp alive)
  | stopped gone => exact .stopped (gone.imp stage.trans stopped.mpr)

/-- Until a stop reports, none has returned, and it is for the worker to leave. -/
theorem not_gone_of_silent (works : worker.reported ≠ 2) (silent : ¬ HasReported callers) :
    ¬ (worker.reported = 2 ∨ HasStopped callers) := by
  rintro (left | returned)
  · exact works left
  · exact silent (hasReported_of_hasStopped returned)

/-- Before the worker and the stops report, the state is `created` or `started`. -/
theorem Told.rank_le_one (h : Told worker callers lifecycle) (none : worker.reported = 0)
    (silent : ¬ HasReported callers) : lifecycle.rank ≤ 1 := by
  cases h with
  | early _ _ low => exact low
  | running works _ => omega
  | stopping _ said _ => exact absurd said silent
  | stopped gone => exact absurd gone (not_gone_of_silent (by omega) silent)

/-- Once a stop has reported, the state is `stopping` or `stopped`. -/
theorem Told.three_le_rank (h : Told worker callers lifecycle) (said : HasReported callers) :
    3 ≤ lifecycle.rank := by
  cases h with
  | early _ silent _ => exact absurd said silent
  | running _ silent => exact absurd said silent
  | stopping => exact Nat.le_refl 3
  | stopped => decide

/-- The state is `stopped` exactly if the worker has left or a stop has returned. -/
theorem Told.eq_stopped_iff (h : Told worker callers lifecycle) :
    lifecycle = .stopped ↔ worker.reported = 2 ∨ HasStopped callers := by
  constructor
  · rintro rfl
    cases h with
    | early _ _ low => exact absurd low (by decide)
    | stopped gone => exact gone
  · intro gone
    cases h with
    | early none silent _ => exact absurd gone (not_gone_of_silent (by omega) silent)
    | running works silent => exact absurd gone (not_gone_of_silent (by omega) silent)
    | stopping works _ alive =>
      rcases gone with left | returned
      · omega
      · exact absurd returned alive
    | stopped => rfl

theorem Lifecycle.rank_le_three {lifecycle : Lifecycle} (alive : lifecycle ≠ .stopped) : lifecycle.rank ≤ 3 := by
  cases lifecycle with
  | stopped => exact absurd rfl alive
  | _ => decide

end Told

/-! ## Reports in time -/

/-- What holds until a report is overtaken: the state can be told, and a stop that is about to report is the only one
that has come so far. -/
structure Timely (d : Dispatcher σ) : Prop where
  told : Told d.worker d.callers d.lifecycle
  alone : ∀ ticket : Nat, d.callers[ticket]? = some (.stopper .reporting) → ¬ HasStopped d.callers

/-- A move of a stop in time. -/
theorem Timely.stopper (h : Timely d) (standing : ∀ ticket, Standing farewell calls events d ticket)
    (locking : Locking d.stopLock d.callers) {point after : Stopper} {shared : Dispatcher σ}
    (step : Step execute farewell d (.caller ticket) event (shared.setCaller ticket (.stopper after)))
    (stood : d.callers[ticket]? = some (.stopper point)) (change : StopperStep d ticket point after shared)
    (inTime : ¬ Overtaken d (.caller ticket)) :
    Timely (shared.setCaller ticket (.stopper after)) ∧ d.lifecycle.rank ≤ shared.lifecycle.rank := by
  have reported := hasReported_stopper standing step stood change
  have stopped := hasStopped_stopper standing step stood change
  have others {other : Nat} (standsAt : (shared.setCaller ticket (.stopper after)).callers[other]?
      = some (.stopper .reporting)) : other = ticket ∧ after = .reporting
        ∨ other ≠ ticket ∧ d.callers[other]? = some (.stopper .reporting) := by
    by_cases same : other = ticket
    · subst same
      rw [stopper_stands stood change] at standsAt
      cases standsAt
      exact .inl ⟨rfl, rfl⟩
    · exact .inr ⟨same, (step.stop_same standing (caller_ne same) _).mp standsAt⟩
  -- a stop that goes on without a report and without returning keeps what is told and who is alone
  have goesOn (worker : shared.worker = d.worker) (lifecycle : shared.lifecycle = d.lifecycle)
      (far : 3 ≤ after.rank → 3 ≤ point.rank) (notYet : after ≠ .returned)
      (first : after = .reporting → ¬ HasStopped d.callers) :
      Timely (shared.setCaller ticket (.stopper after)) ∧ d.lifecycle.rank ≤ shared.lifecycle.rank := by
    have sameReported : HasReported (shared.setCaller ticket (.stopper after)).callers ↔ HasReported d.callers := by
      rw [reported]
      constructor
      · rintro (said | reaches)
        · exact said
        · exact ⟨ticket, point, stood, far reaches⟩
      · exact .inl
    have sameStopped : HasStopped (shared.setCaller ticket (.stopper after)).callers ↔ HasStopped d.callers := by
      rw [stopped, or_iff_left notYet]
    refine ⟨⟨?_, ?_⟩, Nat.le_of_eq (congrArg Lifecycle.rank lifecycle.symm)⟩
    · show Told shared.worker _ shared.lifecycle
      rw [worker, lifecycle]
      exact h.told.same rfl sameReported sameStopped
    · intro other standsAt
      rw [sameStopped]
      rcases others standsAt with ⟨-, new⟩ | ⟨-, there⟩
      · exact first new
      · exact h.alone other there
  cases change with
  | locked free => exact goesOn rfl rfl (by decide) nofun nofun
  | ended gone =>
    refine ⟨⟨?_, ?_⟩, Nat.le_refl _⟩
    · show Told d.worker _ d.lifecycle
      rw [gone]
      exact .stopped ((h.told.eq_stopped_iff.mp gone).imp id fun returned => stopped.mpr (.inl returned))
    · intro other standsAt
      rw [stopped, or_iff_left nofun]
      rcases others standsAt with ⟨-, new⟩ | ⟨-, there⟩
      · cases new
      · exact h.alone other there
  | alive running =>
    exact goesOn rfl rfl (by decide) nofun fun _ returned => running (h.told.eq_stopped_iff.mpr (.inr returned))
  | reported =>
    have works : d.worker.reported ≤ 1 := by
      have two := d.worker.reported_le_two
      have notLeft : d.worker.reported ≠ 2 := fun left => inTime (.stop stood left)
      omega
    have alive : ¬ HasStopped d.callers := h.alone ticket stood
    refine ⟨⟨.stopping works (reported.mpr (.inr (by decide))) ?_, ?_⟩, ?_⟩
    · rw [stopped, or_iff_left nofun]
      exact alive
    · intro other _
      rw [stopped, or_iff_left nofun]
      exact alive
    · refine Lifecycle.rank_le_three fun gone => ?_
      rcases h.told.eq_stopped_iff.mp gone with left | returned
      · omega
      · exact alive returned
  | finished =>
    refine ⟨⟨.stopped (.inr (stopped.mpr (.inr rfl))), ?_⟩, ?_⟩
    · intro other standsAt
      rcases others standsAt with ⟨-, new⟩ | ⟨different, there⟩
      · cases new
      · -- the stop that returns holds the lock, so no other one can be about to report
        have held := locking ticket .finishing stood (by decide) (by decide)
        have heldByOther := locking other .reporting there (by decide) (by decide)
        exact absurd (Option.some.inj (heldByOther.symm.trans held)) different
    · show d.lifecycle.rank ≤ 4
      cases d.lifecycle <;> decide
  | droppedReceiver stored =>
    exact goesOn (by rw [dropReceiver_eq]) (by rw [dropReceiver_eq]) (by decide) nofun nofun
  | cancelled | droppedSender | noReceiver | tookHandle | noHandle | awaited =>
    exact goesOn rfl rfl (by decide) nofun nofun

/-- **A report in time goes forward.** -/
theorem Timely.step (h : Timely d) (kept : Kept execute farewell site calls events d)
    (locking : Locking d.stopLock d.callers) (step : Step execute farewell d process event next)
    (inTime : ¬ Overtaken d process) : Timely next ∧ d.lifecycle.rank ≤ next.lifecycle.rank := by
  by_cases isStop : ∃ (ticket : Nat) (point : Stopper), process = .caller ticket
      ∧ d.callers[ticket]? = some (.stopper point)
  · obtain ⟨ticket, point, rfl, stood⟩ := isStop
    obtain ⟨after, shared, change, rfl⟩ := step.of_stopper stood
    exact h.stopper kept.standing locking step stood change inTime
  · have stops := step.stops_same kept.standing fun ticket point own stood => isStop ⟨ticket, point, own, stood⟩
    have reported : HasReported next.callers ↔ HasReported d.callers := by
      unfold HasReported
      simp only [stops]
    have stopped : HasStopped next.callers ↔ HasStopped d.callers := by
      unfold HasStopped
      simp only [stops]
    have alone : ∀ ticket : Nat, next.callers[ticket]? = some (.stopper .reporting) → ¬ HasStopped next.callers := by
      intro ticket standsAt
      rw [stopped]
      exact h.alone ticket ((stops ticket _).mp standsAt)
    -- who reports nothing leaves what is told
    have quiet (lifecycle : next.lifecycle = d.lifecycle) (stage : next.worker.reported = d.worker.reported) :
        Timely next ∧ d.lifecycle.rank ≤ next.lifecycle.rank := by
      refine ⟨⟨?_, alone⟩, Nat.le_of_eq (congrArg Lifecycle.rank lifecycle.symm)⟩
      rw [lifecycle]
      exact h.told.same stage reported stopped
    cases step with
    | starter stood change =>
      cases change with
      | reported =>
        have absent : d.worker = .absent := (kept.starting.taken _ (.inl stood)).2
        have silent : ¬ HasReported d.callers := fun said => inTime (.start stood said)
        have none : d.worker.reported = 0 := by rw [absent]; rfl
        exact ⟨⟨.early none (mt reported.mp silent) (Nat.le_refl 1), alone⟩, h.told.rank_le_one none silent⟩
      | spawned =>
        have absent : d.worker = .absent := (kept.starting.taken _ (.inr stood)).2
        exact quiet rfl (by rw [absent]; rfl)
      | taken | refused | kept => exact quiet rfl rfl
    | stopper stood change => exact absurd ⟨_, _, rfl, stood⟩ isStop
    | awoke awake =>
      have silent : ¬ HasReported d.callers := fun said => inTime (.worker awake said)
      have low := h.told.rank_le_one (by rw [awake]; rfl) silent
      exact ⟨⟨.running rfl (mt reported.mp silent), alone⟩, Nat.le_succ_of_le low⟩
    | left leaving =>
      refine ⟨⟨.stopped (.inl rfl), alone⟩, ?_⟩
      show d.lifecycle.rank ≤ 4
      cases d.lifecycle <;> decide
    | ended closing =>
      refine quiet (by rw [dropReceiver_eq]) ?_
      rw [closing]
      rfl
    | sawCancel there | tookQuit there | handed there | deserted there | finished there | replied there =>
      refine quiet rfl ?_
      rw [there]
      rfl
    | admitted | gotSender | refused | entered | returned | parent => exact quiet rfl rfl

/-- **A report that is overtaken goes back.** -/
theorem Timely.overtaken (h : Timely d) (moved : d.move? execute farewell process = some next) (late : Overtaken d process) :
    next.lifecycle.rank < d.lifecycle.rank := by
  cases late with
  | start stood said =>
    have after : next.lifecycle = .started := by
      rw [move?, moveCaller?, stood] at moved
      cases moved
      rfl
    rw [after]
    exact Nat.lt_of_lt_of_le (by decide) (h.told.three_le_rank said)
  | worker awake said =>
    have after : next.lifecycle = .running := by
      rw [move?, moveWorker?, awake] at moved
      cases moved
      rfl
    rw [after]
    exact h.told.three_le_rank said
  | stop stood left =>
    have after : next.lifecycle = .stopping := by
      rw [move?, moveCaller?, stood] at moved
      cases moved
      rfl
    rw [after, h.told.eq_stopped_iff.mpr (.inl left)]
    decide

/-- Who is about to report need not wait. -/
theorem Overtaken.moves (late : Overtaken d process) (execute : Executor σ) (farewell : Reply) :
    ∃ next, d.move? execute farewell process = some next := by
  cases late with
  | start stood said =>
    rw [move?, moveCaller?, stood]
    exact ⟨_, rfl⟩
  | worker awake said =>
    rw [move?, moveWorker?, awake]
    exact ⟨_, rfl⟩
  | stop stood left =>
    rw [move?, moveCaller?, stood]
    exact ⟨_, rfl⟩

/-! ## Runs -/

theorem forward_cons_cons {first second : Lifecycle} {rest : List Lifecycle} :
    Forward (first :: second :: rest) ↔ first.rank ≤ second.rank ∧ Forward (second :: rest) := by
  unfold Forward
  rw [List.pairwise_cons]
  constructor
  · rintro ⟨before, later⟩
    exact ⟨before second List.mem_cons_self, later⟩
  · rintro ⟨before, later⟩
    refine ⟨?_, later⟩
    intro state mem
    rcases List.mem_cons.mp mem with rfl | behind
    · exact before
    · exact Nat.le_trans before ((List.pairwise_cons.mp later).1 state behind)

/-- The first state that a run reports is the one at its beginning. -/
theorem reports_eq_cons (execute : Executor σ) (farewell : Reply) (schedule : List Process) (d : Dispatcher σ) :
    ∃ later, reports execute farewell schedule d = d.lifecycle :: later := by
  cases schedule with
  | nil => exact ⟨[], rfl⟩
  | cons process rest => exact ⟨_, rfl⟩

/-- At the beginning nothing is reported, and no report can be overtaken. -/
theorem timely_facing (site : σ) (calls : List Call) : Timely (facing site calls) := by
  have begun : ∀ (ticket : Nat) (point : Stopper), (facing site calls).callers[ticket]? = some (.stopper point) →
      point = .begun := by
    intro ticket point stands
    obtain ⟨call, -, same⟩ := getElem?_facing stands
    cases call <;> cases same
    rfl
  constructor
  · refine .early rfl ?_ (Nat.zero_le 1)
    rintro ⟨ticket, point, stands, far⟩
    rw [begun ticket point stands] at far
    exact absurd far (by decide)
  · intro ticket stands
    cases begun ticket .reporting stands

/-- **A run goes forward exactly if no report in it is overtaken**: for every order in which the calls of a new
dispatcher, its worker and its parent move, the reported states never go back in the order `created`, `started`,
`running`, `stopping`, `stopped` if and only if no start and no worker reports after a stop has, and no stop reports
`stopping` after the worker has left. -/
theorem reports_forward_iff (execute : Executor σ) (farewell : Reply) (site : σ) (calls : List Call)
    (schedule : List Process) :
    Forward (reports execute farewell schedule (facing site calls))
      ↔ InTime execute farewell schedule (facing site calls) := by
  have fromHere : ∀ (events : List Event) (d : Dispatcher σ), Guarded execute farewell site calls events d → Timely d →
      (Forward (reports execute farewell schedule d) ↔ InTime execute farewell schedule d) := by
    induction schedule with
    | nil =>
      intro events d _ _
      simp [reports, InTime, Forward]
    | cons process rest ih =>
      intro events d guarded timely
      rw [reports, InTime]
      cases moved : d.move? execute farewell process with
      | none =>
        have onTime : ¬ Overtaken d process := by
          intro late
          obtain ⟨next, moves⟩ := late.moves execute farewell
          rw [moved] at moves
          cases moves
        simp [Forward, onTime]
      | some next =>
        have step := step_of_move moved
        obtain ⟨later, first⟩ := reports_eq_cons execute farewell rest next
        show Forward (d.lifecycle :: reports execute farewell rest next) ↔ _
        rw [first, forward_cons_cons, ← first]
        by_cases late : Overtaken d process
        · have back := timely.overtaken moved late
          constructor
          · rintro ⟨forth, -⟩
            exact absurd forth (Nat.not_le_of_lt back)
          · rintro ⟨onTime, -⟩
            exact absurd late onTime
        · obtain ⟨timelyNext, forth⟩ := timely.step guarded.kept guarded.locking step late
          rw [ih _ next (guarded.step step) timelyNext]
          constructor
          · rintro ⟨-, restInTime⟩
            refine ⟨late, fun other same => ?_⟩
            cases same
            exact restInTime
          · rintro ⟨-, restInTime⟩
            exact ⟨forth, restInTime next rfl⟩
  exact fromHere [] _ guarded_facing (timely_facing site calls)

/-- The start is done, and the stop that begins then reports `stopping` before the worker moves for the first time. -/
def workerLate : List Process :=
  [.caller 0, .caller 0, .caller 0, .caller 0, .caller 1, .caller 1, .caller 1, .worker, .caller 1, .worker, .worker]

/-- **A stop right after a start takes the state back**: the worker reports that it runs when the stop has reported
already. -/
theorem reports_go_back :
    reports countingAll Dispatcher.farewell workerLate (facing 0 [.start, .stop])
      = [.created, .created, .started, .started, .started, .started, .started, .stopping, .running, .running, .running,
          .stopped]
    ∧ ¬ Forward (reports countingAll Dispatcher.farewell workerLate (facing 0 [.start, .stop])) := by
  have reported : reports countingAll Dispatcher.farewell workerLate (facing 0 [.start, .stop])
      = [.created, .created, .started, .started, .started, .started, .started, .stopping, .running, .running, .running,
          .stopped] := rfl
  refine ⟨reported, ?_⟩
  rw [reported]
  decide

end Dispatcher

end DeviceConsole
