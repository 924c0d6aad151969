import DeviceConsole.Proofs.Dispatcher.Steps

/-!
# `Proofs.Dispatcher.Phases` — coming to life and falling silent

A start and a stop touch the shared state one part after the other, and every other process may go on in between.
What holds in between is stated over the parts of the state that it speaks of, so a step that touches none of them
keeps it as it is.

* `Starting`, `Starting.step` — the worker is brought to life once;
* `Silencing`, `Silencing.step` — a stop that is past a point has done what lies before it;
* `Locking`, `Locking.step` — there is one stop at a time.
-/

namespace DeviceConsole.Dispatcher

variable {σ : Type} {execute : Executor σ} {farewell : Reply} {d next : Dispatcher σ} {process : Process}
  {event : Option Event}

/-! ## The worker is brought to life once -/

/-- The call is on its way to bring the worker to life. -/
def WillSpawn (callers : List Caller) (ticket : Nat) : Prop :=
  callers[ticket]? = some (.starter .hasReceiver) ∨ callers[ticket]? = some (.starter .reported)

/-- The worker is absent as long as the receiving end of the channel is stored or the one call that took it is on
its way. -/
structure Starting (receiver : Receiver) (worker : Worker) (callers : List Caller) : Prop where
  stored : receiver = .stored → worker = .absent
  taken : ∀ ticket, WillSpawn callers ticket → receiver ≠ .stored ∧ worker = .absent
  once : ∀ one other, WillSpawn callers one → WillSpawn callers other → one = other

namespace Starting

variable {receiver : Receiver} {worker : Worker} {callers after : List Caller}

/-- Calls may go anywhere but on the way. -/
theorem mono (h : Starting receiver worker callers)
    (fewer : ∀ ticket, WillSpawn after ticket → WillSpawn callers ticket) : Starting receiver worker after :=
  ⟨h.stored, fun ticket will => h.taken ticket (fewer ticket will),
    fun one other will will' => h.once one other (fewer one will) (fewer other will')⟩

/-- A worker that is there may do anything. -/
theorem present (h : Starting receiver worker callers) (there : worker ≠ .absent) (next : Worker) :
    Starting receiver next callers :=
  ⟨fun stored => absurd (h.stored stored) there, fun ticket will => absurd (h.taken ticket will).2 there, h.once⟩

/-- The receiving end does not come back. -/
theorem gone (h : Starting receiver worker callers) {next : Receiver} (away : next ≠ .stored) :
    Starting next worker callers :=
  ⟨fun stored => absurd stored away, fun ticket will => ⟨away, (h.taken ticket will).2⟩, h.once⟩

end Starting

/-- A call that moves elsewhere leaves the others on their way. -/
theorem willSpawn_of_setCaller {ticket other : Nat} {new : Caller}
    (no : new ≠ .starter .hasReceiver ∧ new ≠ .starter .reported)
    (will : WillSpawn (d.setCaller ticket new).callers other) : other ≠ ticket ∧ WillSpawn d.callers other := by
  rcases will with stands | stands <;> rcases setCaller_cases stands with ⟨-, rfl⟩ | ⟨different, stood⟩
  · exact absurd rfl no.1
  · exact ⟨different, .inl stood⟩
  · exact absurd rfl no.2
  · exact ⟨different, .inr stood⟩

theorem willSpawn_of_dropReceiver {other : Nat} (will : WillSpawn d.dropReceiver.callers other) :
    WillSpawn d.callers other := by
  rcases will with stands | stands <;> rcases dropReceiver_cases stands with ⟨-, new⟩ | ⟨-, stood⟩
  · cases new
  · exact .inl stood
  · cases new
  · exact .inr stood

theorem Starting.starter (h : Starting d.receiver d.worker d.callers) {ticket : Nat} {point after : Starter}
    (stood : d.callers[ticket]? = some (.starter point)) (change : StarterStep d point after next) :
    Starting next.receiver next.worker (next.setCaller ticket (.starter after)).callers := by
  cases change with
  | taken stored =>
    have absent := h.stored stored
    have only : ∀ other, WillSpawn (d.setCaller ticket (.starter .hasReceiver)).callers other → other = ticket := by
      intro other will
      by_cases same : other = ticket
      · exact same
      · unfold WillSpawn at will
        rw [getElem?_setCaller_ne same] at will
        exact absurd stored (h.taken other will).1
    refine ⟨nofun, fun other _ => ⟨nofun, absent⟩, ?_⟩
    exact fun one other will will' => (only one will).trans (only other will').symm
  | refused gone => exact h.mono fun other will => (willSpawn_of_setCaller (by simp) will).2
  | reported =>
    refine h.mono fun other will => ?_
    by_cases same : other = ticket
    · exact .inl (same ▸ stood)
    · unfold WillSpawn at will
      rwa [getElem?_setCaller_ne same] at will
  | spawned =>
    -- the call was the only one on its way, so none is left that could bring a second worker
    have nobody : ∀ other, ¬ WillSpawn (d.setCaller ticket (.starter .spawned)).callers other := by
      intro other will
      obtain ⟨different, would⟩ := willSpawn_of_setCaller (by simp) will
      exact different (h.once other ticket would (.inr stood))
    exact ⟨fun stored => absurd stored (h.taken ticket (.inr stood)).1, fun other will => absurd will (nobody other),
      fun one other will => absurd will (nobody one)⟩
  | kept free => exact h.mono fun other will => (willSpawn_of_setCaller (by simp) will).2

/-- **The worker is brought to life once**: no step replaces a worker that is there. -/
theorem Starting.step (h : Starting d.receiver d.worker d.callers)
    (step : Step execute farewell d process event next) : Starting next.receiver next.worker next.callers := by
  have elsewhere {ticket : Nat} {new : Caller} (no : new ≠ .starter .hasReceiver ∧ new ≠ .starter .reported) :
      Starting d.receiver d.worker (d.setCaller ticket new).callers :=
    h.mono fun other will => (willSpawn_of_setCaller no will).2
  have dropped : Starting .dropped d.worker d.dropReceiver.callers :=
    (h.mono fun other will => willSpawn_of_dropReceiver will).gone nofun
  cases step with
  | starter stood change => exact h.starter stood change
  | stopper stood change =>
    cases change with
    | droppedReceiver stored =>
      rw [dropReceiver_eq] at dropped ⊢
      exact dropped.mono fun other will => (willSpawn_of_setCaller (by simp) will).2
    | _ => exact elsewhere (by simp)
  | awoke awake => exact h.present (awake ▸ nofun) _
  | sawCancel idle cancelled => exact h.present (idle ▸ nofun) _
  | tookQuit idle alive queue => exact (elsewhere (by simp)).present (idle ▸ nofun) _
  | handed idle alive queue other => exact h.present (idle ▸ nofun) _
  | deserted idle alive queue alone => exact h.present (idle ▸ nofun) _
  | finished executing => exact h.present (executing ▸ nofun) _
  | replied replying => exact (elsewhere (by simp)).present (replying ▸ nofun) _
  | left leaving => exact h.present (leaving ▸ nofun) _
  | ended closing =>
    rw [dropReceiver_eq] at dropped ⊢
    exact dropped.present (closing ▸ nofun) _
  | parent => exact h
  | _ => exact elsewhere (by simp)

/-! ## A stop that is past a point -/

/-- How far a stop has come. -/
def Stopper.rank : Stopper → Nat
  | begun => 0
  | looking => 1
  | reporting => 2
  | cancelling => 3
  | droppingSender => 4
  | droppingReceiver => 5
  | takingHandle => 6
  | awaiting => 7
  | finishing => 8
  | returned => 9

/-- A stop cancels first, then drops the sending end and then the receiving end of the channel. -/
structure Silencing (cancelled hasSender : Bool) (receiver : Receiver) (callers : List Caller) : Prop where
  sender : hasSender = false → cancelled = true
  past : ∀ (ticket : Nat) point, callers[ticket]? = some (.stopper point) →
    (4 ≤ point.rank → cancelled = true) ∧ (5 ≤ point.rank → hasSender = false)
      ∧ (6 ≤ point.rank → receiver ≠ .stored)

/-- A stop that moves has done what its new point asks for. -/
theorem Silencing.stopper (h : Silencing d.cancelled d.hasSender d.receiver d.callers) {ticket : Nat}
    {point after : Stopper} (stood : d.callers[ticket]? = some (.stopper point))
    (change : StopperStep d ticket point after next) :
    (4 ≤ after.rank → next.cancelled = true) ∧ (5 ≤ after.rank → next.hasSender = false)
      ∧ (6 ≤ after.rank → next.receiver ≠ .stored) := by
  obtain ⟨cancels, drops, empties⟩ := h.past ticket point stood
  cases change with
  | cancelled => exact ⟨fun _ => rfl, nofun, nofun⟩
  | droppedSender => exact ⟨fun _ => cancels (by decide), fun _ => rfl, nofun⟩
  | droppedReceiver stored =>
    rw [dropReceiver_eq]
    exact ⟨fun _ => cancels (by decide), fun _ => drops (by decide), fun _ => nofun⟩
  | noReceiver gone => exact ⟨fun _ => cancels (by decide), fun _ => drops (by decide), fun _ => gone⟩
  | tookHandle | noHandle | awaited | finished =>
    exact ⟨fun _ => cancels (by decide), fun _ => drops (by decide), fun _ => empties (by decide)⟩
  | locked | ended | alive | reported => exact ⟨nofun, nofun, nofun⟩

/-- **What a stop has done stays done.** -/
theorem Silencing.step (h : Silencing d.cancelled d.hasSender d.receiver d.callers)
    (step : Step execute farewell d process event next) :
    Silencing next.cancelled next.hasSender next.receiver next.callers := by
  obtain ⟨cancelled, closed, gone⟩ := step.monotone
  refine ⟨?_, fun ticket point stands => ?_⟩
  · cases step with
    | starter stood change => cases change <;> exact h.sender
    | stopper stood change =>
      cases change with
      | droppedSender => exact fun _ => (h.past _ _ stood).1 (by decide)
      | cancelled => exact fun _ => rfl
      | droppedReceiver stored =>
        rw [dropReceiver_eq]
        exact h.sender
      | _ => exact h.sender
    | ended closing =>
      rw [dropReceiver_eq]
      exact h.sender
    | parent => exact fun _ => rfl
    | _ => exact h.sender
  · rcases step.stopper_cases stands with same | ⟨old, shared, stood, change, rfl⟩
    · obtain ⟨cancels, drops, empties⟩ := h.past ticket point same
      exact ⟨cancelled ∘ cancels, closed ∘ drops, gone ∘ empties⟩
    · have done := h.stopper stood change
      exact done

/-! ## One stop at a time -/

/-- A stop that has begun and has not returned holds the lock. -/
def Locking (stopLock : Option Nat) (callers : List Caller) : Prop :=
  ∀ (ticket : Nat) point, callers[ticket]? = some (.stopper point) → 1 ≤ point.rank → point.rank ≤ 8 →
    stopLock = some ticket

/-- The lock is taken when it is free, and given back by the stop that returns. -/
theorem Step.stopLock_cases (step : Step execute farewell d process event next) :
    next.stopLock = d.stopLock ∨ d.stopLock = none
    ∨ ∃ ticket : Nat, d.callers[ticket]? = some (.stopper .finishing)
      ∧ next.callers[ticket]? = some (.stopper .returned) := by
  cases step with
  | starter stood change => cases change <;> exact .inl rfl
  | stopper stood change =>
    cases change with
    | locked free => exact .inr (.inl free)
    | finished => exact .inr (.inr ⟨_, stood, getElem?_setCaller_self stood _⟩)
    | droppedReceiver stored =>
      rw [dropReceiver_eq]
      exact .inl rfl
    | _ => exact .inl rfl
  | ended closing =>
    rw [dropReceiver_eq]
    exact .inl rfl
  | _ => exact .inl rfl

theorem Locking.step (h : Locking d.stopLock d.callers) (step : Step execute farewell d process event next) :
    Locking next.stopLock next.callers := by
  intro ticket point stands low high
  rcases step.stopper_cases stands with same | ⟨old, shared, stood, change, rfl⟩
  · have held := h ticket point same low high
    rcases step.stopLock_cases with kept | free | ⟨other, finishing, returned⟩
    · exact kept.trans held
    · rw [held] at free
      cases free
    · -- the stop that gives the lock back is the one that held it, and it has returned
      cases held.symm.trans (h other .finishing finishing (by decide) (by decide))
      rw [stands] at returned
      cases returned
      exact absurd high (by decide)
  · have holds : 1 ≤ old.rank → old.rank ≤ 8 → d.stopLock = some ticket := h ticket old stood
    cases change with
    | locked free => rfl
    | finished => exact absurd high (by decide)
    | droppedReceiver stored =>
      rw [dropReceiver_eq]
      exact holds (by decide) (by decide)
    | _ => exact holds (by decide) (by decide)

end DeviceConsole.Dispatcher
