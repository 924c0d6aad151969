import DeviceConsole.Proofs.Dispatcher.Submissions

/-!
# `Proofs.Dispatcher.Service` — the channel, the worker and the executor

The events of a run are tied to the channel and to the worker: what entered and was not taken is in the channel,
what was handed over and is not finished is in execution, and the worker is on its way out if an event says why.

* `Queueing` — the channel is first-in first-out;
* `Ending` — the worker leaves for a reason that was shown, and nothing is handed to the executor afterwards;
* `Serving` — the executor carries out one command after the other;
* `Kept`, `kept_of_run` — what every run keeps.
-/

namespace DeviceConsole.Dispatcher

variable {σ : Type} {execute : Executor σ} {farewell : Reply} {d next : Dispatcher σ} {process : Process}
  {event : Option Event}

/-! ## First in, first out -/

/-- The submission that an event puts into the channel. -/
def Event.entered? : Event → Option (Nat × Command)
  | entered ticket command => some (ticket, command)
  | _ => none

/-- The submission that an event takes out of the channel, for the executor or as the command to quit. -/
def Event.taken? : Event → Option (Nat × Command)
  | handed ticket command => some (ticket, command)
  | tookQuit ticket => some (ticket, .quit)
  | _ => none

/-- What entered was taken in the same order, or is in the channel, or was lost when the receiving end was dropped
with the worker. -/
structure Queueing (events : List Event) (queue : List (Nat × Command)) (receiver : Receiver) : Prop where
  short : queue.length ≤ 1
  order : ∃ lost, events.filterMap Event.entered? = events.filterMap Event.taken? ++ queue ++ lost
    ∧ (receiver ≠ .dropped → lost = [])
  empty : receiver = .dropped → queue = []

section Queueing

variable {events : List Event}

theorem filterMap_record {α : Type} (f : Event → Option α) (event : Event) :
    (record events (some event)).filterMap f = events.filterMap f ++ (f event).toList := by
  rw [record, List.filterMap_append]
  cases shown : f event <;> simp [shown]

/-- Other events tell nothing of the channel. -/
theorem Queueing.other {queue : List (Nat × Command)} {receiver : Receiver} (h : Queueing events queue receiver)
    {event : Event} (enters : event.entered? = none) (takes : event.taken? = none) :
    Queueing (record events (some event)) queue receiver := by
  refine ⟨h.short, ?_, h.empty⟩
  rw [filterMap_record, filterMap_record, enters, takes, Option.toList_none, List.append_nil, List.append_nil]
  exact h.order

/-- The receiving end is dropped, and what is in the channel is lost. -/
theorem Queueing.drop {queue : List (Nat × Command)} {receiver : Receiver} (h : Queueing events queue receiver) :
    Queueing events [] .dropped := by
  obtain ⟨lost, order, -⟩ := h.order
  refine ⟨Nat.zero_le 1, ⟨queue ++ lost, ?_, fun alive => absurd rfl alive⟩, fun _ => rfl⟩
  rw [order, List.append_nil, List.append_assoc]

/-- The first submission of the channel is taken. -/
theorem Queueing.take {submission : Nat × Command} {rest : List (Nat × Command)} {receiver : Receiver}
    (h : Queueing events (submission :: rest) receiver) {event : Event} (enters : event.entered? = none)
    (takes : event.taken? = some submission) : Queueing (record events (some event)) rest receiver := by
  obtain ⟨lost, order, whole⟩ := h.order
  refine ⟨Nat.le_of_succ_le h.short, ⟨lost, ?_, whole⟩, fun dropped => absurd (h.empty dropped) nofun⟩
  rw [filterMap_record, filterMap_record, enters, takes, order]
  simp

/-- **The channel is first-in first-out**, on every run. -/
theorem Queueing.step (h : Queueing events d.queue d.receiver) (step : Step execute farewell d process event next) :
    Queueing (record events event) next.queue next.receiver := by
  cases step with
  | starter stood change =>
    cases change with
    | taken stored =>
      obtain ⟨lost, order, whole⟩ := h.order
      exact ⟨h.short, ⟨lost, order, fun _ => whole (stored ▸ nofun)⟩, nofun⟩
    | _ => exact h
  | stopper stood change =>
    cases change with
    | droppedReceiver stored =>
      rw [dropReceiver_eq]
      exact h.drop
    | _ => exact h
  | refused stood refuses => exact h.other rfl rfl
  | @entered ticket command stood alive here room =>
    obtain ⟨lost, order, whole⟩ := h.order
    refine ⟨Nat.le_refl 1, ⟨lost, ?_, whole⟩, fun dropped => absurd dropped here⟩
    rw [filterMap_record, filterMap_record, order, whole here, room]
    simp [Event.entered?, Event.taken?, setCaller]
  | returned stood => exact h.other rfl rfl
  | sawCancel idle cancelled => exact h.other rfl rfl
  | tookQuit idle alive queue =>
    rw [queue] at h
    exact h.take rfl rfl
  | handed idle alive queue other =>
    rw [queue] at h
    exact h.take rfl rfl
  | finished executing => exact h.other rfl rfl
  | ended closing =>
    rw [dropReceiver_eq]
    exact h.drop
  | admitted | gotSender | awoke | deserted | replied | left | parent => exact h

end Queueing

/-! ## Why the worker leaves -/

/-- Whether the event ends the service. -/
def Event.endsService : Event → Bool
  | tookQuit _ | sawCancel => true
  | _ => false

/-- The submission that an event hands to the executor. -/
def Event.handed? : Event → Option (Nat × Command)
  | handed ticket command => some (ticket, command)
  | _ => none

/-- Whether the worker is on its way out. -/
def Worker.hasLeft : Worker → Bool
  | leaving | closing | ended => true
  | _ => false

/-- The worker is on its way out exactly if an event has ended the service, and after such an event nothing is handed
to the executor. -/
structure Ending (events : List Event) (worker : Worker) : Prop where
  left : worker.hasLeft = true ↔ ∃ event ∈ events, event.endsService = true
  after : events.Pairwise fun event later => event.endsService = true → later.handed? = none

section Ending

variable {events : List Event}

theorem Ending.same {worker next : Worker} (h : Ending events worker) (same : next.hasLeft = worker.hasLeft) :
    Ending events next :=
  ⟨by rw [same]; exact h.left, h.after⟩

/-- An event that ends the service comes with the worker on its way out, and a hand-over comes before both. -/
theorem Ending.shown {worker next : Worker} (h : Ending events worker) {event : Event}
    (leaves : next.hasLeft = (worker.hasLeft || event.endsService))
    (hands : event.handed? = none ∨ worker.hasLeft = false) : Ending (record events (some event)) next := by
  refine ⟨?_, ?_⟩
  · rw [leaves, Bool.or_eq_true, h.left]
    constructor
    · rintro (⟨earlier, mem, ends⟩ | ends)
      · exact ⟨earlier, List.mem_append_left _ mem, ends⟩
      · exact ⟨event, List.mem_append_right _ (List.mem_singleton_self event), ends⟩
    · rintro ⟨any, mem, ends⟩
      rcases List.mem_append.mp mem with earlier | new
      · exact .inl ⟨any, earlier, ends⟩
      · cases List.mem_singleton.mp new
        exact .inr ends
  · refine List.pairwise_append.mpr ⟨h.after, List.pairwise_singleton _ _, ?_⟩
    intro earlier mem later new ends
    cases List.mem_singleton.mp new
    rcases hands with none_handed | stays
    · exact none_handed
    · rw [h.left.mpr ⟨earlier, mem, ends⟩] at stays
      cases stays

/-- **The worker leaves for a reason that was shown**, and nothing is handed to the executor afterwards. -/
theorem Ending.step (starting : Starting d.receiver d.worker d.callers)
    (silencing : Silencing d.cancelled d.hasSender d.receiver d.callers) (h : Ending events d.worker)
    (step : Step execute farewell d process event next) : Ending (record events event) next.worker := by
  cases step with
  | starter stood change =>
    cases change with
    | spawned => exact h.same (by rw [(starting.taken _ (.inr stood)).2]; rfl)
    | _ => exact h
  | stopper stood change =>
    cases change with
    | droppedReceiver stored =>
      rw [dropReceiver_eq]
      exact h
    | _ => exact h
  | refused | entered | returned => exact h.shown (Bool.or_false _).symm (.inl rfl)
  | awoke awake => exact h.same (by rw [awake]; rfl)
  | sawCancel idle cancelled => exact h.shown (by rw [idle]; rfl) (.inl rfl)
  | tookQuit idle alive queue => exact h.shown (by rw [idle]; rfl) (.inl rfl)
  | handed idle alive queue other => exact h.shown (by rw [idle]; rfl) (.inr (by rw [idle]; rfl))
  | deserted idle alive queue alone =>
    -- no one can send any more only after a stop, and a stop cancels before that
    have closed : d.hasSender = false := (Bool.or_eq_false_iff.mp alone).1
    rw [silencing.sender closed] at alive
    cases alive
  | finished executing => exact h.shown (by rw [executing]; rfl) (.inl rfl)
  | replied replying => exact h.same (by rw [replying]; rfl)
  | left leaving => exact h.same (by rw [leaving]; rfl)
  | ended closing => exact h.same (by rw [closing]; rfl)
  | admitted | gotSender | parent => exact h

end Ending

/-! ## One command after the other -/

/-- Carries out commands one after the other. -/
def serve (execute : Executor σ) : List Command → σ → List Reply × σ
  | [], site => ([], site)
  | command :: rest, site =>
    let (reply, next) := execute command site
    let (replies, last) := serve execute rest next
    (reply :: replies, last)

theorem serve_concat (commands : List Command) (command : Command) (site : σ) :
    serve execute (commands ++ [command]) site
      = ((serve execute commands site).1 ++ [(execute command (serve execute commands site).2).1],
        (execute command (serve execute commands site).2).2) := by
  induction commands generalizing site with
  | nil => rfl
  | cons first rest ih =>
    show ((execute first site).1 :: (serve execute (rest ++ [command]) (execute first site).2).1,
      (serve execute (rest ++ [command]) (execute first site).2).2) = _
    rw [ih]
    rfl

/-- A submission with the answer of the executor to it. -/
structure Served where
  ticket : Nat
  command : Command
  reply : Reply

/-- The submission that the executor comes back from. -/
def Event.finished? : Event → Option Served
  | finished ticket command reply => some ⟨ticket, command, reply⟩
  | _ => none

/-- The submission that the executor is carrying out, if any. -/
def Worker.inExecution : Worker → List (Nat × Command)
  | executing ticket command => [(ticket, command)]
  | _ => []

/-- What was handed to the executor is finished, or is the one submission in execution; and the site is the one
that the finished commands leave one after the other, with their answers. -/
structure Serving (execute : Executor σ) (first : σ) (events : List Event) (worker : Worker) (site : σ) :
    Prop where
  one : events.filterMap Event.handed?
    = (events.filterMap Event.finished?).map (fun served => (served.ticket, served.command)) ++ worker.inExecution
  serial : serve execute ((events.filterMap Event.finished?).map Served.command) first
    = ((events.filterMap Event.finished?).map Served.reply, site)

section Serving

variable {events : List Event} {first : σ}

theorem Serving.same {worker next : Worker} {site : σ} (h : Serving execute first events worker site)
    (same : next.inExecution = worker.inExecution) : Serving execute first events next site :=
  ⟨by rw [same]; exact h.one, h.serial⟩

/-- Other events tell nothing of the executor. -/
theorem Serving.other {worker next : Worker} {site : σ} (h : Serving execute first events worker site) {event : Event}
    (hands : event.handed? = none) (finishes : event.finished? = none)
    (same : next.inExecution = worker.inExecution) :
    Serving execute first (record events (some event)) next site := by
  refine ⟨?_, ?_⟩
  · rw [filterMap_record, filterMap_record, hands, finishes, Option.toList_none, Option.toList_none, List.append_nil,
      List.append_nil, same]
    exact h.one
  · rw [filterMap_record, finishes, Option.toList_none, List.append_nil]
    exact h.serial

/-- **The executor carries out one command after the other**, on every run. -/
theorem Serving.step (starting : Starting d.receiver d.worker d.callers)
    (h : Serving execute first events d.worker d.site) (step : Step execute farewell d process event next) :
    Serving execute first (record events event) next.worker next.site := by
  cases step with
  | starter stood change =>
    cases change with
    | spawned => exact h.same (by rw [(starting.taken _ (.inr stood)).2]; rfl)
    | _ => exact h
  | stopper stood change =>
    cases change with
    | droppedReceiver stored =>
      rw [dropReceiver_eq]
      exact h
    | _ => exact h
  | refused | entered | returned => exact h.other rfl rfl rfl
  | awoke awake => exact h.same (by rw [awake]; rfl)
  | sawCancel idle cancelled => exact h.other rfl rfl (by rw [idle]; rfl)
  | tookQuit idle alive queue => exact h.other rfl rfl (by rw [idle]; rfl)
  | @handed ticket command rest idle alive queue other =>
    refine ⟨?_, ?_⟩
    · have free := h.one
      rw [idle] at free
      rw [filterMap_record, filterMap_record, free]
      simp [Event.handed?, Event.finished?, Worker.inExecution]
    · rw [filterMap_record]
      simpa [Event.finished?] using h.serial
  | deserted idle alive queue alone => exact h.same (by rw [idle]; rfl)
  | @finished ticket command executing =>
    refine ⟨?_, ?_⟩
    · have busy := h.one
      rw [executing] at busy
      rw [filterMap_record, filterMap_record, busy]
      simp [Event.handed?, Event.finished?, Worker.inExecution]
    · rw [filterMap_record, List.map_append]
      show serve execute (_ ++ [command]) first = _
      rw [serve_concat, h.serial, List.map_append]
      rfl
  | replied replying => exact h.same (by rw [replying]; rfl)
  | left leaving => exact h.same (by rw [leaving]; rfl)
  | ended closing =>
    rw [dropReceiver_eq]
    exact h.same (by rw [closing]; rfl)
  | admitted | gotSender | parent => exact h

end Serving

/-! ## All of them -/

/-- What every run of a dispatcher keeps. -/
structure Kept (execute : Executor σ) (farewell : Reply) (site : σ) (calls : List Call) (events : List Event)
    (d : Dispatcher σ) : Prop where
  starting : Starting d.receiver d.worker d.callers
  silencing : Silencing d.cancelled d.hasSender d.receiver d.callers
  standing : ∀ ticket, Standing farewell calls events d ticket
  queueing : Queueing events d.queue d.receiver
  ending : Ending events d.worker
  serving : Serving execute site events d.worker d.site

section Kept

variable {site : σ} {calls : List Call}

theorem Kept.step {events : List Event} (h : Kept execute farewell site calls events d)
    (step : Step execute farewell d process event next) :
    Kept execute farewell site calls (record events event) next :=
  ⟨h.starting.step step, h.silencing.step step, Standing.step h.starting h.queueing.short h.standing step,
    h.queueing.step step, h.ending.step h.starting h.silencing step, h.serving.step h.starting step⟩

theorem getElem?_facing {ticket : Nat} {caller : Caller} (stands : (facing site calls).callers[ticket]? = some caller) :
    ∃ call : Call, calls[ticket]? = some call ∧ caller = call.first := by
  replace stands : (calls.map Call.first)[ticket]? = some caller := stands
  rw [List.getElem?_map] at stands
  obtain ⟨call, found, rfl⟩ := Option.map_eq_some_iff.mp stands
  exact ⟨call, found, rfl⟩

theorem not_willSpawn_facing (ticket : Nat) : ¬ WillSpawn (facing site calls).callers ticket := by
  rintro (stands | stands) <;>
    · obtain ⟨call, -, same⟩ := getElem?_facing stands
      cases call <;> cases same

theorem standing_facing (ticket : Nat) : Standing farewell calls [] (facing site calls) ticket := by
  show Stage farewell ticket calls[ticket]? (calls.map Call.first)[ticket]? none none []
  rw [List.getElem?_map]
  cases calls[ticket]? with
  | none => exact .noSubmission fun point same => by cases same
  | some call =>
    cases call with
    | submit command => exact .outside rfl
    | _ => exact .noSubmission fun point same => by cases same

/-- At the beginning every call is about to begin. -/
theorem kept_facing (site : σ) (calls : List Call) : Kept execute farewell site calls [] (facing site calls) where
  starting := ⟨fun _ => rfl, fun ticket will => absurd will (not_willSpawn_facing ticket),
    fun one _ will => absurd will (not_willSpawn_facing one)⟩
  silencing := by
    refine ⟨nofun, fun ticket point stands => ?_⟩
    obtain ⟨call, -, same⟩ := getElem?_facing stands
    cases call <;> cases same
    exact ⟨nofun, nofun, nofun⟩
  standing := standing_facing
  queueing := ⟨Nat.zero_le 1, ⟨[], rfl, fun _ => rfl⟩, nofun⟩
  ending := ⟨⟨nofun, fun ⟨event, mem, _⟩ => absurd mem List.not_mem_nil⟩, .nil⟩
  serving := ⟨rfl, rfl⟩

/-- **What every run of a dispatcher keeps**, from the first call on. -/
theorem kept_of_run {schedule : List Process}
    (ran : runSchedule? execute farewell schedule (facing site calls) = some d) :
    Kept execute farewell site calls (history execute farewell schedule (facing site calls)) d := by
  have kept := run_induction (P := Kept execute farewell site calls) (fun _ _ _ _ _ h step => h.step step)
    (kept_facing site calls) ran
  rwa [List.nil_append] at kept

end Kept

end DeviceConsole.Dispatcher
