import DeviceConsole.Proofs.Dispatcher.Phases

/-!
# `Proofs.Dispatcher.Submissions` — where a submission is

A submission is outside of the channel, in it, with the executor, on its way back, or answered. At every moment
the events that were shown about it tell where it is, and what it can still be answered.

* `Course` — what can happen to a submission until it is answered;
* `Stage`, `Standing` — where a submission is, with the events that tell it;
* `Standing.step` — every step leads from a stage to the next one, and leaves all other submissions where they are;
* `Step.own_move` — a call moves by its own moves only, unless it waits for an answer.
-/

namespace DeviceConsole.Dispatcher

variable {σ : Type} {execute : Executor σ} {farewell : Reply} {d next : Dispatcher σ} {process : Process}
  {event : Option Event}

/-! ## Where a submission is -/

/-- Whether an event is about a submission. -/
def Event.about (ticket : Nat) : Event → Bool
  | entered other _ | handed other _ | finished other _ _ | tookQuit other | returned other _ => other = ticket
  | sawCancel => false

/-- The command of a submission in the channel. -/
def queued? (queue : List (Nat × Command)) (ticket : Nat) : Option Command :=
  (queue.find? fun submission => submission.1 = ticket).map Prod.snd

/-- What the worker has of a submission: its command, or the answer to it. -/
inductive Work where
  | command (command : Command)
  | answer (reply : Reply)

/-- What the worker has of a submission. -/
def Worker.workFor? (ticket : Nat) : Worker → Option Work
  | executing other command => if other = ticket then some (.command command) else none
  | replying other reply => if other = ticket then some (.answer reply) else none
  | _ => none

/-- The command of a submission that has not entered the channel. -/
def Submitter.outside? : Submitter → Option Command
  | begun command | admitted command | sending command => some command
  | _ => none

/-- **What can happen to a submission until it is answered**: it is carried out and the answer is the executor's, it
is taken as the command to quit and the answer is the farewell, or it is refused, in the channel or before it. -/
inductive Course (farewell : Reply) (ticket : Nat) (command : Command) : Reply → List Event → Prop
  | carriedOut (reply : Reply) :
      Course farewell ticket command reply
        [.entered ticket command, .handed ticket command, .finished ticket command reply]
  | tookQuit : command = .quit → Course farewell ticket command farewell [.entered ticket command, .tookQuit ticket]
  | dropped : Course farewell ticket command refusal [.entered ticket command]
  | refused : Course farewell ticket command refusal []

/-- The call with its command, where it stands, what the channel and the worker have of it, and what was shown
about it. -/
inductive Stage (farewell : Reply) (ticket : Nat) :
    Option Call → Option Caller → Option Command → Option Work → List Event → Prop
  | noSubmission {call : Option Call} {caller : Option Caller} :
      (∀ point, caller ≠ some (.submitter point)) → Stage farewell ticket call caller none none []
  | outside {command : Command} {point : Submitter} : point.outside? = some command →
      Stage farewell ticket (some (.submit command)) (some (.submitter point)) none none []
  | queued {command : Command} :
      Stage farewell ticket (some (.submit command)) (some (.submitter .waiting)) (some command) none
        [.entered ticket command]
  | carried {command : Command} :
      Stage farewell ticket (some (.submit command)) (some (.submitter .waiting)) none (some (.command command))
        [.entered ticket command, .handed ticket command]
  | done {command : Command} {reply : Reply} :
      Stage farewell ticket (some (.submit command)) (some (.submitter .waiting)) none (some (.answer reply))
        [.entered ticket command, .handed ticket command, .finished ticket command reply]
  | answered {command : Command} {reply : Reply} {events : List Event} :
      Course farewell ticket command reply events →
      Stage farewell ticket (some (.submit command)) (some (.submitter (.answered reply))) none none events
  | returned {command : Command} {reply : Reply} {events : List Event} :
      Course farewell ticket command reply events →
      Stage farewell ticket (some (.submit command)) (some (.submitter (.returned reply))) none none
        (events ++ [.returned ticket reply])

/-- A submission is at the stage that the events about it tell. -/
def Standing (farewell : Reply) (calls : List Call) (events : List Event) (d : Dispatcher σ) (ticket : Nat) : Prop :=
  Stage farewell ticket calls[ticket]? d.callers[ticket]? (queued? d.queue ticket) (d.worker.workFor? ticket)
    (events.filter (Event.about ticket))

section Stage

variable {ticket : Nat} {call : Option Call} {caller : Caller} {queue : Option Command} {work : Option Work}
  {events : List Event}

/-- A call that does not submit has nothing in the channel or with the worker. -/
theorem Stage.of_noSubmission (h : Stage farewell ticket call (some caller) queue work events)
    (no : ∀ point, caller ≠ .submitter point) : queue = none ∧ work = none ∧ events = [] := by
  cases h with
  | noSubmission _ => exact ⟨rfl, rfl, rfl⟩
  | _ => exact absurd rfl (no _)

theorem Stage.of_outside {point : Submitter} {command : Command}
    (h : Stage farewell ticket call (some (.submitter point)) queue work events)
    (own : point.outside? = some command) :
    call = some (.submit command) ∧ queue = none ∧ work = none ∧ events = [] := by
  cases h with
  | noSubmission no => exact absurd rfl (no point)
  | outside same =>
    cases own.symm.trans same
    exact ⟨rfl, rfl, rfl, rfl⟩
  | _ => cases own

theorem Stage.of_queued {caller : Option Caller} {command : Command}
    (h : Stage farewell ticket call caller (some command) work events) :
    call = some (.submit command) ∧ caller = some (.submitter .waiting) ∧ work = none
      ∧ events = [.entered ticket command] := by
  cases h
  exact ⟨rfl, rfl, rfl, rfl⟩

theorem Stage.of_command {caller : Option Caller} {command : Command}
    (h : Stage farewell ticket call caller queue (some (.command command)) events) :
    call = some (.submit command) ∧ caller = some (.submitter .waiting) ∧ queue = none
      ∧ events = [.entered ticket command, .handed ticket command] := by
  cases h
  exact ⟨rfl, rfl, rfl, rfl⟩

theorem Stage.of_answer {caller : Option Caller} {reply : Reply}
    (h : Stage farewell ticket call caller queue (some (.answer reply)) events) :
    caller = some (.submitter .waiting) ∧ queue = none ∧ ∃ command, call = some (.submit command)
      ∧ events = [.entered ticket command, .handed ticket command, .finished ticket command reply] := by
  cases h
  exact ⟨rfl, rfl, _, rfl, rfl⟩

theorem Stage.of_answered {reply : Reply}
    (h : Stage farewell ticket call (some (.submitter (.answered reply))) queue work events) :
    queue = none ∧ work = none ∧ ∃ command, call = some (.submit command)
      ∧ Course farewell ticket command reply events := by
  cases h with
  | noSubmission no => exact absurd rfl (no _)
  | outside same => cases same
  | answered course => exact ⟨rfl, rfl, _, rfl, course⟩

theorem Stage.of_returned {reply : Reply}
    (h : Stage farewell ticket call (some (.submitter (.returned reply))) queue work events) :
    ∃ command course, call = some (.submit command) ∧ Course farewell ticket command reply course
      ∧ events = course ++ [.returned ticket reply] := by
  cases h with
  | noSubmission no => exact absurd rfl (no _)
  | outside same => cases same
  | returned course => exact ⟨_, _, rfl, course, rfl⟩

end Stage

section Standing

variable {calls : List Call} {events : List Event} {ticket : Nat}

theorem filter_record_own {event : Event} (own : event.about ticket = true) :
    (record events (some event)).filter (Event.about ticket) = events.filter (Event.about ticket) ++ [event] := by
  rw [record, List.filter_append, List.filter_cons_of_pos own, List.filter_nil]

theorem filter_record_other {event : Event} (other : event.about ticket = false) :
    (record events (some event)).filter (Event.about ticket) = events.filter (Event.about ticket) := by
  rw [record, List.filter_append, List.filter_cons_of_neg (by rw [other]; decide), List.filter_nil, List.append_nil]

theorem queued?_cons_self (command : Command) (rest : List (Nat × Command)) :
    queued? ((ticket, command) :: rest) ticket = some command := by
  rw [queued?, List.find?_cons_of_pos (by exact decide_eq_true rfl)]
  rfl

theorem queued?_cons_ne {mover : Nat} (ne : ticket ≠ mover) (command : Command) (rest : List (Nat × Command)) :
    queued? ((mover, command) :: rest) ticket = queued? rest ticket := by
  rw [queued?, List.find?_cons_of_neg (by simpa using Ne.symm ne)]
  rfl

theorem queued?_eq_none_iff {queue : List (Nat × Command)} :
    queued? queue ticket = none ↔ ticket ∉ queue.map Prod.fst := by
  rw [queued?, Option.map_eq_none_iff, List.find?_eq_none]
  constructor
  · intro nowhere mem
    obtain ⟨submission, inQueue, same⟩ := List.mem_map.mp mem
    exact nowhere submission inQueue (decide_eq_true same)
  · intro absent submission inQueue same
    exact absent (List.mem_map.mpr ⟨submission, inQueue, of_decide_eq_true same⟩)

/-- A submission is where it was if nothing that it depends on has changed. -/
theorem Standing.same {later : List Event} (h : Standing farewell calls events d ticket)
    (caller : next.callers[ticket]? = d.callers[ticket]?) (queue : queued? next.queue ticket = queued? d.queue ticket)
    (worker : next.worker.workFor? ticket = d.worker.workFor? ticket)
    (shown : later.filter (Event.about ticket) = events.filter (Event.about ticket)) :
    Standing farewell calls later next ticket := by
  unfold Standing at h ⊢
  rwa [caller, queue, worker, shown]

/-- The first submission of the channel. -/
theorem Standing.of_head (h : Standing farewell calls events d ticket) {command : Command}
    {rest : List (Nat × Command)} (queue : d.queue = (ticket, command) :: rest) :
    calls[ticket]? = some (.submit command) ∧ d.callers[ticket]? = some (.submitter .waiting)
      ∧ events.filter (Event.about ticket) = [.entered ticket command] := by
  unfold Standing at h
  rw [queue, queued?_cons_self] at h
  obtain ⟨call, caller, -, shown⟩ := h.of_queued
  exact ⟨call, caller, shown⟩

/-- The submission whose answer the worker has. -/
theorem Standing.of_replying (h : Standing farewell calls events d ticket) {reply : Reply}
    (replying : d.worker = .replying ticket reply) :
    d.callers[ticket]? = some (.submitter .waiting) ∧ queued? d.queue ticket = none
      ∧ ∃ command, calls[ticket]? = some (.submit command)
        ∧ events.filter (Event.about ticket)
          = [.entered ticket command, .handed ticket command, .finished ticket command reply] := by
  unfold Standing at h
  rw [replying, Worker.workFor?, if_pos rfl] at h
  exact h.of_answer

theorem rest_eq_nil {submission : Nat × Command} {rest : List (Nat × Command)} (short : d.queue.length ≤ 1)
    (queue : d.queue = submission :: rest) : rest = [] := by
  rw [queue] at short
  exact List.length_eq_zero_iff.mp (Nat.le_zero.mp (Nat.le_of_succ_le_succ short))

/-- What is in the channel is refused with the receiving end. -/
theorem Standing.dropReceiver (h : Standing farewell calls events d ticket) :
    Standing farewell calls events d.dropReceiver ticket := by
  have nothing : queued? d.dropReceiver.queue ticket = none := by
    rw [dropReceiver_eq]
    rfl
  have worker : d.dropReceiver.worker = d.worker := by rw [dropReceiver_eq]
  cases found : queued? d.queue ticket with
  | none =>
    refine h.same ?_ (nothing.trans found.symm) (by rw [worker]) rfl
    rw [getElem?_dropReceiver, if_neg (queued?_eq_none_iff.mp found)]
  | some command =>
    have inQueue : ticket ∈ d.queue.map Prod.fst := by
      refine Decidable.of_not_not fun absent => ?_
      rw [queued?_eq_none_iff.mpr absent] at found
      cases found
    unfold Standing at h ⊢
    rw [found] at h
    obtain ⟨call, caller, work, shown⟩ := h.of_queued
    rw [nothing, worker, getElem?_dropReceiver, if_pos inQueue, call, caller, work, shown]
    exact .answered .dropped

/-- A call moves, and nothing changes for other submissions. -/
theorem Standing.moved {mover : Nat} {old new : Caller} {later : List Event}
    (h : Standing farewell calls events d ticket) (shared : Dispatcher σ) (stood : d.callers[mover]? = some old)
    (callers : shared.callers = d.callers)
    (others : ticket ≠ mover → queued? shared.queue ticket = queued? d.queue ticket
      ∧ shared.worker.workFor? ticket = d.worker.workFor? ticket
      ∧ later.filter (Event.about ticket) = events.filter (Event.about ticket))
    (own : Stage farewell mover calls[mover]? (some new) (queued? shared.queue mover) (shared.worker.workFor? mover)
      (later.filter (Event.about mover))) :
    Standing farewell calls later (shared.setCaller mover new) ticket := by
  by_cases same : ticket = mover
  · subst same
    unfold Standing
    rw [getElem?_setCaller_self (callers ▸ stood)]
    exact own
  · obtain ⟨queue, worker, shown⟩ := others same
    refine h.same ?_ queue worker shown
    rw [getElem?_setCaller_ne same, callers]

/-- A call that does not submit moves. -/
theorem Standing.aside {shared : Dispatcher σ} {mover : Nat} {old new : Caller}
    (h : ∀ ticket, Standing farewell calls events d ticket) (stood : d.callers[mover]? = some old)
    (no : ∀ point, old ≠ .submitter point) (no' : ∀ point, new ≠ .submitter point)
    (callers : shared.callers = d.callers) (queue : shared.queue = d.queue)
    (worker : ∀ ticket, shared.worker.workFor? ticket = d.worker.workFor? ticket) :
    Standing farewell calls events (shared.setCaller mover new) ticket := by
  refine (h ticket).moved shared stood callers (fun _ => ⟨by rw [queue], worker ticket, rfl⟩) ?_
  have own := h mover
  unfold Standing at own
  rw [stood] at own
  obtain ⟨nothing, noWork, silent⟩ := own.of_noSubmission no
  rw [queue, worker, nothing, noWork, silent]
  exact .noSubmission fun point same => no' point (Option.some.inj same)

theorem Refuses.outside {point : Submitter} (h : Refuses d point) : ∃ command, point.outside? = some command := by
  cases h <;> exact ⟨_, rfl⟩

/-- **The events about a submission tell where it is**, after each step of a run. -/
theorem Standing.step (starting : Starting d.receiver d.worker d.callers) (short : d.queue.length ≤ 1)
    (h : ∀ ticket, Standing farewell calls events d ticket) (step : Step execute farewell d process event next)
    (ticket : Nat) : Standing farewell calls (record events event) next ticket := by
  have outside {mover : Nat} {point : Submitter} {command : Command}
      (stood : d.callers[mover]? = some (.submitter point)) (own : point.outside? = some command) :
      calls[mover]? = some (.submit command) ∧ queued? d.queue mover = none ∧ d.worker.workFor? mover = none
        ∧ events.filter (Event.about mover) = [] := by
    have standing := h mover
    unfold Standing at standing
    rw [stood] at standing
    exact standing.of_outside own
  cases step with
  | starter stood change =>
    refine Standing.aside h stood (by simp) (by simp) change.callers ?_ fun other => ?_
    · cases change <;> rfl
    · cases change with
      | spawned => rw [(starting.taken _ (.inr stood)).2]; rfl
      | _ => rfl
  | @stopper mover point after shared stood change =>
    cases change with
    | droppedReceiver stored =>
      have standing := h mover
      unfold Standing at standing
      rw [stood] at standing
      obtain ⟨nothing, -, -⟩ := standing.of_noSubmission (by simp)
      have stood' : d.dropReceiver.callers[mover]? = some (.stopper .droppingReceiver) := by
        rw [getElem?_dropReceiver, if_neg (queued?_eq_none_iff.mp nothing), stood]
      exact Standing.aside (fun other => (h other).dropReceiver) stood' (by simp) (by simp) rfl rfl fun _ => rfl
    | _ => exact Standing.aside h stood (by simp) (by simp) rfl rfl fun _ => rfl
  | admitted stood accepts | gotSender stood sender =>
    refine (h ticket).moved d stood rfl (fun _ => ⟨rfl, rfl, rfl⟩) ?_
    obtain ⟨call, queue, worker, shown⟩ := outside stood rfl
    rw [call, queue, worker]
    show Stage _ _ _ _ _ _ (events.filter _)
    rw [shown]
    exact .outside rfl
  | @refused mover point stood refuses =>
    refine (h ticket).moved d stood rfl (fun different => ⟨rfl, rfl, filter_record_other ?_⟩) ?_
    · exact decide_eq_false (Ne.symm different)
    · obtain ⟨command, own⟩ := refuses.outside
      obtain ⟨call, queue, worker, shown⟩ := outside stood own
      rw [call, queue, worker, filter_record_own, shown]
      · exact .returned .refused
      · exact decide_eq_true rfl
  | @entered mover command stood alive here room =>
    refine (h ticket).moved { d with queue := [(mover, command)] } stood rfl
      (fun different => ⟨?_, rfl, filter_record_other ?_⟩) ?_
    · rw [queued?_cons_ne different, room]
    · exact decide_eq_false (Ne.symm different)
    · obtain ⟨call, queue, worker, shown⟩ := outside stood rfl
      rw [call, queued?_cons_self, worker, filter_record_own, shown]
      · exact .queued
      · exact decide_eq_true rfl
  | @returned mover reply stood =>
    refine (h ticket).moved d stood rfl (fun different => ⟨rfl, rfl, filter_record_other ?_⟩) ?_
    · exact decide_eq_false (Ne.symm different)
    · have standing := h mover
      unfold Standing at standing
      rw [stood] at standing
      obtain ⟨queue, worker, command, call, course⟩ := standing.of_answered
      rw [call, queue, worker, filter_record_own]
      · exact .returned course
      · exact decide_eq_true rfl
  | awoke awake => exact (h ticket).same rfl rfl (by rw [awake]; rfl) rfl
  | sawCancel idle cancelled => exact (h ticket).same rfl rfl (by rw [idle]; rfl) (filter_record_other rfl)
  | @tookQuit mover rest idle alive queue =>
    obtain rfl := rest_eq_nil short queue
    obtain ⟨call, caller, shown⟩ := (h mover).of_head queue
    refine (h ticket).moved { d with queue := [], worker := .leaving } caller rfl
      (fun different => ⟨?_, ?_, filter_record_other ?_⟩) ?_
    · rw [queue, queued?_cons_ne different]
    · rw [idle]
      rfl
    · exact decide_eq_false (Ne.symm different)
    · rw [call, filter_record_own, shown]
      · exact .answered (.tookQuit rfl)
      · exact decide_eq_true rfl
  | @handed mover command rest idle alive queue other =>
    obtain rfl := rest_eq_nil short queue
    by_cases same : ticket = mover
    · subst same
      obtain ⟨call, caller, shown⟩ := (h ticket).of_head queue
      unfold Standing
      rw [filter_record_own, shown, call, caller, Worker.workFor?, if_pos rfl]
      · exact .carried
      · exact decide_eq_true rfl
    · refine (h ticket).same rfl ?_ ?_ (filter_record_other (decide_eq_false (Ne.symm same)))
      · rw [queue, queued?_cons_ne same]
      · rw [idle, Worker.workFor?, if_neg (Ne.symm same)]
        rfl
  | deserted idle alive queue alone => exact (h ticket).same rfl rfl (by rw [idle]; rfl) rfl
  | @finished mover command executing =>
    by_cases same : ticket = mover
    · subst same
      have standing := h ticket
      unfold Standing at standing ⊢
      rw [executing, Worker.workFor?, if_pos rfl] at standing
      obtain ⟨call, caller, queue, shown⟩ := standing.of_command
      rw [filter_record_own, shown, call, caller, queue, Worker.workFor?, if_pos rfl]
      · exact .done
      · exact decide_eq_true rfl
    · refine (h ticket).same rfl rfl ?_ (filter_record_other (decide_eq_false (Ne.symm same)))
      rw [executing, Worker.workFor?, Worker.workFor?, if_neg (Ne.symm same), if_neg (Ne.symm same)]
  | @replied mover reply replying =>
    obtain ⟨caller, queue, command, call, shown⟩ := (h mover).of_replying replying
    refine (h ticket).moved { d with worker := .idle } caller rfl (fun different => ⟨rfl, ?_, rfl⟩) ?_
    · have none_for : (Worker.replying mover reply).workFor? ticket = none := if_neg (Ne.symm different)
      rw [replying, none_for]
      rfl
    · rw [call, queue]
      show Stage _ _ _ _ _ _ (events.filter _)
      rw [shown]
      exact .answered (.carriedOut reply)
  | left leaving => exact (h ticket).same rfl rfl (by rw [leaving]; rfl) rfl
  | ended closing =>
    refine (h ticket).dropReceiver.same rfl rfl ?_ rfl
    rw [dropReceiver_eq]
    show _ = d.worker.workFor? ticket
    rw [closing]
    rfl
  | parent => exact h ticket

/-- Whoever does not wait for an answer moves only by its own moves. -/
theorem Step.own_move (standing : ∀ ticket, Standing farewell calls events d ticket)
    (step : Step execute farewell d process event next) {caller : Caller}
    (stood : d.callers[ticket]? = some caller) (busy : caller ≠ .submitter .waiting) :
    process = .caller ticket ∨ next.callers[ticket]? = some caller := by
  have dropped : d.dropReceiver.callers[ticket]? = some caller := by
    have absent : ticket ∉ d.queue.map Prod.fst := by
      intro queued
      have own := standing ticket
      unfold Standing at own
      cases found : queued? d.queue ticket with
      | none => exact queued?_eq_none_iff.mp found queued
      | some command =>
        rw [found] at own
        obtain ⟨-, waiting, -⟩ := own.of_queued
        exact busy (Option.some.inj (stood.symm.trans waiting))
    rw [getElem?_dropReceiver, if_neg absent, stood]
  have moved {shared : Dispatcher σ} {mover : Nat} (new : Caller) (there : shared.callers[ticket]? = some caller) :
      Process.caller mover = .caller ticket ∨ (shared.setCaller mover new).callers[ticket]? = some caller := by
    by_cases same : ticket = mover
    · exact .inl (same ▸ rfl)
    · exact .inr (by rw [getElem?_setCaller_ne same, there])
  cases step with
  | starter own change => exact moved _ (change.callers ▸ stood)
  | stopper own change =>
    rcases change.callers with same | rfl
    · exact moved _ (same ▸ stood)
    · exact moved _ dropped
  | admitted | gotSender | refused | entered | returned => exact moved _ stood
  | @tookQuit mover rest idle alive queue =>
    obtain ⟨-, waiting, -⟩ := (standing mover).of_head queue
    right
    have different : ticket ≠ mover := by
      rintro rfl
      exact busy (Option.some.inj (stood.symm.trans waiting))
    exact (getElem?_setCaller_ne different _).trans stood
  | @replied mover reply replying =>
    obtain ⟨waiting, -⟩ := (standing mover).of_replying replying
    right
    have different : ticket ≠ mover := by
      rintro rfl
      exact busy (Option.some.inj (stood.symm.trans waiting))
    exact (getElem?_setCaller_ne different _).trans stood
  | ended closing => exact .inr dropped
  | awoke | sawCancel | handed | deserted | finished | left | parent => exact .inr stood

end Standing

end DeviceConsole.Dispatcher
