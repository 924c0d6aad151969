import DeviceConsole.Proofs.Dispatcher.Service
import DeviceConsole.Proofs.Reasons
import Mathlib.Data.List.Basic

/-!
# `Proofs.Dispatcher.Protocol` — what callers can rely on

Any number of calls start the dispatcher, submit commands to it and stop it, and their moves are interleaved with
those of the worker and of a parent that cancels. Whatever the schedule, commands are carried out one at a time, in
the order in which they entered the channel, and every answer is the one to the caller's own command.

* `Orderly` — the guarantees about a run and the state that it leads to;
* `orderly_of_run` — every run has them.
-/

namespace DeviceConsole.Dispatcher

variable {σ : Type} {execute : Executor σ} {site : σ} {calls : List Call} {events : List Event} {d : Dispatcher σ}

/-! ## Consequences -/

theorem Stage.entered_once {farewell : Reply} {ticket : Nat} {call : Option Call} {caller : Option Caller}
    {queue : Option Command} {work : Option Work} (h : Stage farewell ticket call caller queue work events) :
    (events.filterMap Event.entered?).length ≤ 1 := by
  cases h with
  | noSubmission | outside => exact Nat.zero_le 1
  | queued | carried | done => exact Nat.le_refl 1
  | answered course | returned course =>
    cases course with
    | refused => exact Nat.zero_le 1
    | _ => exact Nat.le_refl 1

/-- What the events tell of one submission is told by the events about it. -/
theorem filter_filterMap {f : Event → Option (Nat × Command)}
    (own : ∀ event submission, f event = some submission →
      ∀ ticket, event.about ticket = decide (submission.1 = ticket))
    (ticket : Nat) :
    (events.filterMap f).filter (fun submission => submission.1 = ticket)
      = (events.filter (Event.about ticket)).filterMap f := by
  rw [List.filter_filterMap, List.filterMap_filter]
  refine List.filterMap_congr fun event _ => ?_
  cases shown : f event with
  | none => simp
  | some submission =>
    rw [own event submission shown ticket]
    by_cases same : submission.1 = ticket <;> simp [Option.filter, same]

theorem about_of_entered {event : Event} {submission : Nat × Command} (h : event.entered? = some submission)
    (ticket : Nat) : event.about ticket = decide (submission.1 = ticket) := by
  cases event <;> cases h
  rfl

theorem about_of_taken {event : Event} {submission : Nat × Command} (h : event.taken? = some submission)
    (ticket : Nat) : event.about ticket = decide (submission.1 = ticket) := by
  cases event <;> cases h <;> rfl

/-- No submission enters the channel twice. -/
theorem entered_nodup {farewell : Reply} (standing : ∀ ticket, Standing farewell calls events d ticket) :
    ((events.filterMap Event.entered?).map Prod.fst).Nodup := by
  rw [List.nodup_iff_count]
  intro ticket
  have counted : ((events.filterMap Event.entered?).map Prod.fst).count ticket
      = ((events.filterMap Event.entered?).filter fun submission => submission.1 = ticket).length := by
    rw [List.count, List.countP_map, List.countP_eq_length_filter]
    congr 1
  rw [counted, filter_filterMap fun _ _ h => about_of_entered h]
  exact (standing ticket).entered_once

theorem mem_taken_iff {ticket : Nat} :
    ticket ∈ (events.filterMap Event.taken?).map Prod.fst
      ↔ (events.filter (Event.about ticket)).filterMap Event.taken? ≠ [] := by
  rw [← filter_filterMap fun _ _ h => about_of_taken h, ne_eq, List.filter_eq_nil_iff, List.mem_map]
  constructor
  · rintro ⟨submission, mem, same⟩ nowhere
    exact nowhere submission mem (decide_eq_true same)
  · intro somewhere
    refine Decidable.of_not_not fun absent => somewhere fun submission mem same => absent ?_
    exact ⟨submission, mem, of_decide_eq_true same⟩

/-- What is handed to the executor is taken out of the channel, and all of it before the command to quit. -/
theorem taken_extends_handed (after : events.Pairwise fun event later => event.endsService = true → later.handed? = none) :
    events.filterMap Event.handed? <+: events.filterMap Event.taken? := by
  induction events with
  | nil => exact List.prefix_refl _
  | cons event rest ih =>
    obtain ⟨silent, tail⟩ := List.pairwise_cons.mp after
    cases event with
    | handed ticket command => exact (List.prefix_cons_inj _).mpr (ih tail)
    | tookQuit ticket =>
      have none_handed : rest.filterMap Event.handed? = [] :=
        List.filterMap_eq_nil_iff.mpr fun later mem => silent later mem rfl
      show rest.filterMap Event.handed? <+: _
      rw [none_handed]
      exact List.nil_prefix
    | _ => exact ih tail

/-- Every answer among those of commands carried out in order is the executor's to its command, on the site that the
earlier ones leave. -/
theorem reply_of_serve {served : List Served} {first last : σ}
    (serial : serve execute (served.map Served.command) first = (served.map Served.reply, last)) {own : Served}
    (mem : own ∈ served) : ∃ site, own.reply = (execute own.command site).1 := by
  induction served generalizing first with
  | nil => cases mem
  | cons one rest ih =>
    obtain ⟨replies, ends⟩ := Prod.mk.inj serial
    obtain ⟨reply, others⟩ := List.cons.inj replies
    rcases List.mem_cons.mp mem with rfl | later
    · exact ⟨first, reply.symm⟩
    · exact ih (Prod.ext others ends) later

/-! ## Guarantees -/

/-- **What callers can rely on**, whatever the schedule. The first part is about the executor, the second one about
the order, and the third one about the answers; of the site, commands see what the commands before them left. -/
structure Orderly (execute : Executor σ) (site : σ) (calls : List Call) (events : List Event) (d : Dispatcher σ) :
    Prop where
  /-- At most one command is in execution, and the others that were handed over are finished. -/
  one : events.filterMap Event.handed?
    = (events.filterMap Event.finished?).map (fun served => (served.ticket, served.command)) ++ d.worker.inExecution
  /-- The answers are those of the executor, one command after the other. -/
  serial : serve execute ((events.filterMap Event.finished?).map Served.command) site
    = ((events.filterMap Event.finished?).map Served.reply, d.site)
  /-- Submissions are handed over in the order in which they entered the channel. -/
  order : events.filterMap Event.handed? <+: events.filterMap Event.entered?
  /-- None enters twice, so none is handed over twice. -/
  once : ((events.filterMap Event.entered?).map Prod.fst).Nodup
  /-- None is handed over after the command to quit was taken or the cancellation was seen. -/
  ended : events.Pairwise fun event later => event.endsService = true → later.handed? = none
  /-- The worker leaves only for one of these reasons, and so never for a command that failed. -/
  leaves : d.worker.hasLeft = true → ∃ event ∈ events, event.endsService = true
  /-- A submitting call that has returned did so once, with the answer to its own command. -/
  answered : ∀ ticket reply, d.callers[ticket]? = some (.submitter (.returned reply)) →
    ∃ command course, calls[ticket]? = some (.submit command) ∧ Course farewell ticket command reply course
      ∧ events.filter (Event.about ticket) = course ++ [.returned ticket reply]
  /-- If the executor itself never answers like that, as the console's does not, the refusal is the answer exactly to
  commands that never reached it and were not taken as the command to quit. -/
  refused : (∀ command site, (execute command site).1 ≠ refusal) →
    ∀ ticket reply, d.callers[ticket]? = some (.submitter (.returned reply)) →
      (reply = refusal ↔ ticket ∉ (events.filterMap Event.taken?).map Prod.fst)

/-- **Every run is orderly.** -/
theorem orderly_of_run {schedule : List Process}
    (ran : runSchedule? execute farewell schedule (facing site calls) = some d) :
    Orderly execute site calls (history execute farewell schedule (facing site calls)) d := by
  have kept := kept_of_run ran
  generalize history execute farewell schedule (facing site calls) = events at kept ⊢
  have answered : ∀ ticket reply, d.callers[ticket]? = some (.submitter (.returned reply)) →
      ∃ command course, calls[ticket]? = some (.submit command) ∧ Course farewell ticket command reply course
        ∧ events.filter (Event.about ticket) = course ++ [.returned ticket reply] := by
    intro ticket reply stands
    have standing := kept.standing ticket
    unfold Standing at standing
    rw [stands] at standing
    exact standing.of_returned
  refine ⟨kept.serving.one, kept.serving.serial, ?_, entered_nodup kept.standing, kept.ending.after,
    kept.ending.left.mp, answered, ?_⟩
  · obtain ⟨lost, order, -⟩ := kept.queueing.order
    rw [order, List.append_assoc]
    exact (taken_extends_handed kept.ending.after).trans (List.prefix_append _ _)
  · intro never ticket reply stands
    obtain ⟨command, course, -, happened, shown⟩ := answered ticket reply stands
    rw [mem_taken_iff, shown]
    cases happened with
    | carriedOut =>
      have finished : Event.finished ticket command reply ∈ events := by
        have about : Event.finished ticket command reply ∈ events.filter (Event.about ticket) := by
          rw [shown]
          exact .tail _ (.tail _ (.head _))
        exact (List.mem_filter.mp about).1
      have served : (⟨ticket, command, reply⟩ : Served) ∈ events.filterMap Event.finished? :=
        List.mem_filterMap.mpr ⟨_, finished, rfl⟩
      obtain ⟨site, same⟩ := reply_of_serve kept.serving.serial served
      exact ⟨fun refused => absurd (same.symm.trans refused) (never command site), fun nothing => absurd nofun nothing⟩
    | tookQuit => exact ⟨nofun, fun nothing => absurd nofun nothing⟩
    | dropped => exact ⟨fun _ taken => taken rfl, fun _ => rfl⟩
    | refused => exact ⟨fun _ taken => taken rfl, fun _ => rfl⟩

/-- A start and three submissions: one fails, since there is no such group, then one is the command to quit, and one
enters the channel after that. -/
def callsOfFour : List Call :=
  [.start, .submit (.group (.delete "@porch")), .submit .quit, .submit (.debug none)]

/-- A schedule in which all submissions overlap. -/
def overlapping : List Process :=
  [.caller 0, .caller 0, .caller 0, .caller 0, .worker, .caller 1, .caller 1, .caller 1, .worker, .caller 2, .caller 2,
    .caller 2, .caller 3, .caller 3, .worker, .worker, .caller 1, .worker, .caller 2, .caller 3, .worker, .worker,
    .caller 3]

/-- The answer to the submission that fails. -/
def noPorch : Reply := .error (.execution (.failed (.undefinedGroup "@porch")))

/-- The failed command is answered with its error and does not end the worker, the command to quit does, and the
last command is refused in the channel. -/
theorem orderly_of_run_overlapping :
    ∃ d, runSchedule? (carryOut 0) farewell overlapping (facing Backend.empty callsOfFour) = some d
      ∧ Orderly (carryOut 0) Backend.empty callsOfFour
        (history (carryOut 0) farewell overlapping (facing Backend.empty callsOfFour)) d
      ∧ history (carryOut 0) farewell overlapping (facing Backend.empty callsOfFour)
        = [.entered 1 (.group (.delete "@porch")), .handed 1 (.group (.delete "@porch")), .entered 2 .quit,
          .finished 1 (.group (.delete "@porch")) noPorch, .returned 1 noPorch, .tookQuit 2, .returned 2 farewell,
          .entered 3 (.debug none), .returned 3 refusal]
      ∧ d.callers[3]? = some (.submitter (.returned refusal))
      ∧ 3 ∉ ((history (carryOut 0) farewell overlapping (facing Backend.empty callsOfFour)).filterMap
          Event.taken?).map Prod.fst := by
  have ran : runSchedule? (carryOut 0) farewell overlapping (facing Backend.empty callsOfFour) = some _ := rfl
  have orderly := orderly_of_run ran
  exact ⟨_, ran, orderly, rfl, rfl, (orderly.refused (carryOut_ne_refusal 0) 3 refusal rfl).mp rfl⟩

end DeviceConsole.Dispatcher
