import DeviceConsole.Proofs.Dispatcher.Serial
import DeviceConsole.Proofs.Reachable
import DeviceConsole.Session

/-!
# `Proofs.Batch` — lines in order

A batch hands its lines to the dispatcher one after the other. On a running dispatcher a line does what its command
does to the site, so a batch can be told without the dispatcher: `Plays` says what lines print and leave on a site,
each read with the names that the lines before it have left.

* `Session.Running`, `Session.Closed` — sessions whose dispatcher takes commands, or takes none any more;
* `answerLine_of_running`, `answerLine_of_closed` — one line;
* `runBatch_append_eq` — two batches in a row, on any session;
* `Plays`, `runBatch_plays` — what a batch does on a running session;
* `runBatch_of_running` — the two together, and what is left of a session that has said farewell.
-/

namespace DeviceConsole

open Format (Formatter)

/-! ## Sessions -/

namespace Session

/-- The dispatcher of the session takes commands and waits for one. -/
def Running (session : Session) : Prop := session.dispatcher.Running

/-- The dispatcher of the session takes no commands. -/
def Closed (session : Session) : Prop := session.dispatcher.lifecycle.accepts = false

/-- The sessions that lines lead to, each at its own time. -/
inductive Leads (session : Session) : Session → Prop
  | refl : Leads session session
  | line {between : Session} (now : Time) (line : String) :
      Leads session between → Leads session (between.executeLine now line).2

/-- A session is running once it is started. -/
theorem running_of_start (now : Time) (backend : Backend) (formatter : Formatter) :
    ((ofBackend backend formatter).start now).2.Running := by
  obtain ⟨started, same, running, -⟩ := Dispatcher.running_of_start (carryOut now) backend
  have dispatcher : ((ofBackend backend formatter).start now).2.dispatcher
      = (Dispatcher.start (carryOut now) { site := backend }).2 := rfl
  rw [Running, dispatcher, same]
  exact running

/-! ## One line -/

section Line

variable {session after : Session} {now : Time} {line : String} {command : Command} {reply : Dispatcher.Reply}
  {error : ConsoleError}

theorem answerLine_of_blank (blank : Text.isBlank line = true) :
    session.answerLine now line = (.ok none, session) := by
  rw [answerLine, if_pos blank]

theorem answerLine_of_error (some_word : Text.isBlank line = false) (parsed : session.parse line = .error error) :
    session.answerLine now line = (.error error, session) := by
  rw [answerLine, if_neg (Bool.eq_false_iff.mp some_word), parsed]

theorem answerLine_of_command (some_word : Text.isBlank line = false) (parsed : session.parse line = .ok command)
    (submitted : session.submit now command = (reply, after)) :
    session.answerLine now line = (.ok (some (command, reply)), after) := by
  rw [answerLine, if_neg (Bool.eq_false_iff.mp some_word), parsed]
  simp only [submitted]

/-- What a line gives on a running session: its command is carried out on the site, and the command to quit closes
the session. -/
inductive Answered (now : Time) (session : Session) (line : String) :
    Except ConsoleError (Option (Command × Dispatcher.Reply)) → Session → Prop
  | blank : Text.isBlank line = true → Answered now session line (.ok none) session
  | unread {error : ConsoleError} : Text.isBlank line = false → session.parse line = .error error →
      Answered now session line (.error error) session
  | carriedOut {command : Command} {after : Session} : Text.isBlank line = false →
      session.parse line = .ok command → command ≠ .quit → after.Running → after.formatter = session.formatter →
      after.backend = (carryOut now command session.backend).2 →
      Answered now session line (.ok (some (command, (carryOut now command session.backend).1))) after
  | quit {after : Session} : Text.isBlank line = false → session.parse line = .ok .quit → after.Closed →
      after.formatter = session.formatter → after.backend = session.backend →
      Answered now session line (.ok (some (.quit, Dispatcher.farewell))) after

/-- **A line on a running session.** -/
theorem answerLine_of_running (running : session.Running) (now : Time) (line : String) :
    ∃ answer after, session.answerLine now line = (answer, after) ∧ Answered now session line answer after := by
  cases blank : Text.isBlank line with
  | true => exact ⟨_, _, answerLine_of_blank blank, .blank blank⟩
  | false =>
    cases parsed : session.parse line with
    | error error => exact ⟨_, _, answerLine_of_error blank parsed, .unread blank parsed⟩
    | ok command =>
      by_cases quit : command = .quit
      · subst quit
        have submitted : session.submit now .quit = (Dispatcher.farewell, { session with
            dispatcher := session.dispatcher.left.joined (.submitter (.returned Dispatcher.farewell)) }) := by
          rw [submit, Dispatcher.submit_quit running]
        refine ⟨_, _, answerLine_of_command blank parsed submitted, .quit blank parsed ?_ rfl rfl⟩
        show Lifecycle.accepts .stopped = false
        rfl
      · have submitted : session.submit now command = ((carryOut now command session.backend).1, { session with
            dispatcher := (session.dispatcher.served (carryOut now) command).joined
              (.submitter (.returned (carryOut now command session.backend).1)) }) := by
          rw [submit, Dispatcher.submit_of_running running quit]
          rfl
        refine ⟨_, _, answerLine_of_command blank parsed submitted, .carriedOut blank parsed quit ?_ rfl rfl⟩
        exact Dispatcher.Running.served running _

/-- **A line on a closed session** changes nothing, and a line that is a command is refused. -/
theorem answerLine_of_closed (closed : session.Closed) (now : Time) (line : String) :
    ∃ answer after, session.answerLine now line = (answer, after) ∧ after.Closed ∧ after.backend = session.backend
      ∧ ∀ command, Text.isBlank line = false → session.parse line = .ok command →
          answer = .ok (some (command, Dispatcher.refusal)) := by
  cases blank : Text.isBlank line with
  | true => exact ⟨_, _, answerLine_of_blank blank, closed, rfl, fun command never => by cases never⟩
  | false =>
    cases parsed : session.parse line with
    | error error =>
      exact ⟨_, _, answerLine_of_error blank parsed, closed, rfl, fun command _ never => by cases never⟩
    | ok command =>
      have submitted : session.submit now command = (Dispatcher.refusal, { session with
          dispatcher := session.dispatcher.joined (.submitter (.returned Dispatcher.refusal)) }) := by
        rw [submit, Dispatcher.submit_of_closed closed]
      refine ⟨_, _, answerLine_of_command blank parsed submitted, closed, rfl, ?_⟩
      intro own _ same
      cases same
      rfl

/-- **A closed session stays closed**: whatever lines come, the site stays as it is, and every command is refused. -/
theorem Leads.closed {later : Session} (leads : Leads session later) (closed : session.Closed) :
    later.Closed ∧ later.backend = session.backend := by
  induction leads with
  | refl => exact ⟨closed, rfl⟩
  | @line between now line _ ih =>
    obtain ⟨answer, after, answered, stays, site, -⟩ := answerLine_of_closed ih.1 now line
    have executed : (between.executeLine now line).2 = after := by
      rw [executeLine, answered]
      rcases answer with error | _ | ⟨command, reply⟩
      · rfl
      · rfl
      · rfl
    rw [executed]
    exact ⟨stays, site.trans ih.2⟩

theorem executeLine_of_closed (closed : session.Closed) (now : Time) (some_word : Text.isBlank line = false)
    (parsed : session.parse line = .ok command) :
    (session.executeLine now line).1 = .error (.execution .dispatcherStopped) := by
  obtain ⟨answer, after, answered, -, -, refused⟩ := answerLine_of_closed closed now line
  rw [executeLine, answered, refused command some_word parsed]
  rfl

end Line

end Session

/-! ## Batches -/

/-- Whether a batch came to the end of its lines: none failed, and none was the command to quit. -/
def BatchOutcome.goesOn (outcome : BatchOutcome) : Bool :=
  outcome.result.toBool && outcome.answered.all fun answer => decide (answer.1 ≠ .quit)

/-- What two batches give one after the other. -/
def BatchOutcome.followedBy (first second : BatchOutcome) : BatchOutcome :=
  ⟨first.printed ++ second.printed, first.answered ++ second.answered, second.result⟩

namespace Session

section Batches

variable {now : Time} {session next : Session} {line : String} {rest : List String} {command : Command}
  {reply : Dispatcher.Reply} {outcome : Outcome} {error : ConsoleError} {text : String} {first second : BatchOutcome}

theorem goesOn_after (other : command ≠ .quit) :
    (BatchOutcome.after command reply text first).goesOn = first.goesOn := by
  unfold DeviceConsole.BatchOutcome.goesOn BatchOutcome.after
  rw [List.all_cons, decide_eq_true other, Bool.true_and]

theorem after_followedBy :
    (BatchOutcome.after command reply text first).followedBy second
      = BatchOutcome.after command reply text (first.followedBy second) := by
  simp [DeviceConsole.BatchOutcome.followedBy, BatchOutcome.after, String.append_assoc]

theorem runBatch_of_blank (answered : session.answerLine now line = (.ok none, next)) :
    runBatch now (line :: rest) session = runBatch now rest next := by
  rw [runBatch, answered]

theorem runBatch_of_unread (answered : session.answerLine now line = (.error error, next)) :
    runBatch now (line :: rest) session = (⟨"", [], .error error⟩, next) := by
  rw [runBatch, answered]

theorem runBatch_of_failed (answered : session.answerLine now line = (.ok (some (command, .error error)), next)) :
    runBatch now (line :: rest) session = (⟨"", [(command, .error error)], .error error⟩, next) := by
  rw [runBatch, answered]
  rfl

theorem runBatch_of_farewell (answered : session.answerLine now line = (.ok (some (.quit, .ok outcome)), next)) :
    runBatch now (line :: rest) session
      = (BatchOutcome.after .quit (.ok outcome) (next.formatter.write outcome) ⟨"", [], .ok ()⟩, next) := by
  rw [runBatch, answered]
  rfl

theorem runBatch_of_shown (answered : session.answerLine now line = (.ok (some (command, .ok outcome)), next))
    (other : command ≠ .quit) :
    runBatch now (line :: rest) session
      = (BatchOutcome.after command (.ok outcome) (next.formatter.write outcome) (runBatch now rest next).1,
        (runBatch now rest next).2) := by
  have shown : next.outcomeOf command (.ok outcome) = .ok (.shown (next.formatter.write outcome)) := by
    show Except.ok (if command = .quit then _ else _) = _
    rw [if_neg other]
  rw [runBatch, answered]
  simp only [shown]

/-- **Batches compose**: lines in a row do what the first part does, and then, if it came to its end, what the second
part does on the session that it leaves. This holds of any session. -/
theorem runBatch_append_eq (now : Time) (front back : List String) (session : Session) :
    runBatch now (front ++ back) session
      = if (runBatch now front session).1.goesOn then
          ((runBatch now front session).1.followedBy (runBatch now back (runBatch now front session).2).1,
            (runBatch now back (runBatch now front session).2).2)
        else runBatch now front session := by
  induction front generalizing session with
  | nil =>
    show runBatch now back session = _
    simp [runBatch, DeviceConsole.BatchOutcome.goesOn, DeviceConsole.BatchOutcome.followedBy, Except.toBool]
  | cons line rest ih =>
    rw [List.cons_append]
    rcases answered : session.answerLine now line with ⟨error | _ | ⟨command, error | outcome⟩, next⟩
    · rw [runBatch_of_unread answered, runBatch_of_unread answered]
      rfl
    · rw [runBatch_of_blank answered, runBatch_of_blank answered]
      exact ih next
    · rw [runBatch_of_failed answered, runBatch_of_failed answered]
      rfl
    · by_cases quit : command = .quit
      · subst quit
        rw [runBatch_of_farewell answered, runBatch_of_farewell answered]
        rfl
      · rw [runBatch_of_shown answered quit, runBatch_of_shown answered quit, ih next]
        by_cases through : (runBatch now rest next).1.goesOn = true
        · rw [if_pos through, if_pos ((goesOn_after quit).trans through), after_followedBy]
        · rw [if_neg through, if_neg (fun all => through ((goesOn_after quit).symm.trans all))]

end Batches

end Session

/-! ## Lines on a site -/

/-- How lines in order come to an end: all are through, one fails, or one is the command to quit. -/
inductive Ending where
  | through
  | failed (error : ConsoleError)
  | farewell

/-- What lines give that come to an end in this way. -/
def Ending.result : Ending → Except ConsoleError Unit
  | through | farewell => .ok ()
  | failed error => .error error

/-- **What lines in order do to a site, and what they print.** Blank lines do nothing. Every other line is read with
the names that the lines before it have left, and its command is carried out on the site that they have left. The
first line that cannot be read or whose command fails is the last one, and so is the first command to quit. -/
inductive Plays (now : Time) (formatter : Formatter) :
    List String → Backend → String → Ending → Backend → Prop
  | none {backend : Backend} : Plays now formatter [] backend "" .through backend
  | blank {line : String} {rest : List String} {backend after : Backend} {printed : String} {ending : Ending} :
      Text.isBlank line = true → Plays now formatter rest backend printed ending after →
      Plays now formatter (line :: rest) backend printed ending after
  | unread {line : String} {rest : List String} {backend : Backend} {error : ConsoleError} :
      Text.isBlank line = false → backend.directory.parse line = .error error →
      Plays now formatter (line :: rest) backend "" (.failed error) backend
  | failed {line : String} {rest : List String} {backend after : Backend} {command : Command} {error : ConsoleError} :
      Text.isBlank line = false → backend.directory.parse line = .ok command → command ≠ .quit →
      carryOut now command backend = (.error error, after) →
      Plays now formatter (line :: rest) backend "" (.failed error) after
  | shown {line : String} {rest : List String} {backend between after : Backend} {command : Command}
      {outcome : Outcome} {printed : String} {ending : Ending} :
      Text.isBlank line = false → backend.directory.parse line = .ok command → command ≠ .quit →
      carryOut now command backend = (.ok outcome, between) → Plays now formatter rest between printed ending after →
      Plays now formatter (line :: rest) backend (Session.printed (formatter.write outcome) ++ printed) ending after
  | farewell {line : String} {rest : List String} {backend : Backend} :
      Text.isBlank line = false → backend.directory.parse line = .ok .quit →
      Plays now formatter (line :: rest) backend (Session.printed (formatter.write Router.farewell)) .farewell backend

namespace Session

variable {session : Session}

/-- **What a batch does on a running session** is what its lines do to the site. It leaves a session that is running,
or closed if it came to the command to quit. -/
theorem runBatch_plays (now : Time) (lines : List String) (running : session.Running) :
    ∃ outcome after ending, runBatch now lines session = (outcome, after)
      ∧ Plays now session.formatter lines session.backend outcome.printed ending after.backend
      ∧ outcome.result = ending.result ∧ (outcome.goesOn = true ↔ ending = .through)
      ∧ after.formatter = session.formatter ∧ (ending = .farewell → after.Closed)
      ∧ (ending ≠ .farewell → after.Running) := by
  induction lines generalizing session with
  | nil => exact ⟨_, _, .through, rfl, .none, rfl, ⟨fun _ => rfl, fun _ => rfl⟩, rfl, nofun, fun _ => running⟩
  | cons line rest ih =>
    obtain ⟨answer, next, answered, gives⟩ := answerLine_of_running running now line
    cases gives with
    | blank isBlank =>
      rw [runBatch_of_blank answered]
      obtain ⟨outcome, after, ending, ran, plays, told⟩ := ih running
      exact ⟨outcome, after, ending, ran, .blank isBlank plays, told⟩
    | unread notBlank parsed =>
      rw [runBatch_of_unread answered]
      exact ⟨_, _, .failed _, rfl, .unread notBlank parsed, rfl, ⟨nofun, nofun⟩, rfl, nofun, fun _ => running⟩
    | @carriedOut command _ notBlank parsed other runs sameFormatter site =>
      rcases carried : carryOut now command session.backend with ⟨error | outcome, between⟩
      · rw [carried] at answered site
        rw [runBatch_of_failed answered]
        refine ⟨_, _, .failed error, rfl, ?_, rfl, ⟨nofun, nofun⟩, sameFormatter, nofun, fun _ => runs⟩
        rw [site]
        exact .failed notBlank parsed other carried
      · rw [carried] at answered site
        rw [runBatch_of_shown answered other]
        obtain ⟨later, after, ending, ran, plays, result, goesOn, formatter, closed, stays⟩ := ih runs
        rw [ran, sameFormatter]
        rw [sameFormatter, site] at plays
        refine ⟨_, _, ending, rfl, .shown notBlank parsed other carried plays, result, ?_,
          formatter.trans sameFormatter, closed, stays⟩
        rw [goesOn_after other]
        exact goesOn
    | quit notBlank parsed closed sameFormatter site =>
      rw [Dispatcher.farewell] at answered
      rw [runBatch_of_farewell answered, sameFormatter]
      refine ⟨_, _, .farewell, rfl, ?_, rfl, ⟨?_, nofun⟩, sameFormatter, fun _ => closed, fun never => absurd rfl never⟩
      · rw [site]
        show Plays now session.formatter _ _ (printed _ ++ "") _ _
        rw [String.append_empty]
        exact .farewell notBlank parsed
      · intro never
        cases never

/-- **Batches compose, and each does what its lines do to the site.** On a running session, for all lines: lines in a
row print, leave and give what the first part does and then, unless it failed or came to the command to quit, the
second part on the session that the first one leaves. What a part does is told by `Plays`: its lines take effect up to
the first one that fails or is the command to quit, each on the site that the lines before it have left. After the
command to quit every further line that is a command is refused, and the site stays as it is. -/
theorem runBatch_of_running (running : session.Running) (now : Time) (front back : List String) :
    ∃ outcome between ending, runBatch now front session = (outcome, between)
      ∧ (ending = .through → runBatch now (front ++ back) session
          = (outcome.followedBy (runBatch now back between).1, (runBatch now back between).2))
      ∧ (ending ≠ .through → runBatch now (front ++ back) session = (outcome, between))
      ∧ Plays now session.formatter front session.backend outcome.printed ending between.backend
      ∧ outcome.result = ending.result
      ∧ (ending ≠ .farewell → between.Running)
      ∧ (ending = .farewell → ∀ later, between.Leads later → later.backend = between.backend
          ∧ ∀ now line command, Text.isBlank line = false → later.parse line = .ok command →
              (later.executeLine now line).1 = .error (.execution .dispatcherStopped)) := by
  obtain ⟨outcome, between, ending, ran, plays, result, goesOn, -, closed, stays⟩ := runBatch_plays now front running
  have composed := runBatch_append_eq now front back session
  rw [ran] at composed
  refine ⟨outcome, between, ending, ran, ?_, ?_, plays, result, stays, ?_⟩
  · intro through
    rw [composed, if_pos (goesOn.mpr through)]
  · intro ended
    rw [composed, if_neg (mt goesOn.mp ended)]
  · intro farewell later leads
    obtain ⟨stillClosed, site⟩ := leads.closed (closed farewell)
    refine ⟨site, ?_⟩
    intro now line command notBlank parsed
    exact executeLine_of_closed stillClosed now notBlank parsed

/-- A started session over the site of one air conditioner. -/
def sessionOfOne : Session := ((ofBackend siteOfOne { format := .compact, statistics := false }).start 0).2

/-- The air conditioner is found and gets an alias, and the session says farewell: a fifth line has no effect, the
alias stays, and another line is refused. -/
theorem runBatch_of_running_quit :
    ∃ outcome between, sessionOfOne.Running
      ∧ runBatch 1 ["discover", " ", "alias ac 10.0.0.1", "quit"] sessionOfOne = (outcome, between)
      ∧ runBatch 1 (["discover", " ", "alias ac 10.0.0.1", "quit"] ++ ["alias -delete ac"]) sessionOfOne
          = (outcome, between)
      ∧ between.backend.aliases.get? "ac" = some ⟨.v4 ⟨10, 0, 0, 1⟩, ⟨⟨0x0130⟩, 1⟩⟩
      ∧ (between.executeLine 2 "alias -delete ac").1 = .error (.execution .dispatcherStopped) := by
  have running : sessionOfOne.Running := running_of_start 0 siteOfOne _
  obtain ⟨outcome, between, ending, ran, -, ended, -, -, stays, closed⟩ :=
    runBatch_of_running running 1 ["discover", " ", "alias ac 10.0.0.1", "quit"] ["alias -delete ac"]
  have left : between = (runBatch 1 ["discover", " ", "alias ac 10.0.0.1", "quit"] sessionOfOne).2 :=
    (congrArg Prod.snd ran).symm
  have stopped : between.dispatcher.lifecycle.accepts = false := by
    rw [left]
    decide +kernel
  have named : between.backend.aliases.get? "ac" = some ⟨.v4 ⟨10, 0, 0, 1⟩, ⟨⟨0x0130⟩, 1⟩⟩ := by
    rw [left]
    decide +kernel
  have parsed : between.parse "alias -delete ac" = .ok (.aliases (.delete "ac")) := by
    rw [left]
    decide +kernel
  have farewell : ending = .farewell := by
    by_contra other
    exact Bool.eq_false_iff.mp stopped (stays other).accepts
  have refused := (closed farewell between .refl).2 2 "alias -delete ac" (.aliases (.delete "ac")) (by decide +kernel)
  exact ⟨outcome, between, running, ran, ended (by rw [farewell]; exact nofun), named, refused parsed⟩

end Session

end DeviceConsole
