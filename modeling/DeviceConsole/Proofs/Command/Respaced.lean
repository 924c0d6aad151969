import DeviceConsole.Proofs.Command.Agreement
import DeviceConsole.Proofs.Grammar.Spacing

/-!
# `Proofs.Command.Respaced` — blanks do not change what a line means

The command of a line is built from its match, and the match does not see blanks. A line that is refused by the grammar
is answered with a column, and columns do move with the blanks; the rest of the answer does not (`mismatchOf_congr`).
The builder itself never speaks of columns (`ne_mismatch_of_build`), so the two sorts of errors do not mix.

* `SameAnswer` — two lines get the same command, or the same error up to the column of one token;
* `parse_respaced` — lines with the same words and colons get the same answer.
-/

namespace DeviceConsole

open Grammar

variable {directory : Directory}

/-- **The same answer to two lines**: the same command, the same refusal, or the same mismatch, whose columns are those
of the tokens of one index. -/
inductive SameAnswer (left right : List Token) : Except ConsoleError Command → Except ConsoleError Command → Prop
  | command (command : Command) : SameAnswer left right (.ok command) (.ok command)
  | refused {error : ConsoleError} :
      (∀ mismatch, error ≠ .mismatch mismatch) → SameAnswer left right (.error error) (.error error)
  | mismatch {index : Nat} {first second : Token} (found : String) (expected : List String) :
      left[index]? = some first → right[index]? = some second →
      SameAnswer left right (.error (.mismatch ⟨first.position, found, expected⟩))
        (.error (.mismatch ⟨second.position, found, expected⟩))

theorem Refusal.ne_mismatch {word : String} {error : ConsoleError} (h : Refusal word error) (mismatch : Mismatch) :
    error ≠ .mismatch mismatch := by
  rintro rfl
  cases h

/-- The builder refuses names and values of an accepted line, not its words. -/
theorem ne_mismatch_of_build {tokens : List Token} {matched : Matched} {error : ConsoleError}
    (accepted : parseTokens tokens = .ok matched) (built : directory.build matched = .error error)
    (mismatch : Mismatch) : error ≠ .mismatch mismatch := by
  obtain ⟨entry, mem, yields, -⟩ := command_of_parseTokens accepted
  obtain ⟨word, -, items, flat, shape⟩ := items_of_command mem yields
  obtain ⟨refused, -⟩ := @built_of_commandItems word directory items shape
  rw [directory.build_of_items flat] at built
  exact (refused error built).ne_mismatch mismatch

/-- Two lines with the same match get the same command, or the same refusal. -/
theorem sameAnswer_of_accepted {line other : String} {matched : Matched}
    (accepted : parseTokens (tokenize line) = .ok matched) (accepted' : parseTokens (tokenize other) = .ok matched) :
    SameAnswer (tokenize line) (tokenize other) (directory.parse line) (directory.parse other) := by
  unfold Directory.parse
  rw [accepted, accepted']
  show SameAnswer _ _ (directory.build matched) (directory.build matched)
  cases built : directory.build matched with
  | ok command => exact .command command
  | error error => exact .refused fun mismatch => ne_mismatch_of_build accepted built mismatch

/-- **Spacing never changes meaning.** Two lines whose tokens are the same words and colons in the same order, however
many blanks stand around them, get the same answer from every directory: the same command, the same error, or a
mismatch that finds and expects the same and points at the token of the same index. -/
theorem parse_respaced (directory : Directory) {line other : String}
    (same : marks (tokenize line) = marks (tokenize other)) :
    SameAnswer (tokenize line) (tokenize other) (directory.parse line) (directory.parse other) := by
  cases answer : parseTokens (tokenize line) with
  | ok matched => exact sameAnswer_of_accepted answer (parseTokens_congr same answer)
  | error mismatch =>
    cases answer' : parseTokens (tokenize other) with
    -- what the other line is accepted with would be accepted here as well
    | ok matched =>
      have accepted := parseTokens_congr same.symm answer'
      rw [answer] at accepted
      cases accepted
    | error mismatch' =>
      obtain ⟨index, first, second, found, expected, stands, stands', told, told'⟩ :=
        mismatchOf_congr (respaced_tokenize same)
      unfold Directory.parse
      rw [answer, answer', mismatch_of_parseTokens answer, mismatch_of_parseTokens answer', told, told']
      exact .mismatch found expected stands stands'

/-- A writing with blanks around its colons, and a word too many behind more blanks. -/
theorem parse_respaced_set_and_quit :
    SameAnswer (tokenize "set 0130 : 1  80 : 30") (tokenize "set 0130:1 80:30 ")
      (.ok (.set ⟨.device ⟨none, some ⟨0x0130⟩, some 1⟩, [⟨⟨0x80⟩, [0x30]⟩]⟩))
      (.ok (.set ⟨.device ⟨none, some ⟨0x0130⟩, some 1⟩, [⟨⟨0x80⟩, [0x30]⟩]⟩))
    ∧ SameAnswer (tokenize "\t quit   now") (tokenize "quit now")
      (.error (.mismatch ⟨9, "now", []⟩)) (.error (.mismatch ⟨5, "now", []⟩)) := by
  have writing : ∀ line ∈ ["set 0130 : 1  80 : 30", "set 0130:1 80:30 "], Directory.empty.parse line
      = .ok (.set ⟨.device ⟨none, some ⟨0x0130⟩, some 1⟩, [⟨⟨0x80⟩, [0x30]⟩]⟩) := by decide +kernel
  have early : Directory.empty.parse "quit now" = .error (.mismatch ⟨5, "now", []⟩) := by decide +kernel
  have late : Directory.empty.parse "\t quit   now" = .error (.mismatch ⟨9, "now", []⟩) := by decide +kernel
  have spaced := @parse_respaced Directory.empty "set 0130 : 1  80 : 30" "set 0130:1 80:30 " (by decide +kernel)
  have moved := @parse_respaced Directory.empty "\t quit   now" "quit now" (by decide +kernel)
  rw [writing _ (by simp), writing _ (by simp)] at spaced
  rw [late, early] at moved
  exact ⟨spaced, moved⟩

end DeviceConsole
