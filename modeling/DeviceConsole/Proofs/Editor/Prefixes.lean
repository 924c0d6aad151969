import DeviceConsole.Proofs.Editor.Cursor
import DeviceConsole.Proofs.Reachable
import DeviceConsole.Proofs.Text.LowerCase

/-!
# `Proofs.Editor.Prefixes` — whether a word stays offered while it is typed

What is offered for a word that is being typed are the candidates for the text in front of it whose lower case starts
with that of the word. A candidate starts with its own beginning, but its lower case need not start with that of the
beginning: in Greek a capital sigma that ends a word has another lower case than one within it. A user who types the
name of a device letter by letter loses the suggestion right behind such a sigma, and has it again one letter later.

* `candidates_append_eq` — what is offered for a word is a part of what is offered without it;
* `stays_offered_iff` — **which beginnings of a word hide it**: those in which a sigma turns, and no others.
-/

namespace DeviceConsole.Editor

open Grammar (Apart IsWord apart_iff splitLastWord_tokenize)
open Text (SigmaTurns startsWithIgnoringCase startsWithIgnoringCase_append_iff)

variable {front word rest : String} {candidate : Candidate}

/-- What is offered for a word is what is offered in front of it, as far as it starts with the word. -/
theorem candidates_append_eq (backend : Backend) (apart : Apart front.toList) (isWord : IsWord word) :
    (candidates backend (front ++ word)).2
      = (candidates backend front).2.filter fun candidate => startsWithIgnoringCase candidate.value word := by
  obtain ⟨left, right, without, behind, respaced⟩ := splitLastWord_tokenize apart isWord
  have byValue : ∀ first second : Candidate, first.value = second.value →
      startsWithIgnoringCase first.value word = startsWithIgnoringCase second.value word := by
    intro first second same
    rw [same]
  have everything : (wordsAfter backend left).filter (fun candidate => startsWithIgnoringCase candidate.value "")
      = wordsAfter backend left := List.filter_eq_self.mpr fun candidate _ => startsWith_empty candidate.value
  rw [candidates_of_split backend behind, candidates_of_split backend without, everything,
    ← wordsAfter_congr backend respaced]
  apply Eq.symm
  apply filter_foldl_addCandidate
  exact byValue

/-- **A candidate stays offered while it is typed, unless a sigma turns.** Behind any text that is empty or ends in a
space, a tab or a colon, a candidate is still offered for a beginning of its word if and only if not: the beginning ends
in a capital sigma, case-ignorable characters not counted, with a cased letter in front of it, and the next letter of
the word that counts is cased. So only names with a capital sigma are ever hidden, at a sigma that another letter
follows. -/
theorem stays_offered_iff (backend : Backend) (apart : ∀ c ∈ front.toList.getLast?, c = ' ' ∨ c = '\t' ∨ c = ':')
    (isWord : IsWord word) (offered : candidate ∈ (candidates backend front).2)
    (starts : candidate.value = word ++ rest) :
    candidate ∈ (candidates backend (front ++ word)).2 ↔ ¬ SigmaTurns word.toList rest.toList := by
  rw [candidates_append_eq backend (apart_iff.mpr apart) isWord, List.mem_filter, starts,
    startsWithIgnoringCase_append_iff]
  exact ⟨fun stays => stays.2, fun noTurn => ⟨offered, noTurn⟩⟩

/-- The site of one air conditioner, which has a Greek alias. -/
def siteOfSigma : Backend := ((siteOfOne.lineOn 1 "discover").2.lineOn 2 "alias ΑΣΑ 10.0.0.1 0130:1").2

/-- With the second letter of the alias it is offered no longer. -/
theorem stays_offered_iff_sigma :
    Reaches siteOfOne siteOfSigma ∧ ⟨"ΑΣΑ", none⟩ ∈ (candidates siteOfSigma "get ").2
      ∧ ⟨"ΑΣΑ", none⟩ ∈ (candidates siteOfSigma ("get " ++ "Α")).2
      ∧ ⟨"ΑΣΑ", none⟩ ∉ (candidates siteOfSigma ("get " ++ "ΑΣ")).2
      ∧ ⟨"ΑΣΑ", none⟩ ∈ (candidates siteOfSigma ("get " ++ "ΑΣΑ")).2 := by
  have apart : ∀ c ∈ "get ".toList.getLast?, c = ' ' ∨ c = '\t' ∨ c = ':' := by simp
  have offered : ⟨"ΑΣΑ", none⟩ ∈ (candidates siteOfSigma "get ").2 := by decide +kernel
  have noTurn : ¬ SigmaTurns "Α".toList "ΣΑ".toList := by
    rw [← startsWithIgnoringCase_append_iff]
    decide +kernel
  have turns : SigmaTurns "ΑΣ".toList "Α".toList :=
    ⟨['Α'], [], rfl, by decide +kernel, by simp, by decide +kernel⟩
  have whole : ¬ SigmaTurns "ΑΣΑ".toList "".toList := by
    rw [← startsWithIgnoringCase_append_iff]
    decide +kernel
  refine ⟨.line 2 _ (.line 1 _ .refl), offered, ?_, ?_, ?_⟩
  · exact (stays_offered_iff siteOfSigma apart (by decide) offered rfl).mpr noTurn
  · exact fun stays => (stays_offered_iff siteOfSigma apart (by decide) offered rfl).mp stays turns
  · exact (stays_offered_iff siteOfSigma apart (by decide) offered rfl).mpr whole

end DeviceConsole.Editor
