import DeviceConsole.Editor.Completion
import DeviceConsole.Proofs.Grammar.Spacing

/-!
# `Proofs.Editor.Completion` — typing on is filtering

What is offered behind a text is found in three steps: the word at its end is taken away, the grammar and the site say
what can stand in its place, and of this stays what starts with the word. So nothing that is typed into a word changes
what is offered but by crossing out.

The word is taken away from the tokens, not from the text, so the two token lists are compared first. A text that ends
in front of a word has the same tokens with and without the word, up to the blanks in front of its end, and
everything behind reads marks alone.

* `tokenizeFrom_append_word` — the tokens of a text with a word behind it;
* `classHint_congr`, `epcBeforeColon_congr`, `expand_congr` — what the tokens say is said by their marks;
* `filter_foldl_addCandidate` — words are crossed out before or after they are collected;
* `candidates_append_word` — **completing a partly typed word is filtering**.
-/

namespace DeviceConsole.Grammar

/-! ## The word at the end of a line -/

/-- A text that no word character ends. -/
def Apart (front : List Char) : Prop := ∀ c ∈ front.getLast?, isWordChar c = false

instance (front : List Char) : Decidable (Apart front) :=
  decidable_of_iff ((front.getLast?.all fun c => !isWordChar c) = true) (by simp [Apart, Option.all_eq_true])

/-- Tokens that no word ends. -/
def EndsApart (tokens : List Token) : Prop := ∀ token ∈ tokens.getLast?, token.isWord = false

theorem Apart.tail {c : Char} {rest : List Char} (h : Apart (c :: rest)) : Apart rest := by
  cases rest with
  | nil => intro d mem; simp at mem
  | cons d more =>
    intro last mem
    apply h
    rwa [List.getLast?_cons_cons]

/-- A token in front does not change how tokens end. -/
theorem EndsApart.replace {token other : Token} {rest : List Token} (ne : rest ≠ []) (h : EndsApart (token :: rest)) :
    EndsApart (other :: rest) := by
  cases rest with
  | nil => exact absurd rfl ne
  | cons next more =>
    intro last mem
    apply h
    rwa [List.getLast?_cons_cons] at mem ⊢

theorem EndsApart.cons {token : Token} {tokens : List Token} (ne : tokens ≠ []) (h : EndsApart tokens) :
    EndsApart (token :: tokens) := by
  cases tokens with
  | nil => exact absurd rfl ne
  | cons next more =>
    intro last mem
    apply h
    rwa [List.getLast?_cons_cons] at mem

/-- One more character in front sees the first token alone, and changes no end. -/
theorem consChar_front {position : Nat} {c : Char} {front : List Token} (ne : front ≠ [])
    (goesOn : ∀ token ∈ front, token.isEnd = false) :
    ∃ changed, changed ≠ [] ∧ (∀ token ∈ changed, token.isEnd = false) ∧ (EndsApart front → EndsApart changed)
      ∧ ∀ rest, consChar position c (front ++ rest) = changed ++ rest := by
  obtain ⟨first, more, rfl⟩ := List.exists_cons_of_ne_nil ne
  -- the character is a token of its own, in front of all others
  have added : ∀ token : Token, token.isEnd = false →
      (∀ rest, consChar position c (first :: more ++ rest) = token :: first :: more ++ rest) →
      ∃ changed, changed ≠ [] ∧ (∀ token ∈ changed, token.isEnd = false)
        ∧ (EndsApart (first :: more) → EndsApart changed)
        ∧ ∀ rest, consChar position c (first :: more ++ rest) = changed ++ rest := by
    intro token notEnd step
    refine ⟨token :: first :: more, by simp, ?_, fun apart => apart.cons (by simp), step⟩
    intro other mem
    rcases List.mem_cons.mp mem with rfl | later
    · exact notEnd
    · exact goesOn other later
  have firstGoesOn := goesOn first List.mem_cons_self
  by_cases blank : isBlank c = true
  · refine ⟨first :: more, by simp, goesOn, id, ?_⟩
    intro rest
    unfold consChar
    rw [if_pos blank]
    cases first with
    | endOfInput stop blanks => cases firstGoesOn
    | word start text => rfl
    | colon start => rfl
  · by_cases colon : (c == ':') = true
    · apply added (.colon position) rfl
      intro rest
      unfold consChar
      rw [if_neg blank, if_pos colon]
      rfl
    · cases first with
      | endOfInput stop blanks => cases firstGoesOn
      | colon start =>
        apply added (.word position (String.ofList [c])) rfl
        intro rest
        unfold consChar
        rw [if_neg blank, if_neg colon]
        rfl
      | word start text =>
        by_cases touches : start = position + 1
        -- the character joins the first word, which stays where the tokens end if it stood there
        · refine ⟨.word position (String.ofList (c :: text.toList)) :: more, by simp, ?_, ?_, ?_⟩
          · intro other mem
            rcases List.mem_cons.mp mem with rfl | later
            · rfl
            · exact goesOn other (List.mem_cons_of_mem _ later)
          · intro apart
            apply apart.replace
            rintro rfl
            have noWord := apart (.word start text) (by simp)
            cases noWord
          · intro rest
            unfold consChar
            rw [if_neg blank, if_neg colon]
            exact if_pos touches
        · apply added (.word position (String.ofList [c])) rfl
          intro rest
          unfold consChar
          rw [if_neg blank, if_neg colon]
          exact if_neg touches

/-- The tokens of characters, without and with a word behind them: the same ones stand in front of the end and in front
of the word. -/
structure WordBehind (position : Nat) (front word : List Char) (init : List Token) (blanks : String) : Prop where
  without : tokenizeFrom position front = init ++ [.endOfInput (position + front.length) blanks]
  behind : tokenizeFrom position (front ++ word)
    = init ++ [.word (position + front.length) (String.ofList word),
        .endOfInput (position + front.length + word.length) ""]
  goesOn : ∀ token ∈ init, token.isEnd = false
  ends : blanks = "" → EndsApart init
  nothing : init = [] → blanks = "" → front = []

/-- **A word behind characters that end apart is one more token**, and the tokens in front of it stay. -/
theorem tokenizeFrom_append_word {front word : List Char} (apart : Apart front) (ne : word ≠ [])
    (isWord : ∀ c ∈ word, isWordChar c = true) (position : Nat) :
    ∃ init blanks, WordBehind position front word init blanks := by
  induction front generalizing position with
  | nil =>
    have behind := tokenizeFrom_word position ne isWord boundary_nil
    rw [List.append_nil] at behind
    exact ⟨[], "", rfl, behind, by simp, fun _ token mem => by simp at mem, fun _ _ => rfl⟩
  | cons c rest ih =>
    obtain ⟨init, blanks, without, behind, goesOn, ends, nothing⟩ := ih apart.tail (position + 1)
    have place : position + 1 + rest.length = position + (c :: rest).length := by
      rw [List.length_cons]
      omega
    rw [place] at without behind
    by_cases empty : init = []
    · subst empty
      by_cases blank : isBlank c = true
      · refine ⟨[], String.ofList (c :: blanks.toList), ?_, ?_, goesOn, ?_, ?_⟩
        · rw [tokenizeFrom, without]
          unfold consChar
          rw [if_pos blank]
          rfl
        · rw [List.cons_append, tokenizeFrom, behind]
          unfold consChar
          rw [if_pos blank]
          rfl
        · intro _ token mem
          simp at mem
        · intro _ none_left
          simp at none_left
      · by_cases colon : (c == ':') = true
        · refine ⟨[.colon position], blanks, ?_, ?_, by simp [Token.isEnd], ?_, by simp⟩
          · rw [tokenizeFrom, without]
            unfold consChar
            rw [if_neg blank, if_pos colon]
            rfl
          · rw [List.cons_append, tokenizeFrom, behind]
            unfold consChar
            rw [if_neg blank, if_pos colon]
            rfl
          · intro _ token mem
            simp at mem
            subst mem
            rfl
        -- a character of a word in front of blanks alone: it is no end, so there are blanks
        · have some_left : rest ≠ [] := by
            rintro rfl
            have noWord := apart c (by simp)
            rw [isWordChar_iff.mpr ⟨Bool.eq_false_iff.mpr blank, Bool.eq_false_iff.mpr colon⟩] at noWord
            cases noWord
          have far : ¬ position + (c :: rest).length = position + 1 := by
            have some_length := List.length_pos_iff.mpr some_left
            rw [List.length_cons]
            omega
          refine ⟨[.word position (String.ofList [c])], blanks, ?_, ?_, by simp [Token.isEnd], ?_, by simp⟩
          · rw [tokenizeFrom, without]
            unfold consChar
            rw [if_neg blank, if_neg colon]
            rfl
          · rw [List.cons_append, tokenizeFrom, behind]
            unfold consChar
            rw [if_neg blank, if_neg colon]
            exact if_neg far
          · intro none_left
            exact absurd (nothing rfl none_left) some_left
    · obtain ⟨changed, changedNe, changedGoesOn, changedEnds, step⟩ :=
        @consChar_front position c init empty goesOn
      refine ⟨changed, blanks, ?_, ?_, changedGoesOn, fun none_left => changedEnds (ends none_left), ?_⟩
      · rw [tokenizeFrom, without, step]
      · rw [List.cons_append, tokenizeFrom, behind, step]
      · intro changedEmpty
        exact absurd changedEmpty changedNe

/-- Without a word at the end of a line nothing is taken away. -/
theorem splitLastWord_apart {init : List Token} {stop : Nat} {blanks : String} (h : blanks = "" → EndsApart init) :
    splitLastWord (init ++ [.endOfInput stop blanks]) = (init ++ [.endOfInput stop blanks], "") := by
  have turned : (init ++ [Token.endOfInput stop blanks]).reverse = .endOfInput stop blanks :: init.reverse := by simp
  have back : (Token.endOfInput stop blanks :: init.reverse).reverse = init ++ [.endOfInput stop blanks] := by simp
  unfold splitLastWord
  rw [turned]
  split
  · next last kept position text before shape =>
    injection shape with sameEnd others
    injection sameEnd with sameStop sameBlanks
    subst sameStop sameBlanks
    rw [← others, back]
    by_cases touches : blanks.isEmpty = true
    -- a word that touches the end would end the tokens in front
    · have endsInWord : init.getLast? = some (.word position text) := by
        rw [← List.head?_reverse, others]
        rfl
      have noWord := h (String.isEmpty_iff.mp touches) _ endsInWord
      cases noWord
    · rw [if_neg touches]
  · rw [back]

/-- The word at the end of a line is taken away. -/
theorem splitLastWord_word (init : List Token) (start stop : Nat) (text : String) :
    splitLastWord (init ++ [.word start text, .endOfInput stop ""]) = (init ++ [.endOfInput start ""], text) := by
  simp [splitLastWord]

/-- The blanks in front of the end of a line do not matter to how its tokens stand. -/
theorem Layout.blanks {stop start : Nat} {tokens : List Token} (h : Layout stop start tokens) {init : List Token}
    {last : Nat} {blanks : String} (shape : tokens = init ++ [.endOfInput last blanks]) (other : String) :
    Layout stop start (init ++ [.endOfInput last other]) := by
  induction h generalizing init with
  | done kept bound =>
    cases init with
    | nil =>
      cases shape
      exact .done other bound
    | cons token rest => simp at shape
  | word bound isWord _ ih =>
    cases init with
    | nil => cases shape
    | cons token rest =>
      injection shape with same others
      subst same
      exact .word bound isWord (ih others)
  | colon bound _ ih =>
    cases init with
    | nil => cases shape
    | cons token rest =>
      injection shape with same others
      subst same
      exact .colon bound (ih others)

/-- The tokens of a line that ends apart, and of the line with a word behind it. -/
theorem tokenize_append_word {line word : String} (apart : Apart line.toList) (isWord : IsWord word) :
    ∃ init blanks start stop, tokenize line = init ++ [.endOfInput start blanks]
      ∧ tokenize (line ++ word) = init ++ [.word start word, .endOfInput stop ""] ∧ (blanks = "" → EndsApart init) := by
  obtain ⟨init, blanks, without, behind, -, ends, -⟩ := tokenizeFrom_append_word apart isWord.1 isWord.2 0
  have longer : tokenize (line ++ word) = tokenizeFrom 0 (line.toList ++ word.toList) := by
    rw [tokenize, String.toList_append]
  rw [String.ofList_toList] at behind
  exact ⟨init, blanks, _, _, without, longer.trans behind, ends⟩

/-- Of a line that ends apart nothing is taken away. -/
theorem splitLastWord_of_apart {line : String} (apart : Apart line.toList) :
    splitLastWord (tokenize line) = (tokenize line, "") := by
  have isWord : IsWord "a" := by decide
  obtain ⟨init, blanks, start, stop, without, -, ends⟩ := tokenize_append_word apart isWord
  rw [without]
  exact splitLastWord_apart ends

/-- **With the word taken away, a line is the one that it was typed on**, but for the blanks in front of the end. -/
theorem splitLastWord_tokenize {front word : String} (apart : Apart front.toList) (isWord : IsWord word) :
    ∃ left right, splitLastWord (tokenize front) = (left, "") ∧ splitLastWord (tokenize (front ++ word)) = (right, word)
      ∧ Respaced left right := by
  obtain ⟨init, blanks, start, stop, without, behind, -⟩ := tokenize_append_word apart isWord
  have layout := layout_tokenize front
  refine ⟨tokenize front, init ++ [.endOfInput start ""], splitLastWord_of_apart apart, ?_, ?_⟩
  · rw [behind]
    exact splitLastWord_word init _ _ word
  · constructor
    · rw [without]
      simp [marks, Token.mark]
    · exact ⟨_, _, layout⟩
    · exact ⟨_, _, layout.blanks without ""⟩

/-- A word behind a line that ends apart is one more mark. -/
theorem marks_append_word {line word : String} (apart : Apart line.toList) (isWord : IsWord word) {front : List Mark}
    (marked : marks (tokenize line) = front ++ [.stop]) :
    marks (tokenize (line ++ word)) = front ++ [.word word, .stop] := by
  obtain ⟨init, blanks, start, stop, without, behind, -⟩ := tokenize_append_word apart isWord
  have same : marks init = front := by
    rw [without, marks, List.map_append] at marked
    exact List.append_cancel_right marked
  rw [behind, marks, List.map_append, ← same]
  rfl

end DeviceConsole.Grammar

namespace DeviceConsole.Editor

open Grammar (Expected IsWord Mark NodeKind Respaced Token commandGrammar marks splitLastWord tokenize)

/-! ## What the tokens say -/

section Context

variable (backend : Backend)

/-- The class that a word names, by its code or through an alias. -/
def classOfMark? : Mark → Option Device.ClassCode
  | .word text => Device.ClassCode.ofText? text <|> (backend.aliases.get? text).map fun device => device.eoj.classCode
  | _ => none

theorem classOfToken?_eq (token : Token) : classOfToken? backend token = classOfMark? backend token.mark := by
  cases token <;> rfl

/-- The class that a line names is read off its marks. -/
theorem classHint_eq (tokens : List Token) :
    classHint backend tokens = ((marks tokens).drop 1).findSome? (classOfMark? backend) := by
  rw [classHint, marks, ← List.map_drop, List.findSome?_map]
  congr 1
  funext token
  exact classOfToken?_eq backend token

/-- The property code whose colon ends the marks. -/
def epcBeforeStop? (line : List Mark) : Option Device.Epc :=
  match line.reverse with
  | .stop :: .colon :: .word text :: _ => Device.Epc.ofText? text
  | _ => none

/-- The property code in front of the cursor is read off the last marks. -/
theorem epcBeforeColon_eq (tokens : List Token) : epcBeforeColon tokens = epcBeforeStop? (marks tokens) := by
  unfold epcBeforeColon epcBeforeStop? marks
  rw [← List.map_reverse]
  rcases tokens.reverse with _ | ⟨last, _ | ⟨second, _ | ⟨third, rest⟩⟩⟩
  · rfl
  · cases last <;> rfl
  · cases last <;> cases second <;> rfl
  · cases last <;> cases second <;> cases third <;> rfl

variable {left right : List Token}

/-- **What a leaf stands for depends on the marks of the line alone.** -/
theorem expand_congr (same : marks left = marks right) (expected : Expected) :
    expand backend left expected = expand backend right expected := by
  have hints : classHint backend left = classHint backend right := by rw [classHint_eq, classHint_eq, same]
  have epcs : epcBeforeColon left = epcBeforeColon right := by rw [epcBeforeColon_eq, epcBeforeColon_eq, same]
  unfold expand expandKind
  rw [hints, epcs]

end Context

/-! ## What is offered -/

/-- The words that the grammar and the site allow behind tokens, in order and maybe more than once. -/
def wordsAfter (backend : Backend) (tokens : List Token) : List Candidate :=
  (commandGrammar.candidates tokens).2.flatMap (expand backend tokens)

theorem wordsAfter_congr (backend : Backend) {left right : List Token} (h : Respaced left right) :
    wordsAfter backend left = wordsAfter backend right := by
  have walks := (commandGrammar.candidates_congr Grammar.chooses_commandGrammar h).1
  have leaves : expand backend left = expand backend right := funext (expand_congr backend h.same)
  rw [wordsAfter, wordsAfter, walks, leaves]

/-- What is offered behind a text whose last word was taken away. -/
theorem candidates_of_split (backend : Backend) {text word : String} {tokens : List Token}
    (split : splitLastWord (tokenize text) = (tokens, word)) :
    candidates backend text
      = (word, ((wordsAfter backend tokens).filter fun candidate =>
          Text.startsWithIgnoringCase candidate.value word).foldl addCandidate []) := by
  rw [candidates, split]
  rfl

section Collecting

variable {found words : List Candidate} {candidate : Candidate}

theorem addCandidate_cases (found : List Candidate) (candidate : Candidate) :
    (candidate.value ∈ found.map Candidate.value ∧ addCandidate found candidate = found)
      ∨ (candidate.value ∉ found.map Candidate.value ∧ addCandidate found candidate = found ++ [candidate]) := by
  unfold addCandidate
  by_cases known : candidate.value ∈ found.map Candidate.value
  · left
    refine ⟨known, if_pos ?_⟩
    obtain ⟨other, mem, same⟩ := List.mem_map.mp known
    exact List.any_eq_true.mpr ⟨other, mem, decide_eq_true same⟩
  · right
    refine ⟨known, if_neg ?_⟩
    intro some_other
    obtain ⟨other, mem, same⟩ := List.any_eq_true.mp some_other
    exact known (List.mem_map.mpr ⟨other, mem, of_decide_eq_true same⟩)

/-- **No word is offered twice.** -/
theorem nodup_foldl_addCandidate (h : (found.map Candidate.value).Nodup) :
    ((words.foldl addCandidate found).map Candidate.value).Nodup := by
  induction words generalizing found with
  | nil => exact h
  | cons candidate rest ih =>
    apply ih
    rcases addCandidate_cases found candidate with ⟨known, step⟩ | ⟨new, step⟩
    · rwa [step]
    · rw [step, List.map_append, List.map_singleton, List.nodup_append]
      refine ⟨h, List.pairwise_singleton _ _, ?_⟩
      intro value mem other single
      rw [List.mem_singleton.mp single]
      rintro rfl
      exact new mem

/-- **Words are crossed out before they are collected or after**, as long as the word alone decides. -/
theorem filter_foldl_addCandidate {keeps : Candidate → Bool}
    (byValue : ∀ first second : Candidate, first.value = second.value → keeps first = keeps second) :
    (words.foldl addCandidate found).filter keeps = (words.filter keeps).foldl addCandidate (found.filter keeps) := by
  induction words generalizing found with
  | nil => rfl
  | cons candidate rest ih =>
    rw [List.foldl_cons, ih]
    by_cases kept : keeps candidate = true
    · rw [List.filter_cons_of_pos kept, List.foldl_cons]
      congr 1
      -- the word stands among those found so far if and only if it stands among those of them that are kept
      have same : candidate.value ∈ found.map Candidate.value
          ↔ candidate.value ∈ (found.filter keeps).map Candidate.value := by
        simp only [List.mem_map, List.mem_filter]
        constructor
        · rintro ⟨other, mem, value⟩
          exact ⟨other, ⟨mem, byValue other candidate value ▸ kept⟩, value⟩
        · rintro ⟨other, ⟨mem, -⟩, value⟩
          exact ⟨other, mem, value⟩
      rcases addCandidate_cases found candidate with ⟨known, step⟩ | ⟨new, step⟩
      · rcases addCandidate_cases (found.filter keeps) candidate with ⟨-, step'⟩ | ⟨new', -⟩
        · rw [step, step']
        · exact absurd (same.mp known) new'
      · rcases addCandidate_cases (found.filter keeps) candidate with ⟨known', -⟩ | ⟨-, step'⟩
        · exact absurd (same.mpr known') new
        · rw [step, step', List.filter_append, List.filter_cons_of_pos kept, List.filter_nil]
    · rw [List.filter_cons_of_neg kept]
      congr 1
      rcases addCandidate_cases found candidate with ⟨-, step⟩ | ⟨-, step⟩
      · rw [step]
      · rw [step, List.filter_append, List.filter_cons_of_neg kept, List.filter_nil, List.append_nil]

end Collecting

/-- Every text starts with the empty one. -/
theorem startsWith_empty (text : String) : Text.startsWithIgnoringCase text "" = true := rfl

/-- **Completing a partly typed word is filtering.** Behind any text that is empty or ends in a blank or a colon, a word
that is being typed is given back, and what is offered for it are the candidates for the text without it that start
with the word in either case, in their order and with their descriptions. In neither list does a word stand twice. -/
theorem candidates_append_word (backend : Backend) {front word : String}
    (apart : ∀ c ∈ front.toList.getLast?, Grammar.isWordChar c = false) (isWord : IsWord word) :
    (candidates backend (front ++ word)).1 = word
      ∧ (candidates backend (front ++ word)).2
        = (candidates backend front).2.filter (fun candidate => Text.startsWithIgnoringCase candidate.value word)
      ∧ ((candidates backend (front ++ word)).2.map Candidate.value).Nodup
      ∧ ((candidates backend front).2.map Candidate.value).Nodup := by
  obtain ⟨left, right, without, behind, respaced⟩ := Grammar.splitLastWord_tokenize apart isWord
  have all : (wordsAfter backend left).filter (fun candidate => Text.startsWithIgnoringCase candidate.value "")
      = wordsAfter backend left := List.filter_eq_self.mpr fun candidate _ => startsWith_empty candidate.value
  have offered := candidates_of_split backend without
  have typed := candidates_of_split backend behind
  rw [all] at offered
  rw [← wordsAfter_congr backend respaced] at typed
  rw [offered, typed]
  refine ⟨rfl, ?_, ?_, ?_⟩
  · apply Eq.symm
    apply filter_foldl_addCandidate
    intro first second same
    rw [same]
  · exact nodup_foldl_addCandidate List.nodup_nil
  · exact nodup_foldl_addCandidate List.nodup_nil

/-- Of the modes of an air conditioner one starts with a capital or small `c`. -/
theorem candidates_append_word_modes :
    (candidates Backend.empty "set 0130 B0:").2 = plainCandidates ["auto", "cooling", "heating", "dry", "fan"]
      ∧ (candidates Backend.empty "set 0130 B0:C").1 = "C"
      ∧ (candidates Backend.empty "set 0130 B0:C").2 = plainCandidates ["cooling"] := by
  have all : (candidates Backend.empty "set 0130 B0:").2
      = plainCandidates ["auto", "cooling", "heating", "dry", "fan"] := by decide +kernel
  have kept : (plainCandidates ["auto", "cooling", "heating", "dry", "fan"]).filter
      (fun candidate => Text.startsWithIgnoringCase candidate.value "C") = plainCandidates ["cooling"] := by
    decide +kernel
  have apart : Grammar.Apart "set 0130 B0:".toList := by decide
  obtain ⟨word, offered, -⟩ := @candidates_append_word Backend.empty "set 0130 B0:" "C" apart (by decide)
  rw [all, kept] at offered
  exact ⟨all, word, offered⟩

end DeviceConsole.Editor
