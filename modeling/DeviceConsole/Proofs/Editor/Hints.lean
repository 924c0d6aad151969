import DeviceConsole.Editor.Hint
import DeviceConsole.Proofs.Editor.Cursor
import DeviceConsole.Proofs.Editor.Offers
import DeviceConsole.Proofs.Grammar.Origins
import DeviceConsole.Proofs.Text.LowerCase
import Mathlib.Data.List.Perm.Basic

/-!
# `Proofs.Editor.Hints` — hints agree with completion

A hint and the words that are offered are found apart from each other. Both take the same word away from the line and
ask the grammar what is expected in its place, but the hint looks at keywords alone, at those that go on after the word
in the same case, and it is given if there is one of them. Nothing is expected twice, so one of them means one keyword.

* `rest?_eq_some_iff`, `filterMap_rest?_eq_singleton` — the one keyword that goes on after the word;
* `tokenize_append`, `keyword_offered` — what the keyword does to the line, and that it is offered;
* `firstWord_append` — the part of a hint that is taken first;
* `keyword_hint_agrees` — **when a keyword is hinted, and what accepting it does**.
-/

namespace DeviceConsole.Grammar

/-- **A word behind a text that ends apart** stands between the tokens of the text and the end. -/
theorem tokenize_append {front word : String} (apart : Apart front.toList) (isWord : IsWord word) :
    tokenize (front ++ word) = (tokenize front).dropLast
      ++ [.word front.length word, .endOfInput (front.length + word.length) ""] := by
  obtain ⟨init, blanks, without, behind, -⟩ := tokenizeFrom_append_word apart isWord.1 isWord.2 0
  have before : tokenize front = init ++ [.endOfInput (0 + front.toList.length) blanks] := without
  have after : tokenize (front ++ word) = tokenizeFrom 0 (front.toList ++ word.toList) := by
    rw [tokenize, String.toList_append]
  rw [after, behind, before, List.dropLast_concat, String.ofList_toList, Nat.zero_add, String.length_toList,
    String.length_toList]

end DeviceConsole.Grammar

namespace DeviceConsole.Editor

open Grammar (Apart Expected IsWord Layout commandGrammar exists_typed keyword_of_expected keywordsBehind nodup_keywords
  splitLastWord splitLastWord_tokenize tokenize tokenize_append)

/-- The word that ends a line. -/
def typedWord (line : String) : String := (splitLastWord (tokenize line)).2

/-- The keywords that are expected in the place of the word that ends a line. -/
def keywordsAt (line : String) : List String := keywordsBehind (splitLastWord (tokenize line)).1

/-- A text goes on after a word. -/
def Extends (word text : String) : Prop := ∃ rest, rest ≠ "" ∧ text = word ++ rest

variable {line word keyword rest : String} {keywords : List String}

/-! ## The keyword that goes on -/

/-- A text has a rest if and only if it goes on after its beginning. -/
theorem rest?_eq_some_iff {text : String} : rest? word text = some rest ↔ rest ≠ "" ∧ text = word ++ rest := by
  unfold rest?
  constructor
  · intro h
    split at h
    · next starts =>
      obtain ⟨more, chars⟩ := List.isPrefixOf_iff_prefix.mp starts
      rw [← chars, List.drop_left] at h
      split at h
      · cases h
      · next some_char =>
        cases h
        refine ⟨fun empty => some_char ?_, ?_⟩
        · rw [← String.toList_ofList (l := more), empty]
          rfl
        · rw [String.ext_iff, String.toList_append, String.toList_ofList, chars]
    · cases h
  · rintro ⟨some_char, rfl⟩
    have starts : word.toList.isPrefixOf (word ++ rest).toList = true := by
      rw [String.toList_append, List.isPrefixOf_iff_prefix]
      exact List.prefix_append _ _
    rw [if_pos starts, String.toList_append, List.drop_left]
    split
    · next none_left => exact absurd (String.toList_eq_nil_iff.mp none_left) some_char
    · rw [String.ofList_toList]

/-- **Of keywords without repetition one alone has a rest** if and only if one alone goes on after the word. -/
theorem filterMap_rest?_eq_singleton (nodup : keywords.Nodup) :
    keywords.filterMap (rest? word) = [rest]
      ↔ ∀ keyword, keyword ∈ keywords ∧ Extends word keyword ↔ keyword = word ++ rest := by
  have rests : (keywords.filterMap (rest? word)).Nodup := by
    refine nodup.filterMap fun first second shared own its => ?_
    rw [(rest?_eq_some_iff.mp own).2, (rest?_eq_some_iff.mp its).2]
  have single : keywords.filterMap (rest? word) = [rest] ↔ ∀ other, other ∈ keywords.filterMap (rest? word)
      ↔ other = rest := by
    rw [← List.perm_singleton, List.perm_ext_iff_of_nodup rests (List.nodup_singleton rest)]
    simp only [List.mem_singleton]
  have mem (other : String) : other ∈ keywords.filterMap (rest? word) ↔ other ≠ "" ∧ word ++ other ∈ keywords := by
    rw [List.mem_filterMap]
    constructor
    · rintro ⟨keyword, listed, its⟩
      obtain ⟨some_char, rfl⟩ := rest?_eq_some_iff.mp its
      exact ⟨some_char, listed⟩
    · rintro ⟨some_char, listed⟩
      exact ⟨_, listed, rest?_eq_some_iff.mpr ⟨some_char, rfl⟩⟩
  simp only [single, mem]
  constructor
  · intro only keyword
    constructor
    · rintro ⟨listed, other, some_char, rfl⟩
      rw [(only other).mp ⟨some_char, listed⟩]
    · rintro rfl
      obtain ⟨some_char, listed⟩ := (only rest).mpr rfl
      exact ⟨listed, rest, some_char, rfl⟩
  · intro only other
    have cancel {other : String} : word ++ other = word ++ rest ↔ other = rest := String.append_right_inj word
    constructor
    · rintro ⟨some_char, listed⟩
      exact cancel.mp ((only _).mp ⟨listed, other, some_char, rfl⟩)
    · rintro rfl
      obtain ⟨listed, others, some_char, same⟩ := (only _).mpr rfl
      rw [cancel.mp same.symm] at some_char
      exact ⟨some_char, listed⟩

/-- With a word typed, the rests of the keywords that go on after it decide. -/
theorem keywordHint?_eq_some_iff :
    keywordHint? line = some rest
      ↔ typedWord line ≠ "" ∧ (keywordsAt line).filterMap (rest? (typedWord line)) = [rest] := by
  unfold keywordHint? keywordsAt typedWord keywordsBehind
  rcases splitLastWord (tokenize line) with ⟨tokens, word⟩
  simp only
  by_cases nothing : word = ""
  · simp [nothing]
  · rw [if_neg (by simpa using nothing)]
    split
    · next single =>
      rw [single, Option.some.injEq, List.singleton_inj]
      exact ⟨fun same => ⟨nothing, same⟩, fun same => same.2⟩
    · next several =>
      constructor
      · intro impossible
        cases impossible
      · rintro ⟨-, single⟩
        exact absurd single (several rest)

/-- The tokens without the word are those of a line. -/
theorem layout_splitLastWord (line : String) : ∃ stop start, Layout stop start (splitLastWord (tokenize line)).1 := by
  obtain ⟨front, parts, apart, chars⟩ := exists_typed line
  by_cases nothing : (splitLastWord (tokenize line)).2 = ""
  · rw [nothing, String.append_empty] at parts
    rw [parts, Grammar.splitLastWord_of_apart apart]
    exact ⟨_, _, Grammar.layout_tokenize front⟩
  · have isWord : IsWord (splitLastWord (tokenize line)).2 :=
      ⟨fun none_left => nothing (String.toList_eq_nil_iff.mp none_left), chars⟩
    obtain ⟨left, right, -, split, respaced⟩ := splitLastWord_tokenize apart isWord
    rw [← parts] at split
    rw [split]
    exact respaced.right

theorem nodup_keywordsAt (line : String) : (keywordsAt line).Nodup := by
  obtain ⟨stop, start, layout⟩ := layout_splitLastWord line
  exact nodup_keywords layout

/-! ## The keyword in the line -/

theorem exists_leaf_of_keyword (mem : keyword ∈ keywordsAt line) :
    ∃ leaf ∈ (commandGrammar.candidates (splitLastWord (tokenize line)).1).2, leaf.label = some keyword :=
  List.mem_filterMap.mp mem

/-- **A keyword that goes on after the word is offered.** -/
theorem keyword_offered (backend : Backend) (mem : typedWord line ++ rest ∈ keywordsAt line) :
    typedWord line ++ rest ∈ offeredWords backend line := by
  obtain ⟨leaf, expected, labelled⟩ := exists_leaf_of_keyword mem
  obtain ⟨-, noSigma, noTopic⟩ := keyword_of_expected expected labelled
  have ownWord : expand backend (splitLastWord (tokenize line)).1 leaf
      = [⟨typedWord line ++ rest, none⟩] := by
    rw [expand, if_neg noTopic, labelled]
    rfl
  have among : ⟨typedWord line ++ rest, none⟩ ∈ wordsAfter backend (splitLastWord (tokenize line)).1 := by
    refine List.mem_flatMap.mpr ⟨leaf, expected, ?_⟩
    rw [ownWord]
    exact List.mem_singleton_self _
  have starts : Text.startsWithIgnoringCase (typedWord line ++ rest) (typedWord line) = true := by
    apply Text.startsWithIgnoringCase_append
    rw [String.toList_append] at noSigma
    exact fun own => noSigma (List.mem_append_left _ own)
  rw [offeredWords, candidates_of_split backend rfl, mem_foldl_addCandidate]
  exact .inr (List.mem_map.mpr ⟨_, List.mem_filter.mpr ⟨among, starts⟩, rfl⟩)

/-- **A keyword takes the place of the word**, and the end of the line moves. -/
theorem tokenize_append_rest (some_char : typedWord line ≠ "") (mem : typedWord line ++ rest ∈ keywordsAt line) :
    ∃ front start stop, tokenize line = front ++ [.word start (typedWord line), .endOfInput stop ""]
      ∧ tokenize (line ++ rest)
        = front ++ [.word start (typedWord line ++ rest), .endOfInput (stop + rest.length) ""] := by
  obtain ⟨front, parts, apart, chars⟩ := exists_typed line
  have parts : line = front ++ typedWord line := parts
  obtain ⟨leaf, expected, labelled⟩ := exists_leaf_of_keyword mem
  obtain ⟨isKeyword, -, -⟩ := keyword_of_expected expected labelled
  have isWord : IsWord (typedWord line) :=
    ⟨fun none_left => some_char (String.toList_eq_nil_iff.mp none_left), chars⟩
  have before := tokenize_append apart isWord
  have after := tokenize_append apart isKeyword
  rw [← parts] at before
  rw [← String.append_assoc, ← parts, String.length_append, ← Nat.add_assoc] at after
  exact ⟨_, _, _, before, after⟩

/-- The first word of a hint is a beginning of it. -/
theorem firstWord_append (hint : String) : ∃ behind, hint = firstWord hint ++ behind := by
  have blanks := List.prefix_iff_eq_append.mp (List.takeWhile_prefix (l := hint.toList) Text.isWhiteSpace)
  have word := List.takeWhile_append_dropWhile (p := fun c => !Text.isWhiteSpace c)
    (l := hint.toList.drop (hint.toList.takeWhile Text.isWhiteSpace).length)
  refine ⟨String.ofList ((hint.toList.drop (hint.toList.takeWhile Text.isWhiteSpace).length).dropWhile
    fun c => !Text.isWhiteSpace c), ?_⟩
  rw [String.ext_iff, String.toList_append, String.toList_ofList, firstWord, String.toList_ofList, List.append_assoc,
    word, blanks]

/-! ## Hints -/

/-- **Hints agree with completion.** A keyword is hinted if and only if some word ends the line and one keyword alone
among those that are expected in its place goes on after it; the hint is the rest of this keyword. Then the keyword is
among the words that are offered, and behind the hint the line has the same tokens but for the keyword in the place of
the word. Where two keywords go on after the word, none is hinted. The part of a hint that can be taken first is a
beginning of it. -/
theorem keyword_hint_agrees (backend : Backend) (line : String) :
    (∀ rest, keywordHint? line = some rest ↔ typedWord line ≠ ""
      ∧ ∀ keyword, keyword ∈ keywordsAt line ∧ Extends (typedWord line) keyword ↔ keyword = typedWord line ++ rest)
    ∧ (∀ rest, keywordHint? line = some rest →
      typedWord line ++ rest ∈ offeredWords backend line
      ∧ ∃ front start stop, tokenize line = front ++ [.word start (typedWord line), .endOfInput stop ""]
        ∧ tokenize (line ++ rest)
          = front ++ [.word start (typedWord line ++ rest), .endOfInput (stop + rest.length) ""])
    ∧ (∀ first ∈ keywordsAt line, ∀ second ∈ keywordsAt line, Extends (typedWord line) first →
      Extends (typedWord line) second → first ≠ second → keywordHint? line = none)
    ∧ ∀ history place, ∃ behind, hint history line place = firstWord (hint history line place) ++ behind := by
  have given (rest : String) : keywordHint? line = some rest ↔ typedWord line ≠ ""
      ∧ ∀ keyword, keyword ∈ keywordsAt line ∧ Extends (typedWord line) keyword ↔ keyword = typedWord line ++ rest := by
    rw [keywordHint?_eq_some_iff, filterMap_rest?_eq_singleton (nodup_keywordsAt line)]
  refine ⟨given, ?_, ?_, fun history place => firstWord_append _⟩
  · intro rest hinted
    obtain ⟨some_char, only⟩ := (given rest).mp hinted
    obtain ⟨mem, -⟩ := (only _).mpr rfl
    exact ⟨keyword_offered backend mem, tokenize_append_rest some_char mem⟩
  · intro first mem second listed own its ne
    rw [Option.eq_none_iff_forall_ne_some]
    intro rest hinted
    obtain ⟨-, only⟩ := (given rest).mp hinted
    rw [(only first).mp ⟨mem, own⟩, (only second).mp ⟨listed, its⟩] at ne
    exact ne rfl

/-- Of all commands `discover` alone goes on after `disc`, and behind `de` there are `devices` and `debug`. -/
theorem keyword_hint_agrees_discover :
    keywordHint? "disc" = some "over" ∧ "disc" ++ "over" ∈ offeredWords Backend.empty "disc"
      ∧ (∃ front start stop, tokenize "disc" = front ++ [.word start "disc", .endOfInput stop ""]
        ∧ tokenize ("disc" ++ "over")
          = front ++ [.word start ("disc" ++ "over"), .endOfInput (stop + "over".length) ""])
      ∧ keywordHint? "de" = none := by
  have word : typedWord "disc" = "disc" := rfl
  have hinted : keywordHint? "disc" = some "over" := by decide +kernel
  obtain ⟨-, accepted, -⟩ := keyword_hint_agrees Backend.empty "disc"
  obtain ⟨offered, tokens⟩ := accepted "over" hinted
  obtain ⟨-, -, several, -⟩ := keyword_hint_agrees Backend.empty "de"
  have devices : Extends (typedWord "de") "devices" := ⟨"vices", by decide, rfl⟩
  have debug : Extends (typedWord "de") "debug" := ⟨"bug", by decide, rfl⟩
  rw [word] at offered tokens
  exact ⟨hinted, offered, tokens,
    several "devices" (by decide +kernel) "debug" (by decide +kernel) devices debug (by decide)⟩

end DeviceConsole.Editor
