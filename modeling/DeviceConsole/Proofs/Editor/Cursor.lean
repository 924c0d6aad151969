import DeviceConsole.Proofs.Editor.Completion

/-!
# `Proofs.Editor.Cursor` — the word under the cursor

A suggestion says which bytes of the line it replaces. Its end is the cursor, and its beginning is found by going back
as many bytes as the word has that was taken from the tokens. Nothing there looks at the line again, so it has to be
shown that this word is the end of the text in front of the cursor, down to the last byte: every text is a part that
ends apart and a run of word characters behind it, and the run is what the tokens give back.

* `exists_apart`, `exists_typed` — a text and the word that ends it;
* `Cut`, `takeBytes?_append` — a line cut at a byte;
* `complete_of_cut` — only the text in front of the cursor counts;
* `suggestions_replace_word` — **a suggestion replaces exactly the word under the cursor**.
-/

namespace DeviceConsole.Grammar

/-! ## The word that ends a text -/

/-- **Every text ends in a run of word characters**, maybe an empty one, behind a part that ends apart. -/
theorem exists_apart (chars : List Char) :
    ∃ front run, chars = front ++ run ∧ Apart front ∧ ∀ c ∈ run, isWordChar c = true := by
  induction chars using List.reverseRecOn with
  | nil => exact ⟨[], [], rfl, by simp [Apart], by simp⟩
  | append_singleton chars last ih =>
    by_cases isChar : isWordChar last = true
    · obtain ⟨front, run, rfl, apart, isWord⟩ := ih
      refine ⟨front, run ++ [last], List.append_assoc .., apart, ?_⟩
      intro c mem
      rcases List.mem_append.mp mem with inRun | isLast
      · exact isWord c inRun
      · rw [List.mem_singleton.mp isLast]
        exact isChar
    · refine ⟨chars ++ [last], [], by simp, ?_, by simp⟩
      intro c mem
      rw [List.getLast?_concat, Option.mem_some_iff] at mem
      rw [← mem]
      exact Bool.eq_false_iff.mpr isChar

/-- **The word that the tokens of a text give back is its end**: a run of word characters, and what stands in front of
it ends apart. -/
theorem exists_typed (text : String) :
    ∃ front, text = front ++ (splitLastWord (tokenize text)).2 ∧ Apart front.toList
      ∧ ∀ c ∈ (splitLastWord (tokenize text)).2.toList, isWordChar c = true := by
  obtain ⟨front, run, shape, apart, isWord⟩ := exists_apart text.toList
  rw [← String.toList_ofList (l := front)] at apart
  by_cases nothing : run = []
  · subst nothing
    rw [List.append_nil] at shape
    rw [← shape, String.ofList_toList] at apart
    rw [splitLastWord_of_apart apart]
    exact ⟨text, String.append_empty.symm, apart, by simp⟩
  · have parts : text = String.ofList front ++ String.ofList run := by
      rw [← String.ofList_append, ← shape, String.ofList_toList]
    have word : IsWord (String.ofList run) := by
      rw [IsWord, String.toList_ofList]
      exact ⟨nothing, isWord⟩
    obtain ⟨left, right, -, split, -⟩ := splitLastWord_tokenize apart word
    rw [← parts] at split
    rw [split]
    exact ⟨String.ofList front, parts, apart, word.2⟩

/-- A text ends apart if and only if it is empty or ends in a blank or a colon. -/
theorem apart_iff {front : List Char} : Apart front ↔ ∀ c ∈ front.getLast?, c = ' ' ∨ c = '\t' ∨ c = ':' := by
  have separators : ∀ c, isWordChar c = false ↔ c = ' ' ∨ c = '\t' ∨ c = ':' := by
    intro c
    simp only [isWordChar, isBlank, Bool.and_eq_false_iff, Bool.not_eq_false', bne_eq_false_iff_eq, Bool.or_eq_true,
      beq_iff_eq, or_assoc]
  simp only [Apart, separators]

end DeviceConsole.Grammar

namespace DeviceConsole.Editor

open Grammar (Apart apart_iff exists_typed)

/-! ## Places in a line -/

/-- The line is cut at the byte: so many bytes stand in front, and the cut goes through no character. -/
structure Cut (line : String) (place : Nat) (before behind : String) : Prop where
  whole : line = before ++ behind
  place : place = before.utf8ByteSize

/-- The characters in front of a cut are found by counting their bytes. -/
theorem takeBytes?_append (front rest : List Char) :
    takeBytes? (String.ofList front).utf8ByteSize (front ++ rest) = some front := by
  induction front with
  | nil => rw [String.ofList_nil, String.utf8ByteSize_empty, takeBytes?]
  | cons c more ih =>
    have some_byte := c.utf8Size_pos
    obtain ⟨count, bytes⟩ := Nat.exists_eq_add_of_lt some_byte
    rw [Nat.zero_add] at bytes
    have total : (String.ofList (c :: more)).utf8ByteSize = count + (String.ofList more).utf8ByteSize + 1 := by
      rw [String.ofList_cons, String.utf8ByteSize_append, String.utf8ByteSize_singleton, bytes]
      omega
    have left : count + (String.ofList more).utf8ByteSize + 1 - c.utf8Size = (String.ofList more).utf8ByteSize := by
      omega
    rw [total, List.cons_append, takeBytes?, if_pos (by omega), left, ih]
    rfl

variable {line before behind : String} {place : Nat}

/-- **Only the text in front of the cursor counts.** -/
theorem complete_of_cut (backend : Backend) (cut : Cut line place before behind) :
    complete backend line place = (candidates backend before).2.map fun candidate =>
      ⟨candidate, place - (candidates backend before).1.utf8ByteSize, place⟩ := by
  have inFront : takeBytes? place line.toList = some before.toList := by
    rw [cut.whole, cut.place, String.toList_append]
    have found := takeBytes?_append before.toList behind.toList
    rwa [String.ofList_toList] at found
  rw [complete, inFront, Option.map_some, Option.getD_some, String.ofList_toList]

/-- **A suggestion replaces exactly the word under the cursor.** Wherever the cursor stands between two characters of a
line, the words suggested are those offered behind the text in front of it, and they do not depend on what follows it.
Each of them replaces the bytes from the end of some text to the cursor: the word for which the words are offered
stands there, and the text in front of it is empty or ends in a space, a tab or a colon. -/
theorem suggestions_replace_word (backend : Backend) (cut : Cut line place before behind) :
    (complete backend line place).map Suggestion.candidate = (candidates backend before).2
      ∧ (∀ suggestion ∈ complete backend line place, suggestion.last = place
        ∧ ∃ front, before = front ++ (candidates backend before).1
          ∧ Cut line suggestion.first front ((candidates backend before).1 ++ behind)
          ∧ ∀ c ∈ front.toList.getLast?, c = ' ' ∨ c = '\t' ∨ c = ':')
      ∧ ∀ other, complete backend (before ++ other) place = complete backend line place := by
  have suggested := complete_of_cut backend cut
  refine ⟨?_, ?_, ?_⟩
  · rw [suggested, List.map_map]
    exact List.map_id _
  · intro suggestion mem
    rw [suggested] at mem
    obtain ⟨candidate, -, rfl⟩ := List.mem_map.mp mem
    obtain ⟨front, parts, apart, -⟩ := exists_typed before
    have parts : before = front ++ (candidates backend before).1 := parts
    refine ⟨rfl, front, parts, ⟨?_, ?_⟩, apart_iff.mp apart⟩
    · rw [← String.append_assoc, ← parts]
      exact cut.whole
    · have bytes := congrArg String.utf8ByteSize parts
      rw [String.utf8ByteSize_append] at bytes
      show place - _ = _
      rw [cut.place]
      omega
  · intro other
    rw [suggested]
    exact complete_of_cut backend ⟨rfl, cut.place⟩

/-- A site with an alias whose characters take three bytes each. -/
def siteOfKana : Backend :=
  { Backend.empty with aliases := Backend.empty.aliases.insert "エアコン" ⟨.v4 ⟨10, 0, 0, 1⟩, ⟨⟨0x0130⟩, 1⟩⟩ }

/-- Behind `get エア` the alias replaces the last six bytes, whatever follows. -/
theorem suggestions_replace_word_kana :
    Cut "get エアx 80" 10 "get エア" "x 80"
      ∧ complete siteOfKana "get エアx 80" 10 = [⟨⟨"エアコン", none⟩, 4, 10⟩]
      ∧ (∃ front, "get エア" = front ++ "エア" ∧ Cut "get エアx 80" 4 front ("エア" ++ "x 80"))
      ∧ complete siteOfKana ("get エア" ++ "コン") 10 = complete siteOfKana "get エアx 80" 10 := by
  have cut : Cut "get エアx 80" 10 "get エア" "x 80" := ⟨by decide, by decide⟩
  have one : complete siteOfKana "get エアx 80" 10 = [⟨⟨"エアコン", none⟩, 4, 10⟩] := by decide +kernel
  have word : (candidates siteOfKana "get エア").1 = "エア" := by decide +kernel
  obtain ⟨-, replaced, others⟩ := suggestions_replace_word siteOfKana cut
  obtain ⟨-, front, parts, start, -⟩ := replaced ⟨⟨"エアコン", none⟩, 4, 10⟩ (by simp [one])
  rw [word] at parts start
  exact ⟨cut, one, ⟨front, parts, start⟩, others "コン"⟩

end DeviceConsole.Editor
