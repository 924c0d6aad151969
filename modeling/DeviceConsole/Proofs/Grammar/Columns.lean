import DeviceConsole.Proofs.Grammar.Marks

/-!
# `Proofs.Grammar.Columns` — how the tokens of a line stand

The tokens of a line stand at ascending columns, words are whole, and the end of the line is the last token, behind
all characters. The tokens are made from the end of the line, so this is kept by one more character in front.

* `Layout` — tokens as they stand from some column to the end of the line;
* `layout_tokenize` — so stand the tokens of every line;
* `Layout.eq_append`, `Layout.pairwise`, `Layout.find?_column` — what this says of the last token and of the columns;
* `Layout.drop` — what is left of a line.
-/

namespace DeviceConsole.Grammar

/-- The tokens stand one behind the other, from the column `start` on: words and colons at ascending columns, and
last, at the column `stop`, the end of the line. -/
inductive Layout (stop : Nat) : Nat → List Token → Prop
  | done {start : Nat} (blanks : String) : start ≤ stop → Layout stop start [.endOfInput stop blanks]
  | word {start position : Nat} {text : String} {rest : List Token} :
      start ≤ position → IsWord text → Layout stop (position + 1) rest →
      Layout stop start (.word position text :: rest)
  | colon {start position : Nat} {rest : List Token} :
      start ≤ position → Layout stop (position + 1) rest → Layout stop start (.colon position :: rest)

variable {start stop : Nat} {tokens : List Token}

theorem Layout.mono {earlier : Nat} (h : Layout stop start tokens) (le : earlier ≤ start) :
    Layout stop earlier tokens := by
  cases h with
  | done blanks bound => exact .done blanks (Nat.le_trans le bound)
  | word bound isWord rest => exact .word (Nat.le_trans le bound) isWord rest
  | colon bound rest => exact .colon (Nat.le_trans le bound) rest

/-- A word character on its own is a word. -/
theorem isWord_single {c : Char} (h : isWordChar c = true) : IsWord (String.ofList [c]) := by
  rw [IsWord, String.toList_ofList]
  refine ⟨by simp, fun d mem => ?_⟩
  rwa [List.mem_singleton.mp mem]

theorem isWord_cons {c : Char} {text : String} (h : isWordChar c = true) (isWord : IsWord text) :
    IsWord (String.ofList (c :: text.toList)) := by
  rw [IsWord, String.toList_ofList]
  refine ⟨by simp, fun d mem => ?_⟩
  rcases List.mem_cons.mp mem with rfl | later
  · exact h
  · exact isWord.2 d later

/-- **One more character in front keeps the order of the tokens.** -/
theorem Layout.consChar {position : Nat} (c : Char) (h : Layout stop (position + 1) tokens) :
    Layout stop position (consChar position c tokens) := by
  unfold Grammar.consChar
  by_cases blank : isBlank c = true
  · rw [if_pos blank]
    split
    · next last blanks =>
      cases h with
      | done _ bound => exact .done _ (Nat.le_of_succ_le bound)
    · exact h.mono (Nat.le_succ position)
  · rw [if_neg blank]
    by_cases colon : (c == ':') = true
    · rw [if_pos colon]
      exact .colon (Nat.le_refl position) h
    · rw [if_neg colon]
      have isChar : isWordChar c = true :=
        isWordChar_iff.mpr ⟨Bool.eq_false_iff.mpr blank, Bool.eq_false_iff.mpr colon⟩
      split
      · next first text rest =>
        by_cases touches : first = position + 1
        -- the character joins the word behind it, which starts one column earlier then
        · rw [if_pos touches]
          cases h with
          | word bound isWord others =>
            exact .word (Nat.le_refl position) (isWord_cons isChar isWord) (others.mono (by omega))
        · rw [if_neg touches]
          exact .word (Nat.le_refl position) (isWord_single isChar) h
      · exact .word (Nat.le_refl position) (isWord_single isChar) h

theorem layout_tokenizeFrom (chars : List Char) (position : Nat) :
    Layout (position + chars.length) position (tokenizeFrom position chars) := by
  induction chars generalizing position with
  | nil => exact .done "" (Nat.le_refl position)
  | cons c rest ih =>
    have behind := ih (position + 1)
    rw [Nat.add_assoc, Nat.add_comm 1] at behind
    exact behind.consChar c

/-- **The tokens of a line** stand from its first column to the column behind its last character. -/
theorem layout_tokenize (line : String) : Layout line.length 0 (tokenize line) := by
  have layout := layout_tokenizeFrom line.toList 0
  rwa [Nat.zero_add, String.length_toList] at layout

namespace Layout

/-- Every word is whole. -/
theorem isWord_of_mem (h : Layout stop start tokens) {position : Nat} {text : String}
    (mem : .word position text ∈ tokens) : IsWord text := by
  induction h with
  | done blanks bound => simp at mem
  | word bound isWord _ ih =>
    rcases List.mem_cons.mp mem with same | later
    · cases same
      exact isWord
    · exact ih later
  | colon bound _ ih => exact ih ((List.mem_cons.mp mem).resolve_left (by simp))

theorem le_position (h : Layout stop start tokens) {token : Token} (mem : token ∈ tokens) :
    start ≤ token.position := by
  induction h with
  | done blanks bound =>
    cases List.mem_singleton.mp mem
    exact bound
  | word bound isWord _ ih =>
    rcases List.mem_cons.mp mem with rfl | later
    · exact bound
    · exact Nat.le_trans bound (Nat.le_of_succ_le (ih later))
  | colon bound _ ih =>
    rcases List.mem_cons.mp mem with rfl | later
    · exact bound
    · exact Nat.le_trans bound (Nat.le_of_succ_le (ih later))

/-- **Columns strictly ascend.** -/
theorem pairwise (h : Layout stop start tokens) : tokens.Pairwise fun a b => a.position < b.position := by
  induction h with
  | done blanks bound => exact List.pairwise_singleton _ _
  | word bound isWord rest ih => exact List.pairwise_cons.mpr ⟨fun token mem => rest.le_position mem, ih⟩
  | colon bound rest ih => exact List.pairwise_cons.mpr ⟨fun token mem => rest.le_position mem, ih⟩

/-- **The last token is the end of the line**, at its last column, and no other token is. -/
theorem eq_append (h : Layout stop start tokens) :
    ∃ front blanks, tokens = front ++ [.endOfInput stop blanks] ∧ ∀ token ∈ front, token.isEnd = false := by
  induction h with
  | done blanks bound => exact ⟨[], blanks, rfl, by simp⟩
  | @word _ position text _ bound isWord _ ih =>
    obtain ⟨front, blanks, rfl, noEnd⟩ := ih
    refine ⟨.word position text :: front, blanks, rfl, fun token mem => ?_⟩
    rcases List.mem_cons.mp mem with rfl | later
    · rfl
    · exact noEnd token later
  | @colon _ position _ bound _ ih =>
    obtain ⟨front, blanks, rfl, noEnd⟩ := ih
    refine ⟨.colon position :: front, blanks, rfl, fun token mem => ?_⟩
    rcases List.mem_cons.mp mem with rfl | later
    · rfl
    · exact noEnd token later

/-- There is always a token: the end of the line. -/
theorem length_pos (h : Layout stop start tokens) : 0 < tokens.length := by
  cases h with
  | done blanks bound => exact Nat.zero_lt_one
  | word bound isWord rest => exact Nat.succ_pos _
  | colon bound rest => exact Nat.succ_pos _

/-- What is left of a line behind some tokens, but not all, stands there as well. -/
theorem drop (h : Layout stop start tokens) {count : Nat} (less : count < tokens.length) :
    ∃ later, Layout stop later (tokens.drop count) := by
  induction h generalizing count with
  | @done start blanks bound =>
    obtain rfl : count = 0 := Nat.lt_one_iff.mp less
    exact ⟨start, .done blanks bound⟩
  | @word start position text rest bound isWord layout ih =>
    cases count with
    | zero => exact ⟨start, .word bound isWord layout⟩
    | succ count => exact ih (Nat.lt_of_succ_lt_succ less)
  | @colon start position rest bound layout ih =>
    cases count with
    | zero => exact ⟨start, .colon bound layout⟩
    | succ count => exact ih (Nat.lt_of_succ_lt_succ less)

/-- From the column of a token on this token is the first one, unless it is the end of the line. -/
theorem find?_column (h : Layout stop start tokens) {index : Nat} {token : Token}
    (stands : tokens[index]? = some token) :
    tokens.find? (fun other => decide (token.position ≤ other.position) && !other.isEnd)
      = if token.isEnd then none else some token := by
  induction h generalizing index with
  | done blanks bound =>
    cases index with
    | zero =>
      cases stands
      simp [Token.isEnd]
    | succ index => cases stands
  | @word _ position text rest bound isWord layout ih =>
    cases index with
    | zero =>
      cases stands
      simp [Token.isEnd]
    | succ index =>
      rw [List.getElem?_cons_succ] at stands
      have behind : position + 1 ≤ token.position := layout.le_position (List.mem_of_getElem? stands)
      have passed : ¬ token.position ≤ (Token.word position text).position := Nat.not_le.mpr behind
      rw [List.find?_cons_of_neg (by simp [passed])]
      exact ih stands
  | @colon _ position rest bound layout ih =>
    cases index with
    | zero =>
      cases stands
      simp [Token.isEnd]
    | succ index =>
      rw [List.getElem?_cons_succ] at stands
      have behind : position + 1 ≤ token.position := layout.le_position (List.mem_of_getElem? stands)
      have passed : ¬ token.position ≤ (Token.colon position).position := Nat.not_le.mpr behind
      rw [List.find?_cons_of_neg (by simp [passed])]
      exact ih stands

/-- A token that is not the end of the line has a text. -/
theorem text_ne_empty (h : Layout stop start tokens) {token : Token} (mem : token ∈ tokens)
    (goesOn : token.isEnd = false) : token.text ≠ "" := by
  cases token with
  | word position text =>
    rintro (rfl : text = "")
    exact (h.isWord_of_mem mem).1 rfl
  | colon position =>
    have some_text : ":" ≠ "" := by decide
    exact some_text
  | endOfInput position blanks => cases goesOn

end Layout

/-- Every word among the marks of a line is whole. -/
theorem isWord_of_mem_marks {line text : String} (mem : .word text ∈ marks (tokenize line)) : IsWord text := by
  obtain ⟨token, stands, same⟩ := List.mem_map.mp mem
  cases token with
  | word position own =>
    cases same
    exact (layout_tokenize line).isWord_of_mem stands
  | colon position => cases same
  | endOfInput position blanks => cases same

end DeviceConsole.Grammar
