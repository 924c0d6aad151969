import DeviceConsole.Grammar.Token

/-!
# `Proofs.Grammar.Marks` — which tokens a written text gives

Matching sees the sort and the text of a token, never its column, so a line is judged by its **marks**. A text
`Spells` marks when it gives them wherever it stands, as long as no word character follows it directly. Texts
that spell marks are put together:

* `Spells.word` — a word spells itself;
* `Spells.colon`, `Spells.blank` — two texts with a colon or a blank between them;
* `SpellsAll.intercalate` — any number of texts with blanks between them;
* `Spells.marks_tokenize` — the marks of a whole line.
-/

namespace DeviceConsole.Grammar

/-! ## Marks -/

/-- What matching sees of a token. -/
inductive Mark where
  | word (text : String)
  | colon
  | stop
  deriving DecidableEq, Repr

/-- The mark of a token. -/
def Token.mark : Token → Mark
  | .word _ text => .word text
  | .colon _ => .colon
  | .endOfInput .. => .stop

/-- The marks of tokens. -/
def marks (tokens : List Token) : List Mark := tokens.map Token.mark

/-- A text that the tokenizer keeps together: not empty, without blanks and colons. -/
def IsWord (text : String) : Prop := text.toList ≠ [] ∧ ∀ c ∈ text.toList, isWordChar c = true

instance (text : String) : Decidable (IsWord text) :=
  decidable_of_bool (!text.toList.isEmpty && text.toList.all isWordChar) (by simp [IsWord])

/-- No word character follows. -/
def Boundary (rest : List Char) : Prop := ∀ c ∈ rest.head?, isWordChar c = false

theorem boundary_nil : Boundary [] := by simp [Boundary]

theorem boundary_cons {c : Char} {rest : List Char} (h : isWordChar c = false) :
    Boundary (c :: rest) := by
  intro d hd
  rw [List.head?_cons, Option.mem_some_iff] at hd
  exact hd ▸ h

/-! ## One more character in front -/

theorem not_isWordChar {c : Char} (h : isWordChar c = false) : isBlank c = true ∨ c = ':' := by
  simp only [isWordChar, Bool.and_eq_false_iff, Bool.not_eq_false', bne_eq_false_iff_eq] at h
  exact h

theorem tokenizeFrom_colon (position : Nat) (rest : List Char) :
    tokenizeFrom position (':' :: rest) = .colon position :: tokenizeFrom (position + 1) rest := rfl

/-- A blank changes at most the blanks in front of the end. -/
theorem marks_tokenizeFrom_blank {c : Char} (h : isBlank c = true) (position : Nat) (rest : List Char) :
    marks (tokenizeFrom position (c :: rest)) = marks (tokenizeFrom (position + 1) rest) := by
  rw [tokenizeFrom]
  unfold consChar
  rw [if_pos h]
  split
  · next stop blanks eq => rw [eq]; rfl
  · rfl

/-- A character in front makes no word but one at its own column. -/
theorem word_mem_consChar {position start : Nat} {c : Char} {text : String} {tokens : List Token}
    (h : .word start text ∈ consChar position c tokens) :
    start = position ∨ ∃ old, .word start old ∈ tokens := by
  unfold consChar at h
  by_cases blank : isBlank c = true
  · rw [if_pos blank] at h
    split at h
    · simp at h
    · exact Or.inr ⟨text, h⟩
  · rw [if_neg blank] at h
    by_cases colon : (c == ':') = true
    · rw [if_pos colon, List.mem_cons] at h
      exact Or.inr ⟨text, h.resolve_left (by simp)⟩
    · rw [if_neg colon] at h
      split at h
      · next first chars tail =>
        split at h
        · rcases List.mem_cons.mp h with h | h
          · injection h with same _; exact Or.inl same
          · exact Or.inr ⟨text, List.mem_cons_of_mem _ h⟩
        · rcases List.mem_cons.mp h with h | h
          · injection h with same _; exact Or.inl same
          · exact Or.inr ⟨text, h⟩
      · rcases List.mem_cons.mp h with h | h
        · injection h with same _; exact Or.inl same
        · exact Or.inr ⟨text, h⟩

/-- No word starts before the column at which the text stands. -/
theorem le_of_word_mem {position start : Nat} {text : String} {chars : List Char}
    (h : .word start text ∈ tokenizeFrom position chars) : position ≤ start := by
  induction chars generalizing position start text with
  | nil => simp [tokenizeFrom] at h
  | cons c rest ih =>
    rcases word_mem_consChar h with same | ⟨old, mem⟩
    · exact Nat.le_of_eq same.symm
    · exact Nat.le_of_succ_le (ih mem)

/-- Behind a boundary no word joins the word before it. -/
theorem ne_of_head_word {position start : Nat} {text : String} {rest : List Char} {tail : List Token}
    (boundary : Boundary rest) (h : tokenizeFrom position rest = .word start text :: tail) :
    start ≠ position := by
  cases rest with
  | nil => simp [tokenizeFrom] at h
  | cons c more =>
    rcases not_isWordChar (boundary c rfl) with blank | colon
    · rw [tokenizeFrom] at h
      unfold consChar at h
      rw [if_pos blank] at h
      split at h
      · simp at h
      -- the words behind the blank start behind it
      · have after : position + 1 ≤ start := le_of_word_mem (h ▸ List.mem_cons_self)
        omega
    · subst colon
      rw [tokenizeFrom_colon] at h
      simp at h

theorem isWordChar_iff {c : Char} : isWordChar c = true ↔ isBlank c = false ∧ (c == ':') = false := by
  cases hb : isBlank c <;> cases hc : c == ':' <;> simp_all [isWordChar]

/-- **A run of word characters is one word**, if no word character follows. -/
theorem tokenizeFrom_word {text rest : List Char} (position : Nat) (ne : text ≠ [])
    (h : ∀ c ∈ text, isWordChar c = true) (boundary : Boundary rest) :
    tokenizeFrom position (text ++ rest)
      = .word position (String.ofList text) :: tokenizeFrom (position + text.length) rest := by
  induction text generalizing position with
  | nil => exact absurd rfl ne
  | cons c more ih =>
    obtain ⟨notBlank, notColon⟩ := isWordChar_iff.mp (h c List.mem_cons_self)
    rw [List.cons_append, tokenizeFrom]
    unfold consChar
    rw [notBlank, notColon]
    simp only [Bool.false_eq_true, if_false]
    -- only at the last character can a word of the rest touch this one
    cases more with
    | nil =>
      split
      · next start text tail eq =>
        rw [List.nil_append] at eq
        rw [if_neg (ne_of_head_word boundary eq)]; rfl
      · rfl
    | cons d more =>
      have tail := ih (position + 1) (by simp) fun e he => h e (List.mem_cons_of_mem _ he)
      rw [tail]
      simp only [if_true, String.toList_ofList, List.length_cons]
      rw [Nat.add_assoc, Nat.add_comm 1]

/-! ## Texts and their marks -/

/-- Wherever the text stands, it gives these marks and then those of what follows. -/
def Spells (text : String) (front : List Mark) : Prop :=
  ∀ position rest, Boundary rest →
    marks (tokenizeFrom position (text.toList ++ rest))
      = front ++ marks (tokenizeFrom (position + text.toList.length) rest)

theorem Spells.word {text : String} (h : IsWord text) : Spells text [.word text] := by
  intro position rest boundary
  rw [tokenizeFrom_word position h.1 h.2 boundary, String.ofList_toList]
  rfl

theorem Spells.colon {left right : String} {front back : List Mark} (hl : Spells left front)
    (hr : Spells right back) : Spells (left ++ ":" ++ right) (front ++ .colon :: back) := by
  intro position rest boundary
  have shape : (left ++ ":" ++ right).toList = left.toList ++ ':' :: right.toList := by
    simp [String.toList_append]
  have place : position + (left.toList.length + (right.toList.length + 1))
      = position + left.toList.length + 1 + right.toList.length := by omega
  rw [shape, List.append_assoc, List.cons_append, hl _ _ (boundary_cons (by decide)),
    tokenizeFrom_colon, List.append_assoc, List.cons_append, List.length_append, List.length_cons,
    place, ← hr _ _ boundary]
  rfl

theorem Spells.blank {left right : String} {front back : List Mark} (hl : Spells left front)
    (hr : Spells right back) : Spells (left ++ " " ++ right) (front ++ back) := by
  intro position rest boundary
  have shape : (left ++ " " ++ right).toList = left.toList ++ ' ' :: right.toList := by
    simp [String.toList_append]
  have place : position + (left.toList.length + (right.toList.length + 1))
      = position + left.toList.length + 1 + right.toList.length := by omega
  rw [shape, List.append_assoc, List.cons_append, hl _ _ (boundary_cons (by decide)),
    marks_tokenizeFrom_blank (by decide), hr _ _ boundary, List.append_assoc, List.length_append,
    List.length_cons, place]

/-- The texts spell the marks, one text after the other. -/
inductive SpellsAll : List String → List Mark → Prop
  | nil : SpellsAll [] []
  | cons {text texts front back} : Spells text front → SpellsAll texts back →
      SpellsAll (text :: texts) (front ++ back)

theorem SpellsAll.append {texts more : List String} {front back : List Mark} (h : SpellsAll texts front)
    (h' : SpellsAll more back) : SpellsAll (texts ++ more) (front ++ back) := by
  induction h with
  | nil => exact h'
  | cons first _ ih => rw [List.cons_append, List.append_assoc]; exact .cons first ih

theorem SpellsAll.map {α : Type} {items : List α} {text : α → String} {front : α → List Mark}
    (h : ∀ item ∈ items, Spells (text item) (front item)) :
    SpellsAll (items.map text) (items.flatMap front) := by
  induction items with
  | nil => exact .nil
  | cons item rest ih =>
    exact .cons (h item List.mem_cons_self) (ih fun other mem => h other (List.mem_cons_of_mem _ mem))

/-- Texts with blanks between them spell what they spell one after the other. -/
theorem SpellsAll.intercalate {texts : List String} {front : List Mark} (h : SpellsAll texts front) :
    Spells (" ".intercalate texts) front := by
  induction h with
  | nil =>
    intro position rest _
    rw [String.intercalate_nil]
    rfl
  | @cons text texts front back first others ih =>
    cases others with
    | nil => rwa [List.append_nil, String.intercalate_singleton]
    | cons next others => rw [String.intercalate_cons_cons]; exact first.blank ih

/-- The marks of a line are those that it spells, and the end. -/
theorem Spells.marks_tokenize {line : String} {front : List Mark} (h : Spells line front) :
    marks (tokenize line) = front ++ [.stop] := by
  have whole := h 0 [] boundary_nil
  rwa [List.append_nil] at whole

end DeviceConsole.Grammar
