import DeviceConsole.Proofs.Grammar.Columns
import Mathlib.Data.List.Sort
import Mathlib.Data.List.TakeWhile

/-!
# `Proofs.Grammar.Tokenization` — the tokens of a line, and no others

What the tokens of a line are is said without a way to find them: words are maximal runs, every colon is a token, and
the last token tells where the line ends and which blanks end it. Only one list is so (`Tokenization.unique`): each
token is determined by the column that it covers, and the columns ascend.

That the tokenizer finds this list is shown along the pieces of a line (`cut_induction`), which are blanks, colons and
words up to a boundary. A run is maximal in the whole line, so the tokens of what is left are judged together with the
characters in front of it.

* `RunAt`, `RunAt.unique` — a maximal run of word characters, and that two of them do not overlap;
* `Tokenization` — what the tokens of a line are;
* `runAt_of_word_mem`, `colon_mem_iff`, `exists_covers`, `exists_ending` — what the tokenizer finds;
* `tokenization_iff` — **the tokens of a line are exactly these**.
-/

namespace DeviceConsole.Grammar

/-! ## Maximal runs -/

/-- The text is the slice of the line at the column, and a maximal run of word characters: there is none in front of it
and none behind it. -/
structure RunAt (chars : List Char) (start : Nat) (text : String) : Prop where
  slice : (chars.drop start).take text.length = text.toList
  isWord : IsWord text
  before : ∀ column c, start = column + 1 → chars[column]? = some c → isWordChar c = false
  behind : ∀ c, chars[start + text.length]? = some c → isWordChar c = false

namespace RunAt

variable {chars : List Char} {start other : Nat} {text more : String}

theorem length_pos (h : RunAt chars start text) : 0 < text.length := by
  rw [← String.length_toList]
  exact List.length_pos_iff.mpr h.isWord.1

/-- At every column of a run stands a word character. -/
theorem wordChar (h : RunAt chars start text) {column : Nat} (from_ : start ≤ column)
    (below : column < start + text.length) : ∃ c, chars[column]? = some c ∧ isWordChar c = true := by
  obtain ⟨offset, rfl⟩ := Nat.exists_eq_add_of_le from_
  have inText : offset < text.toList.length := by
    rw [String.length_toList]
    omega
  refine ⟨text.toList[offset], ?_, h.isWord.2 _ (List.getElem_mem inText)⟩
  have same : text.toList[offset]? = chars[start + offset]? := by
    rw [← h.slice, List.getElem?_take_of_lt (by omega), List.getElem?_drop]
  rw [← same, List.getElem?_eq_getElem inText]

/-- A run that covers a column of another one does not start behind it. -/
theorem start_le (h : RunAt chars start text) (h' : RunAt chars other more) {column : Nat} (from_ : other ≤ column)
    (below : column < start + text.length) : other ≤ start := by
  by_contra later
  have inRun : start ≤ other - 1 := by omega
  obtain ⟨c, stands, isChar⟩ := h.wordChar inRun (by omega)
  have noChar := h'.before (other - 1) c (by omega) stands
  rw [isChar] at noChar
  cases noChar

/-- Nor does it end in front of it. -/
theorem end_le (h : RunAt chars start text) (h' : RunAt chars start more) :
    start + more.length ≤ start + text.length := by
  by_contra longer
  have inRun : start ≤ start + text.length := Nat.le_add_right _ _
  obtain ⟨c, stands, isChar⟩ := h'.wordChar inRun (by omega)
  have noChar := h.behind c stands
  rw [isChar] at noChar
  cases noChar

/-- **Two runs that cover a column are the same.** -/
theorem unique (h : RunAt chars start text) (h' : RunAt chars other more) {column : Nat} (from_ : start ≤ column)
    (below : column < start + text.length) (otherFrom : other ≤ column) (otherBelow : column < other + more.length) :
    start = other ∧ text = more := by
  obtain rfl : start = other := Nat.le_antisymm (h'.start_le h from_ otherBelow) (h.start_le h' otherFrom below)
  refine ⟨rfl, String.toList_inj.mp ?_⟩
  have shorter := h.end_le h'
  have longer := h'.end_le h
  have lengths : text.length = more.length := by omega
  rw [← h.slice, ← h'.slice, lengths]

end RunAt

/-! ## What the tokens of a line are -/

/-- The token is a word or a colon that stands at the column. -/
def Token.Covers (column : Nat) : Token → Prop
  | .word start text => start ≤ column ∧ column < start + text.length
  | .colon start => column = start
  | .endOfInput .. => False

/-- The longest run of blanks that ends the line. -/
structure Trailing (chars : List Char) (blanks : String) : Prop where
  suffix : blanks.toList <:+ chars
  blank : ∀ c ∈ blanks.toList, isBlank c = true
  longest : ∀ other, other <:+ chars → (∀ c ∈ other, isBlank c = true) → other.length ≤ blanks.length

/-- Every word is a maximal run, there is a colon at each colon of the line and nowhere else, the columns ascend, every
character that is no blank stands in exactly one word or colon, and the last token alone is the end of the line, behind
all characters and with the blanks that end the line. -/
structure Tokenization (chars : List Char) (tokens : List Token) : Prop where
  word : ∀ start text, .word start text ∈ tokens → RunAt chars start text
  colon : ∀ column, .colon column ∈ tokens ↔ chars[column]? = some ':'
  ascending : tokens.Pairwise fun a b => a.position < b.position
  covered : ∀ column c, chars[column]? = some c → isBlank c = false → ∃! token, token ∈ tokens ∧ token.Covers column
  ending : ∃ front blanks, tokens = front ++ [.endOfInput chars.length blanks]
    ∧ (∀ token ∈ front, token.isEnd = false) ∧ Trailing chars blanks

namespace Trailing

variable {chars rest : List Char} {blanks other : String}

theorem unique (h : Trailing chars blanks) (h' : Trailing chars other) : blanks = other := by
  have shorter := h'.longest _ h.suffix h.blank
  have longer := h.longest _ h'.suffix h'.blank
  rw [← String.length_toList] at shorter longer
  have suffix := List.suffix_of_suffix_length_le h.suffix h'.suffix shorter
  exact String.toList_inj.mp (suffix.eq_of_length (Nat.le_antisymm shorter longer))

/-- Blanks alone end themselves. -/
theorem whole (allBlank : ∀ c ∈ chars, isBlank c = true) : Trailing chars (String.ofList chars) := by
  refine ⟨?_, ?_, fun other suffix _ => ?_⟩
  · exact ⟨[], by rw [List.nil_append, String.toList_ofList]⟩
  · rwa [String.toList_ofList]
  · rw [← String.length_toList, String.toList_ofList]
    exact suffix.length_le

/-- One more character in front does not lengthen the blanks at the end, unless all characters are blanks. -/
theorem cons {c d : Char} (h : Trailing rest blanks) (mem : d ∈ c :: rest) (noBlank : isBlank d = false) :
    Trailing (c :: rest) blanks := by
  refine ⟨h.suffix.trans (List.suffix_cons c rest), h.blank, fun other suffix allBlank => ?_⟩
  rcases List.suffix_cons_iff.mp suffix with rfl | shorter
  · rw [allBlank d mem] at noBlank
    cases noBlank
  · exact h.longest other shorter allBlank

theorem append {run : List Char} (h : Trailing rest blanks) (isWord : ∀ c ∈ run, isWordChar c = true) :
    Trailing (run ++ rest) blanks := by
  induction run with
  | nil => exact h
  | cons c more ih =>
    have behind := ih fun d mem => isWord d (List.mem_cons_of_mem _ mem)
    exact behind.cons List.mem_cons_self (isWordChar_iff.mp (isWord c List.mem_cons_self)).1

end Trailing

section Unique

variable {chars : List Char} {tokens others : List Token}

/-- Tokens that are runs and colons of a line do not overlap. -/
theorem Token.Covers.unique (words : ∀ start text, .word start text ∈ tokens → RunAt chars start text)
    (colons : ∀ column, .colon column ∈ tokens → chars[column]? = some ':') {column : Nat} {token other : Token}
    (mem : token ∈ tokens) (otherMem : other ∈ tokens) (covers : token.Covers column)
    (otherCovers : other.Covers column) : token = other := by
  have noColon : ∀ start text, .word start text ∈ tokens → (Token.word start text).Covers column →
      chars[column]? ≠ some ':' := by
    intro start text mem covers colon
    obtain ⟨c, stands, isChar⟩ := (words start text mem).wordChar covers.1 covers.2
    rw [colon, Option.some.injEq] at stands
    subst stands
    cases isChar
  cases token with
  | endOfInput stop blanks => exact covers.elim
  | colon start =>
    obtain rfl : column = start := covers
    cases other with
    | endOfInput stop blanks => exact otherCovers.elim
    | colon start => rw [show column = start from otherCovers]
    | word start text => exact absurd (colons column mem) (noColon start text otherMem otherCovers)
  | word start text =>
    cases other with
    | endOfInput stop blanks => exact otherCovers.elim
    | colon start =>
      obtain rfl : column = start := otherCovers
      exact absurd (colons column otherMem) (noColon _ text mem covers)
    | word otherStart more =>
      obtain ⟨rfl, rfl⟩ := (words _ _ mem).unique (words _ _ otherMem) covers.1 covers.2 otherCovers.1 otherCovers.2
      rfl

/-- Every token of a tokenization is a token of any other one. -/
theorem Tokenization.subset (h : Tokenization chars tokens) (h' : Tokenization chars others) {token : Token}
    (mem : token ∈ tokens) : token ∈ others := by
  cases token with
  | colon column => exact (h'.colon column).mpr ((h.colon column).mp mem)
  | word start text =>
    have run := h.word start text mem
    have some_char := run.length_pos
    obtain ⟨c, stands, isChar⟩ := run.wordChar (Nat.le_refl start) (by omega)
    obtain ⟨noBlank, noColon⟩ := isWordChar_iff.mp isChar
    obtain ⟨token, ⟨inOthers, covers⟩, -⟩ := h'.covered start c stands noBlank
    -- the character at which the run starts stands in a token of the other list as well
    cases token with
    | word other more =>
      obtain ⟨rfl, rfl⟩ := run.unique (h'.word other more inOthers) (Nat.le_refl start) (by omega) covers.1 covers.2
      exact inOthers
    | colon column =>
      obtain rfl : start = column := covers
      rw [(h'.colon start).mp inOthers] at stands
      cases stands
      cases noColon
    | endOfInput stop blanks => exact covers.elim
  | endOfInput stop blanks =>
    obtain ⟨front, own, rfl, goesOn, trailing⟩ := h.ending
    obtain ⟨otherFront, other, rfl, -, otherTrailing⟩ := h'.ending
    rcases List.mem_append.mp mem with inFront | last
    · cases goesOn _ inFront
    · rw [List.mem_singleton.mp last, trailing.unique otherTrailing]
      exact List.mem_append_right _ (List.mem_singleton_self _)

/-- **A line has one tokenization.** -/
theorem Tokenization.unique (h : Tokenization chars tokens) (h' : Tokenization chars others) : tokens = others := by
  have irreflexive : Std.Irrefl fun a b : Token => a.position < b.position := ⟨fun token => Nat.lt_irrefl _⟩
  have asymmetric : Std.Asymm fun a b : Token => a.position < b.position := ⟨fun a b less => Nat.lt_asymm less⟩
  exact h.ascending.eq_of_mem_iff h'.ascending fun token => ⟨h.subset h', h'.subset h⟩

end Unique

/-! ## The pieces of a line -/

/-- **A line is made of blanks, colons and words**, where no word character follows a word. -/
@[elab_as_elim]
theorem cut_induction {motive : List Char → Prop} (nil : motive [])
    (blank : ∀ c rest, isBlank c = true → motive rest → motive (c :: rest))
    (colon : ∀ rest, motive rest → motive (':' :: rest))
    (word : ∀ text rest, text ≠ [] → (∀ c ∈ text, isWordChar c = true) → Boundary rest → motive rest →
      motive (text ++ rest)) (chars : List Char) : motive chars := by
  induction h : chars.length using Nat.strong_induction_on generalizing chars with
  | h length ih =>
    subst h
    cases chars with
    | nil => exact nil
    | cons c rest =>
      by_cases isChar : isWordChar c = true
      · have pieces := List.takeWhile_append_dropWhile (p := isWordChar) (l := c :: rest)
        have some_char : (c :: rest).takeWhile isWordChar ≠ [] := by simp [isChar]
        rw [← pieces]
        refine word _ _ some_char (fun d mem => List.mem_takeWhile_imp mem) ?_ (ih _ ?_ _ rfl)
        · intro d first
          have stops := List.head?_dropWhile_not isWordChar (c :: rest)
          rw [Option.mem_def.mp first] at stops
          simpa using stops
        · have lengths := congrArg List.length pieces
          rw [List.length_append] at lengths
          have positive := List.length_pos_iff.mpr some_char
          omega
      · rcases not_isWordChar (Bool.eq_false_iff.mpr isChar) with isBlank | rfl
        · exact blank c rest isBlank (ih _ (Nat.lt_succ_self _) rest rfl)
        · exact colon rest (ih _ (Nat.lt_succ_self _) rest rfl)

/-! ## What the tokenizer finds -/

section Found

variable {chars : List Char} {position : Nat}

/-- A blank in front changes no word and no colon. -/
theorem mem_tokenizeFrom_blank {c : Char} {rest : List Char} (blank : isBlank c = true) {token : Token}
    (goesOn : token.isEnd = false) :
    token ∈ tokenizeFrom position (c :: rest) ↔ token ∈ tokenizeFrom (position + 1) rest := by
  rw [tokenizeFrom]
  unfold consChar
  rw [if_pos blank]
  split
  · next stop blanks shape =>
    rw [shape, List.mem_singleton, List.mem_singleton]
    constructor
    · rintro rfl
      cases goesOn
    · rintro rfl
      cases goesOn
  · rfl

/-- **Every word is a maximal run** of the characters together with those in front of them. -/
theorem runAt_of_word_mem (before : List Char)
    (apart : (∀ c ∈ before.getLast?, isWordChar c = false) ∨ Boundary chars) {start : Nat} {text : String}
    (mem : .word start text ∈ tokenizeFrom before.length chars) : RunAt (before ++ chars) start text := by
  induction chars using cut_induction generalizing before with
  | nil => simp [tokenizeFrom] at mem
  | blank c rest blank ih =>
    have later := (mem_tokenizeFrom_blank blank rfl).mp mem
    have run := @ih (before ++ [c]) (.inl ?_) (by rwa [List.length_append])
    · rwa [List.append_assoc] at run
    · intro last isLast
      rw [List.getLast?_concat, Option.mem_some_iff] at isLast
      simp [← isLast, isWordChar, blank]
  | colon rest ih =>
    have later : .word start text ∈ tokenizeFrom (before.length + 1) rest :=
      (List.mem_cons.mp mem).resolve_left (by simp)
    have run := @ih (before ++ [':']) (.inl ?_) (by rwa [List.length_append])
    · rwa [List.append_assoc] at run
    · intro last isLast
      rw [List.getLast?_concat, Option.mem_some_iff] at isLast
      simp [← isLast, isWordChar]
  | word run rest ne isWord boundary ih =>
    rw [tokenizeFrom_word _ ne isWord boundary] at mem
    rcases List.mem_cons.mp mem with here | later
    · cases here
      have lengths : (String.ofList run).length = run.length := by rw [← String.length_toList, String.toList_ofList]
      constructor
      case slice => rw [lengths, List.drop_left, List.take_left, String.toList_ofList]
      case isWord =>
        rw [IsWord, String.toList_ofList]
        exact ⟨ne, isWord⟩
      case before =>
        intro column c place stands
        rcases apart with apart | noChar
        · apply apart c
          have column_lt : column < before.length := by omega
          rw [List.getElem?_append_left column_lt] at stands
          rw [List.getLast?_eq_getElem?, Option.mem_def, ← stands]
          congr 1
          omega
        · obtain ⟨first, others, rfl⟩ := List.exists_cons_of_ne_nil ne
          have isChar := isWord first List.mem_cons_self
          rw [noChar first rfl] at isChar
          cases isChar
      case behind =>
        intro c stands
        rw [lengths, List.getElem?_append_right (by omega), Nat.add_sub_cancel_left,
          List.getElem?_append_right (by omega), Nat.sub_self, ← List.head?_eq_getElem?] at stands
        exact boundary c stands
    · have found := @ih (before ++ run) (.inr boundary) (by rwa [List.length_append])
      rwa [List.append_assoc] at found

/-- **There is a colon at every colon**, and nowhere else. -/
theorem colon_mem_iff {column : Nat} :
    .colon column ∈ tokenizeFrom position chars ↔ ∃ offset, column = position + offset ∧ chars[offset]? = some ':' := by
  induction chars using cut_induction generalizing position with
  | nil => simp [tokenizeFrom]
  | blank c rest blank ih =>
    rw [mem_tokenizeFrom_blank blank rfl, ih]
    constructor
    · rintro ⟨offset, rfl, stands⟩
      exact ⟨offset + 1, by omega, stands⟩
    · rintro ⟨offset, rfl, stands⟩
      cases offset with
      | zero =>
        cases stands
        cases blank
      | succ offset => exact ⟨offset, by omega, stands⟩
  | colon rest ih =>
    rw [tokenizeFrom_colon, List.mem_cons, ih, Token.colon.injEq]
    constructor
    · rintro (rfl | ⟨offset, rfl, stands⟩)
      · exact ⟨0, rfl, rfl⟩
      · exact ⟨offset + 1, by omega, stands⟩
    · rintro ⟨offset, rfl, stands⟩
      cases offset with
      | zero => exact .inl rfl
      | succ offset => exact .inr ⟨offset, by omega, stands⟩
  | word run rest ne isWord boundary ih =>
    rw [tokenizeFrom_word _ ne isWord boundary, List.mem_cons, ih]
    constructor
    · rintro (never | ⟨offset, rfl, stands⟩)
      · cases never
      · refine ⟨run.length + offset, by omega, ?_⟩
        rwa [List.getElem?_append_right (by omega), Nat.add_sub_cancel_left]
    · rintro ⟨offset, rfl, stands⟩
      by_cases inRun : offset < run.length
      · rw [List.getElem?_append_left inRun] at stands
        cases isWord ':' (List.mem_of_getElem? stands)
      · rw [List.getElem?_append_right (by omega)] at stands
        exact .inr ⟨offset - run.length, by omega, stands⟩

/-- **Every character that is no blank stands in a word or in a colon.** -/
theorem exists_covers {offset : Nat} {c : Char} (stands : chars[offset]? = some c) (noBlank : isBlank c = false) :
    ∃ token ∈ tokenizeFrom position chars, token.Covers (position + offset) := by
  induction chars using cut_induction generalizing position offset with
  | nil => cases stands
  | blank first rest blank ih =>
    cases offset with
    | zero =>
      cases stands
      rw [blank] at noBlank
      cases noBlank
    | succ offset =>
      obtain ⟨token, mem, covers⟩ := @ih (position + 1) offset stands
      have goesOn : token.isEnd = false := by
        cases token with
        | endOfInput stop blanks => exact covers.elim
        | _ => rfl
      refine ⟨token, (mem_tokenizeFrom_blank blank goesOn).mpr mem, ?_⟩
      rwa [Nat.add_comm offset, ← Nat.add_assoc]
  | colon rest ih =>
    rw [tokenizeFrom_colon]
    cases offset with
    | zero => exact ⟨_, List.mem_cons_self, rfl⟩
    | succ offset =>
      obtain ⟨token, mem, covers⟩ := @ih (position + 1) offset stands
      refine ⟨token, List.mem_cons_of_mem _ mem, ?_⟩
      rwa [Nat.add_comm offset, ← Nat.add_assoc]
  | word run rest ne isWord boundary ih =>
    rw [tokenizeFrom_word _ ne isWord boundary]
    by_cases inRun : offset < run.length
    · refine ⟨_, List.mem_cons_self, Nat.le_add_right _ _, ?_⟩
      rw [← String.length_toList, String.toList_ofList]
      omega
    · rw [List.getElem?_append_right (by omega)] at stands
      obtain ⟨token, mem, covers⟩ := @ih (position + run.length) (offset - run.length) stands
      refine ⟨token, List.mem_cons_of_mem _ mem, ?_⟩
      rwa [show position + run.length + (offset - run.length) = position + offset by omega] at covers

/-- Blanks alone give no token but the end of the line. -/
theorem tokenizeFrom_blanks (allBlank : ∀ c ∈ chars, isBlank c = true) :
    tokenizeFrom position chars = [.endOfInput (position + chars.length) (String.ofList chars)] := by
  induction chars generalizing position with
  | nil => rfl
  | cons c rest ih =>
    rw [tokenizeFrom, ih fun d mem => allBlank d (List.mem_cons_of_mem _ mem)]
    unfold consChar
    rw [if_pos (allBlank c List.mem_cons_self)]
    simp only [String.toList_ofList, List.length_cons]
    rw [Nat.add_assoc, Nat.add_comm 1]

/-- A blank in front of other characters gives no token. -/
theorem tokenizeFrom_blank {c d : Char} {rest : List Char} (blank : isBlank c = true) (mem : d ∈ rest)
    (noBlank : isBlank d = false) : tokenizeFrom position (c :: rest) = tokenizeFrom (position + 1) rest := by
  obtain ⟨offset, stands⟩ := List.getElem?_of_mem mem
  have covered : ∃ token ∈ tokenizeFrom (position + 1) rest, token.Covers (position + 1 + offset) :=
    exists_covers stands noBlank
  obtain ⟨token, found, covers⟩ := covered
  rw [tokenizeFrom]
  unfold consChar
  rw [if_pos blank]
  split
  · next stop blanks shape =>
    rw [shape, List.mem_singleton] at found
    subst found
    exact covers.elim
  · rfl

/-- **The last token is the end of the line with the blanks in front of it.** -/
theorem exists_ending (chars : List Char) (position : Nat) :
    ∃ front blanks, tokenizeFrom position chars = front ++ [.endOfInput (position + chars.length) blanks]
      ∧ Trailing chars blanks := by
  induction chars using cut_induction generalizing position with
  | nil => exact ⟨[], "", rfl, .whole (by simp)⟩
  | blank c rest blank ih =>
    by_cases allBlank : ∀ d ∈ rest, isBlank d = true
    · have everyBlank : ∀ d ∈ c :: rest, isBlank d = true := by
        intro d mem
        rcases List.mem_cons.mp mem with rfl | later
        · exact blank
        · exact allBlank d later
      exact ⟨[], _, tokenizeFrom_blanks everyBlank, .whole everyBlank⟩
    · push Not at allBlank
      obtain ⟨d, mem, other⟩ := allBlank
      have noBlank : isBlank d = false := Bool.eq_false_iff.mpr other
      obtain ⟨front, blanks, found, trailing⟩ := ih (position + 1)
      refine ⟨front, blanks, ?_, trailing.cons (List.mem_cons_of_mem _ mem) noBlank⟩
      rw [tokenizeFrom_blank blank mem noBlank, found, List.length_cons, Nat.add_assoc, Nat.add_comm 1]
  | colon rest ih =>
    obtain ⟨front, blanks, found, trailing⟩ := ih (position + 1)
    refine ⟨.colon position :: front, blanks, ?_, trailing.cons List.mem_cons_self rfl⟩
    rw [tokenizeFrom_colon, found, List.length_cons, Nat.add_assoc, Nat.add_comm 1]
    rfl
  | word run rest ne isWord boundary ih =>
    obtain ⟨front, blanks, found, trailing⟩ := ih (position + run.length)
    refine ⟨.word position (String.ofList run) :: front, blanks, ?_, trailing.append isWord⟩
    rw [tokenizeFrom_word _ ne isWord boundary, found, List.length_append, Nat.add_assoc]
    rfl

end Found

/-! ## The tokens of a line -/

/-- **The tokens of a line are exactly these**: a list of tokens is what the tokenizer makes of a line if and only if
its words are the maximal runs of word characters, its colons are the colons of the line, its columns ascend, every
character that is no blank stands in exactly one of them, and the end of the line is its last token and tells the
length of the line and the blanks that end it. -/
theorem tokenization_iff (line : String) (tokens : List Token) :
    Tokenization line.toList tokens ↔ tokens = tokenize line := by
  have words : ∀ start text, .word start text ∈ tokenize line → RunAt line.toList start text :=
    fun start text mem => runAt_of_word_mem [] (.inl (by simp)) mem
  have colons : ∀ column, .colon column ∈ tokenize line ↔ line.toList[column]? = some ':' := by
    intro column
    rw [tokenize, colon_mem_iff]
    simp
  have found : Tokenization line.toList (tokenize line) := by
    constructor
    case word => exact words
    case colon => exact colons
    case ascending => exact (layout_tokenize line).pairwise
    case covered =>
      intro column c stands noBlank
      have found : ∃ token ∈ tokenize line, token.Covers (0 + column) := exists_covers stands noBlank
      rw [Nat.zero_add] at found
      obtain ⟨token, mem, covers⟩ := found
      refine ⟨token, ⟨mem, covers⟩, fun other ⟨otherMem, otherCovers⟩ => ?_⟩
      exact Token.Covers.unique words (fun column => (colons column).mp) otherMem mem otherCovers covers
    case ending =>
      obtain ⟨front, blanks, shape, trailing⟩ := exists_ending line.toList 0
      obtain ⟨others, own, same, goesOn⟩ := (layout_tokenize line).eq_append
      rw [Nat.zero_add] at shape
      have parts : front ++ [.endOfInput line.toList.length blanks] = others ++ [.endOfInput line.length own] :=
        shape.symm.trans same
      exact ⟨front, blanks, shape, (List.append_inj' parts rfl).1 ▸ goesOn, trailing⟩
  exact ⟨fun h => h.unique found, fun same => same ▸ found⟩

/-- Blanks between tokens are dropped, and those at the end are kept. -/
example : tokenize "\tabc:def  : " = [.word 1 "abc", .colon 4, .word 5 "def", .colon 10, .endOfInput 12 " "] := by
  decide

end DeviceConsole.Grammar
