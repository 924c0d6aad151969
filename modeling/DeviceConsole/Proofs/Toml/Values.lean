import DeviceConsole.Proofs.Toml.Quoted
import DeviceConsole.Settings.Writer
import DeviceConsole.Toml.Reader

/-!
# `Proofs.Toml.Values` — a written value is read back

Truth values and numbers are words, which end where no character of a word follows. Texts end with their quotes, and
arrays of texts with their bracket. What follows a value in a written document is the end of its line, a comma or a
bracket, and none of them can belong to a value.

* `Ends` — what follows a value;
* `Denotes` — the text is a written form of the value, wherever it stands;
* `denotes_truth`, `denotes_size`, `denotes_text`, `denotes_texts` — the written forms.
-/

namespace DeviceConsole.Toml

variable {c : Char} {word written rest lead : List Char} {value : Value} {fuel depth : Nat}

/-! ## What stands around a value -/

/-- The character is no blank, begins no comment and is no line break. -/
def Solid (c : Char) : Prop := isBlank c = false ∧ c ≠ '#' ∧ c ≠ '\n' ∧ c ≠ '\r'

instance (c : Char) : Decidable (Solid c) := inferInstanceAs (Decidable (_ ∧ _))

/-- What follows a value: the end of its line, a comma or a bracket. -/
def Ends (rest : List Char) : Prop := ∃ c more, rest = c :: more ∧ (c = '\n' ∨ c = ',' ∨ c = ']')

theorem Ends.noQuote (ends : Ends rest) : NoQuote rest := by
  obtain ⟨c, more, rfl, rfl | rfl | rfl⟩ := ends
  all_goals exact ⟨by simp, by simp⟩

theorem skipBlanks_append (lead : List Char) (blank : ∀ c ∈ lead, isBlank c = true) (solid : isBlank c = false) (rest : List Char) :
    skipBlanks (lead ++ c :: rest) = c :: rest := by
  rw [skipBlanks, List.dropWhile_append_of_pos blank, List.dropWhile_cons_of_neg (by simp [solid])]

/-- White space ends at the first character that is none. -/
theorem skipSpace_append (lead : List Char) (blank : ∀ c ∈ lead, isBlank c = true) (solid : Solid c) (fuel : Nat) (rest : List Char) :
    skipSpace fuel (lead ++ c :: rest) = c :: rest := by
  obtain ⟨noBlank, noComment, feed, back⟩ := solid
  have skipped := skipBlanks_append lead blank noBlank rest
  unfold skipSpace
  rw [skipped]
  split
  · next first => exact absurd (List.cons.inj first).1 noComment
  · next first =>
    cases first
    rw [afterBreak?_eq_none feed back]
  · rfl

/-! ## Words -/

theorem isBlank_of_isWordChar (isWord : isWordChar c = true) : isBlank c = false := by
  by_contra blank
  rw [Bool.not_eq_false, isBlank, Bool.or_eq_true, decide_eq_true_eq, decide_eq_true_eq] at blank
  rcases blank with rfl | rfl
  · exact absurd isWord (by decide)
  · exact absurd isWord (by decide)

/-- A word ends where no character of a word follows. -/
theorem readWord?_append (inside : ∀ c ∈ word, isWordChar c = true) (ends : Ends rest) :
    readWord? (word ++ rest) = (scalar? word).map (·, rest) := by
  obtain ⟨c, more, rfl, isEnd⟩ := ends
  obtain ⟨stops, noBlank⟩ : isWordChar c = false ∧ c ≠ ' ' := by
    rcases isEnd with rfl | rfl | rfl <;> decide
  have cut : (word ++ c :: more).takeWhile isWordChar = word := by
    rw [List.takeWhile_append_of_pos inside, List.takeWhile_cons_of_neg (by simp [stops]), List.append_nil]
  simp only [readWord?, cut, List.drop_left]
  split
  · next first => exact absurd (List.cons.inj first).1 noBlank
  · rw [List.append_nil]
    rfl

/-! ## Written values -/

/-- The text is a written form of the value: it is read as the value, whatever stands around it. -/
structure Denotes (written : List Char) (value : Value) : Prop where
  begins : ∃ c more, written = c :: more ∧ isBlank c = false
  read : ∀ fuel depth rest, written.length ≤ fuel → Ends rest →
    readValue? fuel (depth + 1) (written ++ rest) = some (value, rest)

/-- A written value is there behind blanks. -/
theorem Denotes.skipBlanks_append (denotes : Denotes written value) (lead : List Char) (blank : ∀ c ∈ lead, isBlank c = true)
    (rest : List Char) : skipBlanks (lead ++ (written ++ rest)) = written ++ rest := by
  obtain ⟨c, more, rfl, noBlank⟩ := denotes.begins
  exact Toml.skipBlanks_append lead blank noBlank (more ++ rest)

/-- A value that begins like a word is one. -/
theorem readValue?_word (some_char : word ≠ []) (inside : ∀ c ∈ word, isWordChar c = true)
    (known : scalar? word = some value) (ends : Ends rest) :
    readValue? fuel depth (word ++ rest) = some (value, rest) := by
  have read := readWord?_append inside ends
  rw [known] at read
  cases word with
  | nil => exact absurd rfl some_char
  | cons c more =>
    have isWord := inside c List.mem_cons_self
    have begins : c ≠ '[' ∧ c ≠ '\x7b' ∧ c ≠ '"' ∧ c ≠ '\'' := by
      refine ⟨?_, ?_, ?_, ?_⟩ <;> rintro rfl <;> exact absurd isWord (by decide)
    obtain ⟨bracket, brace, double, single⟩ := begins
    rw [readValue?, read]
    · rfl
    all_goals simp [bracket, brace, double, single]

theorem readValue?_text (fuel depth : Nat) (text : String) (ends : NoQuote rest) :
    readValue? fuel depth ((write text).toList ++ rest) = some (.text text, rest) := by
  have read := readQuoted?_write text ends
  obtain ⟨quote, more, written, single | double⟩ := write_eq_cons text
  · rw [written, single, List.cons_append] at read
    rw [written, single, List.cons_append, readValue?, read]
    show some (Value.text (String.ofList text.toList), rest) = _
    rw [String.ofList_toList]
  · rw [written, double, List.cons_append] at read
    rw [written, double, List.cons_append, readValue?, read]
    show some (Value.text (String.ofList text.toList), rest) = _
    rw [String.ofList_toList]

theorem denotes_word (some_char : word ≠ []) (inside : ∀ c ∈ word, isWordChar c = true)
    (known : scalar? word = some value) : Denotes word value := by
  refine ⟨?_, fun _ _ _ _ ends => readValue?_word some_char inside known ends⟩
  cases word with
  | nil => exact absurd rfl some_char
  | cons c more => exact ⟨c, more, rfl, isBlank_of_isWordChar (inside c List.mem_cons_self)⟩

/-- A truth value. -/
theorem denotes_truth (value : Bool) : Denotes (Settings.writeTruth value).toList (.truth value) := by
  cases value with
  | true => exact denotes_word (by decide) (List.all_eq_true.mp rfl) rfl
  | false => exact denotes_word (by decide) (List.all_eq_true.mp rfl) rfl

/-! ### Numbers -/

/-- Digits without underscores are a number as they are. -/
theorem grouped?_eq_self {digits : List Char} (some_digit : digits ≠ []) (all : ∀ c ∈ digits, isDigit c = true) :
    grouped? isDigit digits = some digits := by
  induction digits with
  | nil => exact absurd rfl some_digit
  | cons c more ih =>
    have first := all c List.mem_cons_self
    cases more with
    | nil => rw [grouped?, if_pos first]
    | cons next later =>
      have second := all next (List.mem_cons_of_mem c List.mem_cons_self)
      have onwards := ih (List.cons_ne_nil next later) fun d mem => all d (List.mem_cons_of_mem c mem)
      rw [grouped?, if_pos first, onwards]
      · rfl
      · simp
      · rintro rest same
        rw [(List.cons.inj same).1] at second
        exact absurd second (by decide)

theorem isDigit_of_mem_write {count : Nat} (mem : c ∈ Text.Decimal.write count) : isDigit c = true := by
  obtain ⟨digit, small, rfl⟩ := Text.Decimal.mem_write mem
  rw [isDigit, Text.Decimal.digitValue?_digitChar small]
  rfl

theorem valueInBase_write (count : Nat) : valueInBase 10 (Text.Decimal.write count) = count := by
  have digit : ∀ d ∈ List.range 10, (Text.Hex.digitValue? (Text.Decimal.digitChar d)).getD 0 = d := by decide
  induction count using Nat.strongRecOn with
  | ind count ih =>
    rw [Text.Decimal.write]
    by_cases small : count < 10
    · rw [if_pos small]
      show 0 * 10 + _ = count
      rw [digit count (List.mem_range.mpr small)]
      omega
    · rw [if_neg small, valueInBase, List.foldl_append]
      show valueInBase 10 (Text.Decimal.write (count / 10)) * 10 + _ = count
      rw [ih (count / 10) (by omega), digit _ (List.mem_range.mpr (Nat.mod_lt count (by decide)))]
      omega

theorem wholeDigits?_write (count : Nat) :
    wholeDigits? (Text.Decimal.write count) = some (Text.Decimal.write count) := by
  rw [wholeDigits?, grouped?_eq_self (Text.Decimal.write_ne_nil count) fun _ => isDigit_of_mem_write, Option.filter_some,
    if_pos]
  by_cases zero : count = 0
  · subst zero
    decide +kernel
  · have noZero : (Text.Decimal.write count).head? ≠ some '0' := mt Text.Decimal.head?_write zero
    simp [noZero]

theorem splitSign_write (count : Nat) : splitSign (Text.Decimal.write count) = (false, Text.Decimal.write count) := by
  have digits : ∀ c ∈ Text.Decimal.write count, isDigit c = true := fun _ => isDigit_of_mem_write
  unfold splitSign
  split
  · next plus => exact absurd (digits '+' (by rw [plus]; exact List.mem_cons_self)) (by decide)
  · next minus => exact absurd (digits '-' (by rw [minus]; exact List.mem_cons_self)) (by decide)
  · rfl

theorem readInteger?_write (count : Nat) : readInteger? (Text.Decimal.write count) = some (count : Int) := by
  have second : ∀ c more, Text.Decimal.write count = '0' :: c :: more → isDigit c = true := by
    intro c more same
    exact isDigit_of_mem_write (by rw [same]; exact List.mem_cons_of_mem _ List.mem_cons_self)
  rw [readInteger?]
  · rw [splitSign_write]
    show (wholeDigits? (Text.Decimal.write count)).map _ = _
    rw [wholeDigits?_write]
    show some ((valueInBase 10 (Text.Decimal.write count) : Nat) : Int) = _
    rw [valueInBase_write]
  · exact fun more same => absurd (second 'x' more same) (by decide)
  · exact fun more same => absurd (second 'o' more same) (by decide)
  · exact fun more same => absurd (second 'b' more same) (by decide)

theorem scalar?_write {count : Nat} (fits : count ≤ Settings.largestNumber) :
    scalar? (Text.Decimal.write count) = some (.integer count) := by
  have digits : ∀ c ∈ Text.Decimal.write count, isDigit c = true := fun _ => isDigit_of_mem_write
  have noTrue : Text.Decimal.write count ≠ ['t', 'r', 'u', 'e'] :=
    fun same => absurd (digits 't' (by rw [same]; decide)) (by decide)
  have noFalse : Text.Decimal.write count ≠ ['f', 'a', 'l', 's', 'e'] :=
    fun same => absurd (digits 'f' (by rw [same]; decide)) (by decide)
  have kept : isKept count = true := by
    unfold Settings.largestNumber at fits
    unfold isKept
    simp
    omega
  rw [scalar?, if_neg noTrue, if_neg noFalse, readInteger?_write]
  exact if_pos kept

/-- A number that a settings file can hold. -/
theorem denotes_size {count : Nat} (fits : count ≤ Settings.largestNumber) :
    Denotes (Text.Decimal.write count) (.integer count) := by
  refine denotes_word (Text.Decimal.write_ne_nil count) ?_ (scalar?_write fits)
  intro c mem
  obtain ⟨digit, small, rfl⟩ := Text.Decimal.mem_write mem
  have all : ∀ d ∈ List.range 10, isWordChar (Text.Decimal.digitChar d) = true := by decide
  exact all digit (List.mem_range.mpr small)

/-! ### Texts -/

/-- A text. -/
theorem denotes_text (text : String) : Denotes (write text).toList (.text text) := by
  refine ⟨?_, fun fuel depth _ _ ends => readValue?_text fuel (depth + 1) text ends.noQuote⟩
  obtain ⟨quote, more, written, rfl | rfl⟩ := write_eq_cons text
  · exact ⟨_, more, written, rfl⟩
  · exact ⟨_, more, written, rfl⟩

/-- Texts between brackets, with a comma and a blank between them. -/
theorem toList_writeTexts_cons (text : String) (texts : List String) :
    (Settings.writeTexts (text :: texts)).toList
      = '[' :: ((write text).toList ++ (texts.flatMap fun next => ',' :: ' ' :: (write next).toList) ++ [']']) := by
  have joined : (", ".intercalate (((text :: texts).map write))).toList
      = (write text).toList ++ texts.flatMap fun next => ',' :: ' ' :: (write next).toList := by
    induction texts generalizing text with
    | nil => simp
    | cons next others ih =>
      rw [List.map_cons, List.map_cons, String.intercalate_cons_cons, String.toList_append, String.toList_append,
        ← List.map_cons, ih, List.flatMap_cons]
      simp
  rw [Settings.writeTexts, String.toList_append, String.toList_append, joined]
  simp

/-- An item of an array, behind blanks, and what follows it. -/
theorem readItems?_text (text : String) (blank : ∀ c ∈ lead, isBlank c = true) (ends : NoQuote rest) :
    readItems? (fuel + 1) depth (lead ++ ((write text).toList ++ rest))
      = match skipSpace rest.length rest with
        | ']' :: rest => some ([Value.text text], rest)
        | ',' :: rest => (readItems? fuel depth rest).map fun (items, rest) => (Value.text text :: items, rest)
        | _ => none := by
  have read := readValue?_text fuel depth text ends
  obtain ⟨quote, more, written, isQuote⟩ := write_eq_cons text
  have begins : Solid quote ∧ quote ≠ ']' := by
    rcases isQuote with rfl | rfl
    · decide
    · decide
  rw [written, List.cons_append] at read ⊢
  rw [readItems?, skipSpace_append lead blank begins.1]
  split
  · next first => exact absurd (List.cons.inj first).1 begins.2
  · rw [read]
    show (match skipSpace rest.length rest with
      | ']' :: rest => return ([Value.text text], rest)
      | ',' :: rest => do
        let (items, rest) ← readItems? fuel depth rest
        return (Value.text text :: items, rest)
      | _ => none) = _
    split
    · rfl
    · cases readItems? fuel depth _ <;> rfl
    · rfl

/-- A comma or a bracket is there at once. -/
theorem skipSpace_cons (solid : Solid c) (fuel : Nat) (rest : List Char) : skipSpace fuel (c :: rest) = c :: rest :=
  skipSpace_append [] nofun solid fuel rest

/-- The items of an array of texts, behind blanks. -/
theorem readItems?_texts (lead : List Char) (text : String) (texts : List String) (enough : texts.length < fuel)
    (blank : ∀ c ∈ lead, isBlank c = true) (rest : List Char) :
    readItems? fuel depth (lead ++ ((write text).toList
        ++ ((texts.flatMap fun next => ',' :: ' ' :: (write next).toList) ++ ']' :: rest)))
      = some ((text :: texts).map .text, rest) := by
  induction texts generalizing text fuel lead with
  | nil =>
    cases fuel with
    | zero => exact absurd enough (Nat.not_lt_zero _)
    | succ fuel =>
      rw [List.flatMap_nil, List.nil_append, readItems?_text text blank ⟨by simp, by simp⟩,
        skipSpace_cons (by decide)]
      rfl
  | cons next others ih =>
    cases fuel with
    | zero => exact absurd enough (Nat.not_lt_zero _)
    | succ fuel =>
      have onwards := ih [' '] next (Nat.lt_of_succ_lt_succ enough) (List.forall_mem_singleton.mpr rfl)
      rw [List.flatMap_cons, List.cons_append, List.cons_append, List.cons_append, List.cons_append,
        List.append_assoc, readItems?_text text blank ⟨by simp, by simp⟩, skipSpace_cons (by decide)]
      rw [List.singleton_append] at onwards
      simp only [onwards]
      rfl

/-- Texts between brackets. -/
theorem denotes_texts (texts : List String) :
    Denotes (Settings.writeTexts texts).toList (.array (texts.map .text)) := by
  cases texts with
  | nil =>
    refine ⟨⟨'[', [']'], rfl, rfl⟩, ?_⟩
    intro fuel depth rest enough ends
    obtain ⟨less, rfl⟩ := Nat.exists_eq_add_of_le' enough
    show readValue? (less + 2) (depth + 1) ('[' :: ']' :: rest) = _
    rw [readValue?, readItems?, skipSpace_cons (by decide)]
    rfl
  | cons text texts =>
    rw [toList_writeTexts_cons]
    refine ⟨⟨'[', _, rfl, rfl⟩, ?_⟩
    intro fuel depth rest enough ends
    have long : texts.length ≤ (texts.flatMap fun next => ',' :: ' ' :: (write next).toList).length := by
      clear enough
      induction texts with
      | nil => exact Nat.le_refl 0
      | cons next others ih =>
        rw [List.flatMap_cons, List.length_append, List.length_cons, List.length_cons, List.length_cons]
        omega
    cases fuel with
    | zero => exact absurd enough (Nat.not_succ_le_zero _)
    | succ fuel =>
      rw [List.length_cons, List.length_append, List.length_append, List.length_singleton] at enough
      have few : texts.length < fuel := by omega
      have items : readItems? fuel depth _ = some _ := readItems?_texts [] text texts few nofun rest
      rw [List.nil_append] at items
      rw [List.cons_append, List.append_assoc, List.append_assoc, List.singleton_append, readValue?, items]
      rfl

end DeviceConsole.Toml
