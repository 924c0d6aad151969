import DeviceConsole.Proofs.Text.Numerals
import DeviceConsole.Toml.Quoted

/-!
# `Proofs.Toml.Quoted` — a written text is read back

A text is written in one of four forms, and the reader tells them apart by their opening quotes. The forms on one line
end at their first quote; in the others up to two quotes in a row belong to the text, also right before the closing
three. Whatever follows the closing quotes is left alone, as long as it does not begin with a further quote.

* `Escapes`, `CharForm`, `writeChar_form` — what stands for a character between double quotes;
* `readBasic?_writeEscaped`, `readMultiBasic?_writeEscaped` — the forms with escapes;
* `readLiteral?_append`, `readMultiLiteral?_append` — the forms without;
* `write_eq_cons`, `readQuoted?_write` — the written form of any text.
-/

namespace DeviceConsole.Toml

variable {c quote wanted : Char} {code chars rest tail : List Char} {multiline : Bool}
  {allowed quotes run longest fuel : Nat}

/-! ## Characters -/

/-- A character that needs no escape and is no line feed can stand in a text. -/
theorem isTextChar_of_needsEscape (plain : needsEscape c = false) (sameLine : c ≠ '\n') : isTextChar c = true := by
  unfold needsEscape at plain
  unfold isTextChar
  by_cases tab : c = '\t'
  · simp [tab]
  · simp only [Bool.or_eq_false_iff, Bool.and_eq_false_iff, decide_eq_false_iff_not, bne_eq_false_iff_eq] at plain
    obtain ⟨(high | isTab) | isBreak, del⟩ := plain
    · simp [tab, del]
      omega
    · exact absurd isTab tab
    · exact absurd isBreak sameLine

theorem afterBreak?_eq_none (feed : c ≠ '\n') (back : c ≠ '\r') : afterBreak? (c :: rest) = none := by
  unfold afterBreak?
  split <;> simp_all

theorem dropBreak_eq_self (feed : c ≠ '\n') (back : c ≠ '\r') : dropBreak (c :: rest) = c :: rest := by
  rw [dropBreak, afterBreak?_eq_none feed back]
  rfl

/-! ## Escapes -/

/-- The text stands for the character behind a backslash, and the backslash does not end a line. -/
def Escapes (code : List Char) (c : Char) : Prop :=
  ∀ rest, readEscape? (code ++ rest) = some (c, rest) ∧ afterLineEnd? (code ++ rest) = none

theorem afterLineEnd?_eq_none (solid : isBlank c = false) (feed : c ≠ '\n') (back : c ≠ '\r') :
    afterLineEnd? (c :: rest) = none := by
  rw [afterLineEnd?, List.dropWhile_cons_of_neg (by simp [solid]), afterBreak?_eq_none feed back]
  rfl

theorem escapes_cons (read : ∀ rest, readEscape? (c :: (code ++ rest)) = some (wanted, rest))
    (solid : isBlank c = false) (feed : c ≠ '\n') (back : c ≠ '\r') : Escapes (c :: code) wanted := by
  intro rest
  exact ⟨read rest, afterLineEnd?_eq_none solid feed back⟩

/-- A code of four digits stands for its character. -/
theorem escapes_code (small : c.toNat < 0x80) : Escapes ('u' :: Text.Hex.fixed 4 c.toNat) c := by
  refine escapes_cons ?_ (by decide) (by decide) (by decide)
  intro rest
  have length : (Text.Hex.fixed 4 c.toNat).length = 4 := Text.Hex.length_fixed 4 c.toNat
  have digits : Text.Hex.readNumber? 4 (Text.Hex.fixed 4 c.toNat) = some c.toNat :=
    Text.Hex.readNumber?_fixed (by omega)
  show readCode? 4 (Text.Hex.fixed 4 c.toNat ++ rest) = some (c, rest)
  rw [readCode?, List.take_left' length, List.drop_left' length, digits]
  show (if c.toNat < 0xD800 ∨ (0xE000 ≤ c.toNat ∧ c.toNat ≤ 0x10FFFF) then some (Char.ofNat c.toNat, rest) else none) = _
  rw [if_pos (.inl (by omega)), Char.ofNat_toNat]

/-- How a character is written between double quotes: a quote, a line feed or another character as it is, or an
escape. -/
inductive CharForm (multiline : Bool) (allowed quotes : Nat) (c : Char) : List Char → Prop
  | quote : c = '"' → quotes < allowed → CharForm multiline allowed quotes c ['"']
  | feed : c = '\n' → multiline = true → CharForm multiline allowed quotes c ['\n']
  | plain : isTextChar c = true → c ≠ '"' → c ≠ '\\' → CharForm multiline allowed quotes c [c]
  | escape {code : List Char} : Escapes code c → ¬ (c = '"' ∧ quotes < allowed) →
      CharForm multiline allowed quotes c ('\\' :: code)

theorem writeChar_form (multiline : Bool) (allowed quotes : Nat) (c : Char) :
    CharForm multiline allowed quotes c (writeChar multiline allowed quotes c) := by
  unfold writeChar
  split
  · split
    · next fewer => exact .quote rfl fewer
    · next enough => exact .escape (escapes_cons (fun _ => rfl) rfl (by decide) (by decide)) (fun both => enough both.2)
  · exact .escape (escapes_cons (fun _ => rfl) rfl (by decide) (by decide)) (by simp)
  · exact .escape (escapes_cons (fun _ => rfl) rfl (by decide) (by decide)) (by simp)
  · split
    · next several => exact .feed rfl several
    · exact .escape (escapes_cons (fun _ => rfl) rfl (by decide) (by decide)) (by simp)
  · exact .escape (escapes_cons (fun _ => rfl) rfl (by decide) (by decide)) (by simp)
  · next noQuote noSlash noTab noFeed noReturn =>
    have notQuoted : ¬ (c = '"' ∧ quotes < allowed) := fun both => noQuote both.1
    split
    · next back =>
      have same : c = Char.ofNat 8 := by rw [← back, Char.ofNat_toNat]
      exact .escape (escapes_cons (fun _ => by rw [same]; rfl) rfl (by decide) (by decide)) notQuoted
    · split
      · next form =>
        have same : c = Char.ofNat 12 := by rw [← form, Char.ofNat_toNat]
        exact .escape (escapes_cons (fun _ => by rw [same]; rfl) rfl (by decide) (by decide)) notQuoted
      · split
        · next control =>
          have small : c.toNat < 0x80 := by
            unfold needsEscape at control
            simp at control
            omega
          exact .escape (escapes_code small) notQuoted
        · next plain => exact .plain (isTextChar_of_needsEscape (by simpa using plain) noFeed) noQuote noSlash

/-- What a text begins with, unless it begins with a quote that stands for itself. -/
theorem head?_writeEscaped (noQuote : ¬ (c = '"' ∧ quotes < allowed)) :
    (writeEscaped multiline allowed quotes (c :: tail) ++ rest).head? ≠ some '"' := by
  rw [writeEscaped]
  generalize writeChar multiline allowed quotes c = written, writeChar_form multiline allowed quotes c = form
  cases form with
  | quote isQuote fewer => exact absurd ⟨isQuote, fewer⟩ noQuote
  | feed _ _ => simp
  | plain _ other _ => simpa using other
  | escape _ _ => simp

theorem length_le_writeEscaped (multiline : Bool) (allowed quotes : Nat) (chars : List Char) :
    chars.length ≤ (writeEscaped multiline allowed quotes chars).length := by
  induction chars generalizing quotes with
  | nil => exact Nat.le_refl 0
  | cons c tail ih =>
    rw [writeEscaped, List.length_append, List.length_cons]
    have one : 1 ≤ (writeChar multiline allowed quotes c).length := by
      generalize writeChar multiline allowed quotes c = written, writeChar_form multiline allowed quotes c = form
      cases form <;> simp
    have more := ih (if c = '"' ∧ quotes < allowed then quotes + 1 else 0)
    omega

/-! ## One line -/

/-- A text on one line with escapes is read back up to its quote. -/
theorem readBasic?_writeEscaped (quotes : Nat) (enough : chars.length ≤ fuel) (rest : List Char) :
    readBasic? fuel (writeEscaped false 0 quotes chars ++ '"' :: rest) = some (chars, rest) := by
  induction chars generalizing fuel quotes with
  | nil => cases fuel <;> rfl
  | cons c tail ih =>
    obtain ⟨fuel, rfl⟩ := Nat.exists_eq_add_of_le' enough
    have onwards := fun quotes => ih quotes (Nat.le_add_left tail.length fuel)
    rw [writeEscaped, List.append_assoc, List.length_cons, ← Nat.add_assoc]
    generalize writeChar false 0 quotes c = written, writeChar_form false 0 quotes c = form
    cases form with
    | quote _ fewer => exact absurd fewer (Nat.not_lt_zero quotes)
    | feed _ several => cases several
    | plain isText noQuote noSlash =>
      rw [List.singleton_append, readBasic?, if_pos isText, onwards]
      · rfl
      · exact noQuote
      · exact noSlash
    | escape escapes _ =>
      rw [List.cons_append, readBasic?, (escapes _).1]
      show consRead c _ = _
      rw [onwards]
      rfl

/-- A text on one line without escapes is read back up to its quote. -/
theorem readLiteral?_append (plain : ∀ c ∈ chars, isTextChar c = true ∧ c ≠ '\'') (rest : List Char) :
    readLiteral? (chars ++ '\'' :: rest) = some (chars, rest) := by
  induction chars with
  | nil => rfl
  | cons c tail ih =>
    obtain ⟨isText, other⟩ := plain c List.mem_cons_self
    rw [List.cons_append, readLiteral?, if_neg other, if_pos isText,
      ih (fun d mem => plain d (List.mem_cons_of_mem c mem))]
    rfl

/-! ## Several lines -/

/-- Of the quotes in front of the closing ones up to two belong to the text. -/
theorem closingQuotes_replicate (few : run ≤ 2) (other : rest.head? ≠ some quote) :
    closingQuotes quote (List.replicate run quote ++ rest) = (List.replicate run quote, rest) := by
  have none : rest.takeWhile (· = quote) = [] := by
    cases rest with
    | nil => rfl
    | cons c tail => exact List.takeWhile_cons_of_neg (by simpa using other)
  have all : (List.replicate run quote ++ rest).takeWhile (· = quote) = List.replicate run quote := by
    rw [List.takeWhile_append_of_pos (by simp [List.mem_replicate]), none, List.append_nil]
  rw [closingQuotes, all, List.length_replicate, Nat.min_eq_left few, List.drop_left' List.length_replicate]

theorem replicate_append_cons (run : Nat) (quote : Char) (rest : List Char) :
    List.replicate run quote ++ quote :: rest = quote :: (List.replicate run quote ++ rest) := by
  induction run with
  | zero => rfl
  | succ run ih => rw [List.replicate_succ, List.cons_append, ih, List.cons_append]

theorem readMultiBasic?_close (run fuel : Nat) (few : run ≤ 2) (other : rest.head? ≠ some '"') :
    readMultiBasic? fuel (List.replicate run '"' ++ '"' :: '"' :: '"' :: rest)
      = some (List.replicate run '"', rest) := by
  rw [replicate_append_cons, replicate_append_cons, replicate_append_cons, readMultiBasic?,
    closingQuotes_replicate few other]

/-- A quote that begins no three in a row belongs to the text. -/
theorem readMultiBasic?_quote (alone : ∀ more, rest ≠ '"' :: '"' :: more) :
    readMultiBasic? (fuel + 1) ('"' :: rest) = consRead '"' (readMultiBasic? fuel rest) := by
  rw [readMultiBasic?]
  · rfl
  · exact fun more _ => alone more
  · simp
  · simp

/-- A carriage return stands in no text as it is. -/
theorem ne_return_of_isTextChar (inside : (isTextChar c || c = '\n') = true) : c ≠ '\r' := by
  rintro rfl
  exact absurd inside (by decide)

theorem readMultiBasic?_char (inside : (isTextChar c || c = '\n') = true) (noQuote : c ≠ '"') (noSlash : c ≠ '\\') :
    readMultiBasic? (fuel + 1) (c :: rest) = consRead c (readMultiBasic? fuel rest) := by
  rw [readMultiBasic?, if_pos inside]
  · exact fun _ same => absurd same noQuote
  · exact noSlash
  · exact fun _ same => absurd same (ne_return_of_isTextChar inside)

theorem ne_cons_cons_of_head? (other : rest.head? ≠ some quote) (more : List Char) : rest ≠ quote :: more := by
  rintro rfl
  exact other rfl

/-- A text on several lines with escapes is read back up to its quotes. -/
theorem readMultiBasic?_writeEscaped (quotes : Nat) (enough : chars.length ≤ fuel) (other : rest.head? ≠ some '"') :
    readMultiBasic? fuel (writeEscaped true 2 quotes chars ++ '"' :: '"' :: '"' :: rest) = some (chars, rest) := by
  induction chars generalizing fuel quotes with
  | nil => exact readMultiBasic?_close 0 fuel (Nat.zero_le 2) other
  | cons c tail ih =>
    obtain ⟨less, rfl⟩ := Nat.exists_eq_add_of_le' enough
    have onwards := fun quotes => ih quotes (Nat.le_add_left tail.length less)
    rw [writeEscaped, List.append_assoc, List.length_cons, ← Nat.add_assoc]
    generalize writeChar true 2 quotes c = written, writeChar_form true 2 quotes c = form
    cases form with
    | quote isQuote fewer =>
      subst isQuote
      rw [List.singleton_append, if_pos ⟨rfl, fewer⟩]
      -- a quote is part of the closing ones only if none but quotes follow it
      rcases tail with _ | ⟨second, more⟩
      · exact readMultiBasic?_close 1 _ (by decide) other
      · by_cases again : second = '"' ∧ quotes + 1 < 2
        · obtain ⟨rfl, least⟩ := again
          obtain rfl : quotes = 0 := by omega
          rcases more with _ | ⟨third, later⟩
          · exact readMultiBasic?_close 2 _ (by decide) other
          · rw [readMultiBasic?_quote, onwards]
            · rfl
            · rintro more twice
              exact ne_cons_cons_of_head? (head?_writeEscaped (by simp)) _ (List.cons.inj twice).2
        · rw [readMultiBasic?_quote, onwards]
          · rfl
          · intro more
            exact ne_cons_cons_of_head? (head?_writeEscaped again) _
    | feed isFeed _ =>
      rw [isFeed, List.singleton_append, readMultiBasic?_char rfl (by decide) (by decide), onwards]
      rfl
    | plain isText noQuote noSlash =>
      rw [List.singleton_append, readMultiBasic?_char (by rw [isText]; rfl) noQuote noSlash, onwards]
      rfl
    | escape escapes _ =>
      rw [List.cons_append, readMultiBasic?, (escapes _).1, (escapes _).2]
      show consRead c _ = _
      rw [onwards]
      rfl

theorem le_longestRun (wanted : Char) (run longest : Nat) (chars : List Char) :
    longest ≤ longestRun wanted run longest chars := by
  induction chars generalizing run longest with
  | nil => exact Nat.le_refl longest
  | cons c tail ih =>
    rw [longestRun]
    split
    · exact Nat.le_trans (Nat.le_max_left longest (run + 1)) (ih _ _)
    · exact ih _ _

theorem longestRun_cons_self (few : longestRun wanted run longest (wanted :: tail) ≤ allowed) :
    run + 1 ≤ allowed ∧ longestRun wanted (run + 1) (max longest (run + 1)) tail ≤ allowed := by
  rw [longestRun, if_pos rfl] at few
  have least := le_longestRun wanted (run + 1) (max longest (run + 1)) tail
  exact ⟨by omega, few⟩

theorem not_mem_of_longestRun (none : longestRun wanted run longest chars = 0) : wanted ∉ chars := by
  induction chars generalizing run longest with
  | nil => exact List.not_mem_nil
  | cons c tail ih =>
    by_cases same : c = wanted
    · subst same
      exact absurd (longestRun_cons_self (Nat.le_of_eq none)).1 (Nat.not_succ_le_zero run)
    · rw [longestRun, if_neg same] at none
      rintro (_ | ⟨_, later⟩)
      · exact same rfl
      · exact ih none later

theorem readMultiLiteral?_close (run : Nat) (few : run ≤ 2) (other : rest.head? ≠ some '\'') :
    readMultiLiteral? (List.replicate run '\'' ++ '\'' :: '\'' :: '\'' :: rest)
      = some (List.replicate run '\'', rest) := by
  rw [replicate_append_cons, replicate_append_cons, replicate_append_cons, readMultiLiteral?,
    closingQuotes_replicate few other]

theorem readMultiLiteral?_char (inside : (isTextChar c || c = '\n') = true)
    (alone : c = '\'' → ∀ more, rest ≠ '\'' :: '\'' :: more) :
    readMultiLiteral? (c :: rest) = consRead c (readMultiLiteral? rest) := by
  rw [readMultiLiteral?, if_pos inside]
  · exact fun more same => alone same more
  · exact fun _ same => absurd same (ne_return_of_isTextChar inside)

/-- A text on several lines without escapes is read back up to its quotes. -/
theorem readMultiLiteral?_append (few : longestRun '\'' run longest chars ≤ 2)
    (plain : ∀ c ∈ chars, needsEscape c = false) (other : rest.head? ≠ some '\'') :
    readMultiLiteral? (chars ++ '\'' :: '\'' :: '\'' :: rest) = some (chars, rest) := by
  induction chars generalizing run longest with
  | nil => exact readMultiLiteral?_close 0 (Nat.zero_le 2) other
  | cons c tail ih =>
    have inside : (isTextChar c || c = '\n') = true := by
      by_cases feed : c = '\n'
      · simp [feed]
      · rw [isTextChar_of_needsEscape (plain c List.mem_cons_self) feed]
        rfl
    have later : ∀ d ∈ tail, needsEscape d = false := fun d mem => plain d (List.mem_cons_of_mem c mem)
    by_cases quote : c = '\''
    · subst quote
      obtain ⟨one, fewer⟩ := longestRun_cons_self few
      -- a quote is part of the closing ones only if none but quotes follow it
      rcases tail with _ | ⟨second, more⟩
      · exact readMultiLiteral?_close 1 (by decide) other
      · by_cases again : second = '\''
        · subst again
          obtain ⟨two, fewest⟩ := longestRun_cons_self fewer
          rcases more with _ | ⟨third, later⟩
          · exact readMultiLiteral?_close 2 (by decide) other
          · have last : third ≠ '\'' := by
              rintro rfl
              have three := (longestRun_cons_self fewest).1
              omega
            rw [List.cons_append, readMultiLiteral?_char inside, ih fewer later]
            · rfl
            · rintro - more twice
              exact last (List.cons.inj (List.cons.inj twice).2).1
        · rw [List.cons_append, readMultiLiteral?_char inside, ih fewer later]
          · rfl
          · rintro - more twice
            exact again (List.cons.inj twice).1
    · rw [longestRun, if_neg quote] at few
      rw [List.cons_append, readMultiLiteral?_char inside (fun same => absurd same quote), ih few later]
      rfl

/-! ## Any text -/

/-- What follows cannot belong to the quotes of the text in front. -/
def NoQuote (rest : List Char) : Prop := rest.head? ≠ some '"' ∧ rest.head? ≠ some '\''

theorem readQuoted?_basic (ends : NoQuote rest) :
    readQuoted? ('"' :: (writeEscaped false 0 0 chars ++ '"' :: rest)) = some (chars, rest) := by
  rw [readQuoted?]
  · exact readBasic?_writeEscaped 0 (by have := length_le_writeEscaped false 0 0 chars; simp; omega) rest
  · intro more three
    have two := (List.cons.inj three).2
    cases chars with
    | nil => exact ne_cons_cons_of_head? ends.1 more (List.cons.inj two).2
    | cons c tail => exact ne_cons_cons_of_head? (head?_writeEscaped (by simp)) _ two
  · simp

theorem readQuoted?_literal (plain : ∀ c ∈ chars, isTextChar c = true ∧ c ≠ '\'') (ends : NoQuote rest) :
    readQuoted? ('\'' :: (chars ++ '\'' :: rest)) = some (chars, rest) := by
  rw [readQuoted?]
  · exact readLiteral?_append plain rest
  · simp
  · intro more three
    have two := (List.cons.inj three).2
    cases chars with
    | nil => exact ne_cons_cons_of_head? ends.2 more (List.cons.inj two).2
    | cons c tail => exact (plain c List.mem_cons_self).2 (List.cons.inj two).1

/-- Behind the opening quotes a line break of their own is dropped, and no other. -/
theorem openMultiline_append (quote : Char) (feed : '\n' ∉ chars → rest.head? ≠ some '\n')
    (back : rest.head? ≠ some '\r') :
    ∃ body, openMultiline quote (Traits.of chars) ++ rest = quote :: quote :: quote :: body
      ∧ dropBreak body = rest ∧ rest.length ≤ body.length := by
  rw [openMultiline, Traits.of]
  cases breaks : chars.contains '\n' with
  | true => exact ⟨'\n' :: rest, rfl, rfl, Nat.le_succ rest.length⟩
  | false =>
    refine ⟨rest, rfl, ?_, Nat.le_refl rest.length⟩
    cases rest with
    | nil => rfl
    | cons c more =>
      have noFeed : '\n' ∉ chars := by simpa using breaks
      exact dropBreak_eq_self (by simpa using feed noFeed) (by simpa using back)

theorem head?_writeEscaped_multiline (chars rest : List Char) :
    (writeEscaped true 2 0 chars ++ '"' :: rest).head? ≠ some '\r'
      ∧ ('\n' ∉ chars → (writeEscaped true 2 0 chars ++ '"' :: rest).head? ≠ some '\n') := by
  cases chars with
  | nil => exact ⟨by simp [writeEscaped], fun _ => by simp [writeEscaped]⟩
  | cons c tail =>
    rw [writeEscaped]
    generalize writeChar true 2 0 c = written, writeChar_form true 2 0 c = form
    cases form with
    | quote _ _ => exact ⟨by simp, fun _ => by simp⟩
    | feed isFeed _ => exact ⟨by simp, fun noFeed => absurd (isFeed ▸ List.mem_cons_self) noFeed⟩
    | plain isText _ _ =>
      constructor
      · simpa using ne_return_of_isTextChar (c := c) (by rw [isText]; rfl)
      · intro noFeed same
        exact noFeed (Option.some.inj same ▸ List.mem_cons_self)
    | escape _ _ => exact ⟨by simp, fun _ => by simp⟩

theorem readQuoted?_multiBasic (chars : List Char) (ends : NoQuote rest) :
    readQuoted? (openMultiline '"' (Traits.of chars) ++ (writeEscaped true 2 0 chars ++ '"' :: '"' :: '"' :: rest))
      = some (chars, rest) := by
  obtain ⟨back, feed⟩ := head?_writeEscaped_multiline chars ('"' :: '"' :: rest)
  obtain ⟨body, opened, dropped, long⟩ := openMultiline_append '"' feed back
  have longer := length_le_writeEscaped true 2 0 chars
  rw [List.length_append] at long
  rw [opened, readQuoted?, dropped]
  exact readMultiBasic?_writeEscaped 0 (by omega) ends.1

theorem readQuoted?_multiLiteral (few : longestRun '\'' 0 0 chars ≤ 2)
    (plain : ∀ c ∈ chars, needsEscape c = false) (ends : NoQuote rest) :
    readQuoted? (openMultiline '\'' (Traits.of chars) ++ (chars ++ '\'' :: '\'' :: '\'' :: rest))
      = some (chars, rest) := by
  have back : (chars ++ '\'' :: '\'' :: '\'' :: rest).head? ≠ some '\r' := by
    cases chars with
    | nil => simp
    | cons c tail =>
      intro same
      have isReturn : c = '\r' := Option.some.inj same
      exact absurd (plain c List.mem_cons_self) (by rw [isReturn]; decide)
  have feed : '\n' ∉ chars → (chars ++ '\'' :: '\'' :: '\'' :: rest).head? ≠ some '\n' := by
    cases chars with
    | nil => simp
    | cons c tail => exact fun noFeed same => noFeed (Option.some.inj same ▸ List.mem_cons_self)
  obtain ⟨body, opened, dropped, -⟩ := openMultiline_append '\'' feed back
  rw [opened, readQuoted?, dropped]
  exact readMultiLiteral?_append few plain ends.2

/-- A written text begins with a quote. -/
theorem write_eq_cons (text : String) :
    ∃ quote more, (write text).toList = quote :: more ∧ (quote = '"' ∨ quote = '\'') := by
  rw [write, String.toList_ofList]
  split
  · exact ⟨_, _, rfl, .inl rfl⟩
  split
  · exact ⟨_, _, rfl, .inr rfl⟩
  split
  · exact ⟨_, _, rfl, .inl rfl⟩
  split
  · exact ⟨_, _, rfl, .inr rfl⟩
  split
  · exact ⟨_, _, rfl, .inl rfl⟩
  · exact ⟨_, _, rfl, .inl rfl⟩

/-- **A written text is read back**, whatever follows that does not begin with a quote. -/
theorem readQuoted?_write (text : String) (ends : NoQuote rest) :
    readQuoted? ((write text).toList ++ rest) = some (text.toList, rest) := by
  have noControl : (Traits.of text.toList).control = false → ∀ c ∈ text.toList, needsEscape c = false := by
    intro none c mem
    simpa using List.any_eq_false.mp none c mem
  rw [write, String.toList_ofList]
  split
  · simpa using readQuoted?_basic ends
  split
  · next plain =>
    simp only [Bool.and_eq_true, Bool.not_eq_true', decide_eq_true_eq] at plain
    obtain ⟨⟨control, quotes⟩, breaks⟩ := plain
    have inside : ∀ c ∈ text.toList, isTextChar c = true ∧ c ≠ '\'' := by
      intro c mem
      have sameLine : c ≠ '\n' := by
        rintro rfl
        exact absurd (List.contains_iff_mem.mpr mem) (Bool.eq_false_iff.mp breaks)
      refine ⟨isTextChar_of_needsEscape (noControl control c mem) sameLine, ?_⟩
      rintro rfl
      exact not_mem_of_longestRun quotes mem
    simpa using readQuoted?_literal inside ends
  split
  · simpa using readQuoted?_multiBasic text.toList ends
  split
  · next plain =>
    simp only [Bool.and_eq_true, Bool.not_eq_true', decide_eq_true_eq] at plain
    simpa using readQuoted?_multiLiteral plain.2 (noControl plain.1) ends
  split
  · simpa using readQuoted?_multiBasic text.toList ends
  · simpa using readQuoted?_basic ends

end DeviceConsole.Toml
