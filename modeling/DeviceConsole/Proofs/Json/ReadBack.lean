import DeviceConsole.Json.Reader
import DeviceConsole.Proofs.Net.Dotted
import Mathlib.Data.List.TakeDrop
import Mathlib.Tactic.IntervalCases

/-!
# `Proofs.Json.ReadBack` — a written document is read back

A document is written on one line or on many. What a reader needs to know of either is the same: blanks stand only where
it skips them, and what follows a part is the end of the text, a blank, a comma or a closing bracket. None of these
belongs to a number, and texts and brackets say themselves where they end. So the texts of a document are a relation,
which both writers stay in, and the reader is followed along the relation. A level of brackets takes a character, so a
document needs no more steps than its text has characters.

Numbers that are not natural and texts that are no sequence of characters are not written as they are, so they are left
out here.

* `escape_form`, `readString?_write` — texts;
* `readNumber?_write` — natural numbers;
* `Value.Plain`, `Written` — the documents, and what they may be written as;
* `Written.reads`, `Value.ofJson?_of_written` — **what was written is read back**, whatever follows it;
* `Value.written_compact`, `Value.written_prettyAt` — the two writers;
* `Value.ofJson?_compact`, `Value.ofJson?_pretty` — a document on one line and on many is read as itself.
-/

namespace DeviceConsole.Json

open Text (Decimal.write)

variable {c : Char} {rest : List Char} {fuel : Nat}

/-! ## Texts -/

/-- A character stands for itself, or an escape stands for it. -/
theorem escape_form (c : Char) :
    (escape c = [c] ∧ c ≠ '"' ∧ c ≠ '\\' ∧ ¬ c.toNat < 32)
      ∨ ∃ code, escape c = '\\' :: code ∧ ∀ rest, readEscape? (code ++ rest) = some (.char c, rest) := by
  unfold escape
  split
  · exact .inr ⟨['"'], rfl, fun _ => rfl⟩
  · exact .inr ⟨['\\'], rfl, fun _ => rfl⟩
  · exact .inr ⟨['n'], rfl, fun _ => rfl⟩
  · exact .inr ⟨['r'], rfl, fun _ => rfl⟩
  · exact .inr ⟨['t'], rfl, fun _ => rfl⟩
  · next quote slash _ _ _ =>
    have own : Char.ofNat c.toNat = c := Char.ofNat_toNat c
    split
    · next back =>
      rw [back] at own
      exact .inr ⟨['b'], rfl, fun _ => by rw [← own]; rfl⟩
    · split
      · next feed =>
        rw [feed] at own
        exact .inr ⟨['f'], rfl, fun _ => by rw [← own]; rfl⟩
      · split
        · next small =>
          have units : ∀ code ∈ List.range 32, Text.Hex.readNumber? 4
              ['0', '0', Text.Hex.lowerDigitChar (code / 16), Text.Hex.lowerDigitChar (code % 16)] = some code := by
            decide
          have unit := units c.toNat (List.mem_range.mpr small)
          refine .inr ⟨['u', '0', '0', Text.Hex.lowerDigitChar (c.toNat / 16),
            Text.Hex.lowerDigitChar (c.toNat % 16)], rfl, fun rest => ?_⟩
          have read : readUnit? ('0' :: '0' :: Text.Hex.lowerDigitChar (c.toNat / 16)
              :: Text.Hex.lowerDigitChar (c.toNat % 16) :: rest) = some (c.toNat, rest) := by
            rw [readUnit?, unit]
            rfl
          have whole : ofUnit c.toNat = .char c := by
            rw [ofUnit, if_neg (by omega), own]
          simp only [List.cons_append, List.nil_append, readEscape?, read, Option.map_some, whole]
        · next large => exact .inl ⟨rfl, quote, slash, large⟩

/-- A written character is one piece of the text. -/
theorem readPieces?_escape (c : Char) (fuel : Nat) (rest : List Char) :
    readPieces? (fuel + 1) (escape c ++ rest)
      = (readPieces? fuel rest).map fun found => (.char c :: found.1, found.2) := by
  obtain ⟨itself, quote, slash, large⟩ | ⟨code, escaped, read⟩ := escape_form c
  · rw [itself, List.singleton_append, readPieces?, if_neg large]
    · exact quote
    · exact slash
  · rw [escaped, List.cons_append, readPieces?, read, Option.map_eq_bind]
    rfl

theorem readPieces?_write (chars : List Char) (enough : chars.length ≤ fuel) (rest : List Char) :
    readPieces? fuel (chars.flatMap escape ++ '"' :: rest) = some (chars.map .char, rest) := by
  induction chars generalizing fuel with
  | nil => rw [List.flatMap_nil, List.nil_append, readPieces?, List.map_nil]
  | cons c more ih =>
    obtain ⟨left, rfl⟩ : ∃ left, fuel = left + 1 := ⟨fuel - 1, by simp only [List.length_cons] at enough; omega⟩
    rw [List.flatMap_cons, List.append_assoc, readPieces?_escape, ih (Nat.le_of_succ_le_succ enough)]
    rfl

theorem joinPieces?_chars (chars : List Char) : joinPieces? (chars.map .char) = some chars := by
  induction chars with
  | nil => rfl
  | cons c rest ih => rw [List.map_cons, joinPieces?, ih, Option.map_some]

theorem length_le_escape (chars : List Char) : chars.length ≤ (chars.flatMap escape).length := by
  induction chars with
  | nil => exact Nat.le_refl 0
  | cons c rest ih =>
    have some_char : 1 ≤ (escape c).length := by
      obtain ⟨itself, -⟩ | ⟨code, escaped, -⟩ := escape_form c
      · rw [itself]
        exact Nat.le_refl 1
      · rw [escaped]
        exact Nat.succ_le_succ (Nat.zero_le _)
    rw [List.flatMap_cons, List.length_append, List.length_cons]
    omega

/-- **A written text is read back** up to its closing quote. -/
theorem readString?_write (text : String) (rest : List Char) :
    readString? (text.toList.flatMap escape ++ '"' :: rest) = some (some text, rest) := by
  have enough : text.toList.length ≤ (text.toList.flatMap escape ++ '"' :: rest).length := by
    rw [List.length_append]
    exact Nat.le_trans (length_le_escape _) (Nat.le_add_right _ _)
  rw [readString?, readPieces?_write text.toList enough rest, Option.map_some]
  simp only [joinPieces?_chars, Option.map_some, String.ofList_toList]

theorem toList_writeString (text : String) :
    (writeString text).toList = '"' :: (text.toList.flatMap escape ++ ['"']) := by
  rw [writeString, String.toList_ofList]

/-! ## Blanks -/

/-- The character is a blank. -/
def isBlank (c : Char) : Bool := c == ' ' || c == '\t' || c == '\n' || c == '\r'

/-- Nothing but blanks. -/
def Blank (text : List Char) : Prop := ∀ c ∈ text, isBlank c = true

theorem blank_nil : Blank [] := fun _ mem => absurd mem List.not_mem_nil

theorem isBlank_cases (blank : isBlank c = true) : c = ' ' ∨ c = '\t' ∨ c = '\n' ∨ c = '\r' := by
  simpa [isBlank, or_assoc] using blank

theorem Blank.skip {front : List Char} (blank : Blank front) (text : List Char) :
    skipBlanks (front ++ text) = skipBlanks text := List.dropWhile_append_of_pos blank

theorem skipBlanks_cons (ink : isBlank c = false) : skipBlanks (c :: rest) = c :: rest :=
  List.dropWhile_cons_of_neg (Bool.eq_false_iff.mp ink)

/-! ## Numbers -/

/-- What follows a part of a document: the end, a blank, a comma or a closing bracket. -/
def Ends (rest : List Char) : Prop := ∀ c ∈ rest.head?, isBlank c = true ∨ c = ',' ∨ c = ']' ∨ c = '\x7d'

theorem ends_comma (rest : List Char) : Ends (',' :: rest) := by simp [Ends]

/-- Blanks and a bracket that closes follow a part. -/
theorem Blank.ends {back : List Char} (blank : Blank back) (closes : c = ']' ∨ c = '\x7d') (rest : List Char) :
    Ends (back ++ c :: rest) := by
  intro first mem
  cases back with
  | nil =>
    obtain rfl : c = first := by simpa using mem
    exact .inr (.inr closes)
  | cons head tail =>
    obtain rfl : head = first := by simpa using mem
    exact .inl (blank head List.mem_cons_self)

theorem Ends.cases (ends : Ends (c :: rest)) :
    c = ' ' ∨ c = '\t' ∨ c = '\n' ∨ c = '\r' ∨ c = ',' ∨ c = ']' ∨ c = '\x7d' := by
  rcases ends c rfl with blank | closes
  · have := isBlank_cases blank
    tauto
  · tauto

/-- What follows a part is no fraction and no exponent. -/
theorem Ends.stops (ends : Ends rest) :
    skipFraction? rest = some (false, rest) ∧ skipExponent? rest = some (false, rest) := by
  cases rest with
  | nil => exact ⟨rfl, rfl⟩
  | cons c more =>
    obtain rfl | rfl | rfl | rfl | rfl | rfl | rfl := ends.cases
    all_goals exact ⟨rfl, rfl⟩

theorem Ends.noDigit (ends : Ends rest) : Net.NoDigit rest := by
  intro c mem
  obtain ⟨more, rfl⟩ : ∃ more, rest = c :: more := List.head?_eq_some_iff.mp mem
  obtain rfl | rfl | rfl | rfl | rfl | rfl | rfl := ends.cases
  all_goals rfl

/-- **A natural number is read back** in front of what follows a part. -/
theorem readNumber?_write (count : Nat) (ends : Ends rest) :
    readNumber? (Decimal.write count ++ rest) = some (.natural count, rest) := by
  obtain ⟨fraction, exponent⟩ := ends.stops
  have span : spanDigits (Decimal.write count ++ rest) = (Decimal.write count, rest) := by
    have digits := @Net.takeWhile_write count rest ends.noDigit
    have whole := List.takeWhile_append_dropWhile (p := fun c => (Text.Decimal.digitValue? c).isSome)
      (l := Decimal.write count ++ rest)
    rw [digits] at whole
    rw [spanDigits, List.span_eq_takeWhile_dropWhile, digits, List.append_cancel_left whole]
  -- a leading zero is the digit of zero itself
  have plain : ((Decimal.write count).isEmpty
      || (Decimal.write count).head? == some '0' && (Decimal.write count).length != 1) = false := by
    rw [List.isEmpty_eq_false_iff.mpr (Text.Decimal.write_ne_nil count), Bool.false_or]
    by_cases zero : (Decimal.write count).head? = some '0'
    · rw [Text.Decimal.head?_write zero]
      decide +kernel
    · rw [beq_eq_false_iff_ne.mpr zero, Bool.false_and]
  have unsigned : readUnsigned? (Decimal.write count ++ rest) = some (.natural count, rest) := by
    simp only [readUnsigned?, span, plain, Bool.false_eq_true, if_false, fraction, exponent, Option.bind_eq_bind,
      Option.bind_some, Bool.or_self, Text.Decimal.readDigits?_write, Option.pure_def]
  obtain ⟨digit, more, small, digits⟩ := Text.Decimal.exists_digit count
  have noSign : ∀ digit ∈ List.range 10, Text.Decimal.digitChar digit ≠ '-' := by decide
  rw [digits, List.cons_append] at unsigned ⊢
  rw [readNumber?]
  · exact unsigned
  · intro tail same
    exact noSign digit (List.mem_range.mpr small) (List.cons.inj same).1

/-! ## What a part starts with -/

/-- The character is no blank and closes nothing. -/
def Begins (c : Char) : Prop := isBlank c = false ∧ c ≠ ']' ∧ c ≠ '\x7d'

instance (c : Char) : Decidable (Begins c) := inferInstanceAs (Decidable (_ ∧ _))

theorem begins_digit {digit : Nat} (small : digit < 10) : Begins (Text.Decimal.digitChar digit) := by
  have all : ∀ digit ∈ List.range 10, Begins (Text.Decimal.digitChar digit) := by decide
  exact all digit (List.mem_range.mpr small)

/-! ## Plain documents -/

mutual

/-- A document that is written as it is: all its numbers are natural, and all its texts and names are sequences of
characters. -/
def Value.Plain : Value → Prop
  | .null => True
  | .bool _ => True
  | .natural _ => True
  | .otherNumber => False
  | .text text => text.isSome = true
  | .array items => allPlain items
  | .object members => allMembersPlain members

/-- Each of the items is such a document. -/
def allPlain : List Value → Prop
  | [] => True
  | item :: rest => item.Plain ∧ allPlain rest

/-- Each of the members has a name and such a document. -/
def allMembersPlain : List (Option String × Value) → Prop
  | [] => True
  | (name, value) :: rest => name.isSome = true ∧ value.Plain ∧ allMembersPlain rest

end

theorem allPlain_iff {items : List Value} : allPlain items ↔ ∀ item ∈ items, item.Plain := by
  induction items with
  | nil => simp [allPlain]
  | cons item rest ih => rw [allPlain, ih, List.forall_mem_cons]

theorem allMembersPlain_iff {members : List (Option String × Value)} :
    allMembersPlain members ↔ ∀ member ∈ members, member.1.isSome = true ∧ member.2.Plain := by
  induction members with
  | nil => simp [allMembersPlain]
  | cons member rest ih => rw [allMembersPlain, ih, List.forall_mem_cons, and_assoc]

/-- A document without parts. -/
def Value.Atomic : Value → Prop
  | .array _ | .object _ => False
  | _ => True

/-! ## Written documents -/

/-- A document, a member of an object, or what stands between brackets. -/
inductive Part where
  | value (value : Value)
  | member (member : Option String × Value)
  | items (items : List Value)
  | members (members : List (Option String × Value))

/-- A member: its name between quotes, a colon, blanks and its document. -/
def memberText (name : String) (gap text : List Char) : List Char :=
  '"' :: (name.toList.flatMap escape ++ '"' :: ':' :: (gap ++ text))

/-- **What a part may be written as.** Blanks may stand before and behind what is between brackets, behind a comma and
behind a colon. -/
inductive Written : Part → List Char → Prop where
  | atom {value : Value} : value.Plain → value.Atomic → Written (.value value) (writeAtom value).toList
  | emptyArray : Written (.value (.array [])) ['[', ']']
  | array {items : List Value} {front text back : List Char} : Blank front → Written (.items items) text → Blank back →
      Written (.value (.array items)) ('[' :: (front ++ text ++ back ++ [']']))
  | emptyObject : Written (.value (.object [])) ['\x7b', '\x7d']
  | object {members : List (Option String × Value)} {front text back : List Char} :
      Blank front → Written (.members members) text → Blank back →
      Written (.value (.object members)) ('\x7b' :: (front ++ text ++ back ++ ['\x7d']))
  | member (name : String) {value : Value} {gap text : List Char} : Blank gap → Written (.value value) text →
      Written (.member (some name, value)) (memberText name gap text)
  | lastItem {item : Value} {text : List Char} : Written (.value item) text → Written (.items [item]) text
  | items {item : Value} {items : List Value} {text gap more : List Char} :
      Written (.value item) text → Blank gap → Written (.items items) more →
      Written (.items (item :: items)) (text ++ ',' :: (gap ++ more))
  | lastMember {member : Option String × Value} {text : List Char} : Written (.member member) text →
      Written (.members [member]) text
  | members {member : Option String × Value} {members : List (Option String × Value)} {text gap more : List Char} :
      Written (.member member) text → Blank gap → Written (.members members) more →
      Written (.members (member :: members)) (text ++ ',' :: (gap ++ more))

theorem writeAtom_begins {value : Value} (plain : value.Plain) (atomic : value.Atomic) :
    ∃ c more, (writeAtom value).toList = c :: more ∧ Begins c := by
  cases value with
  | null => exact ⟨'n', _, rfl, by decide⟩
  | bool truth =>
    cases truth with
    | true => exact ⟨'t', _, rfl, by decide⟩
    | false => exact ⟨'f', _, rfl, by decide⟩
  | natural count =>
    obtain ⟨digit, more, small, digits⟩ := Text.Decimal.exists_digit count
    exact ⟨_, more, String.toList_ofList.trans digits, begins_digit small⟩
  | otherNumber => exact plain.elim
  | text text => exact ⟨'"', _, toList_writeString _, by decide⟩
  | array items => exact atomic.elim
  | object members => exact atomic.elim

/-- A written part starts with a character that is no blank and closes nothing. -/
theorem Written.begins {part : Part} {text : List Char} (written : Written part text) :
    ∃ c more, text = c :: more ∧ Begins c := by
  induction written with
  | atom plain atomic => exact writeAtom_begins plain atomic
  | emptyArray => exact ⟨'[', _, rfl, by decide⟩
  | array => exact ⟨'[', _, rfl, by decide⟩
  | emptyObject => exact ⟨'\x7b', _, rfl, by decide⟩
  | object => exact ⟨'\x7b', _, rfl, by decide⟩
  | member name => exact ⟨'"', _, rfl, by decide⟩
  | lastItem _ ih => exact ih
  | items _ _ _ ih _ =>
    obtain ⟨c, more, rfl, begins⟩ := ih
    exact ⟨c, _, rfl, begins⟩
  | lastMember _ ih => exact ih
  | members _ _ _ ih _ =>
    obtain ⟨c, more, rfl, begins⟩ := ih
    exact ⟨c, _, rfl, begins⟩

/-- No text of a part is empty, so a reader that has as many steps as characters has a step. -/
theorem Written.some_step {part : Part} {text : List Char} (written : Written part text)
    (enough : text.length ≤ fuel) : ∃ left, fuel = left + 1 := by
  obtain ⟨c, more, rfl, -⟩ := written.begins
  rw [List.length_cons] at enough
  exact ⟨fuel - 1, by omega⟩

/-! ## Reading written documents -/

section Reading

variable {front back text behind : List Char} {value : Value}

/-- Blanks in front of a document are skipped. -/
theorem readValue?_blank (blank : Blank front) (fuel : Nat) (text : List Char) :
    readValue? fuel (front ++ text) = readValue? fuel text := by
  cases fuel with
  | zero => rfl
  | succ left => rw [readValue?, readValue?, blank.skip]

theorem readItems?_blank (blank : Blank front) (fuel : Nat) (text : List Char) :
    readItems? fuel (front ++ text) = readItems? fuel text := by
  cases fuel with
  | zero => rfl
  | succ left => rw [readItems?, readItems?, readValue?_blank blank]

theorem readMembers?_blank (blank : Blank front) (fuel : Nat) (text : List Char) :
    readMembers? fuel (front ++ text) = readMembers? fuel text := by
  cases fuel with
  | zero => rfl
  | succ left => rw [readMembers?, readMembers?, blank.skip]

/-- A document that starts with a digit is a number. -/
theorem readValue?_digit {digit : Nat} (small : digit < 10) (fuel : Nat) (rest : List Char) :
    readValue? (fuel + 1) (Text.Decimal.digitChar digit :: rest)
      = readNumber? (Text.Decimal.digitChar digit :: rest) := by
  interval_cases digit <;> rfl

theorem readValue?_natural (count : Nat) (ends : Ends rest) :
    readValue? (fuel + 1) (Decimal.write count ++ rest) = some (.natural count, rest) := by
  obtain ⟨digit, more, small, digits⟩ := Text.Decimal.exists_digit count
  have number := readNumber?_write count ends
  rw [digits, List.cons_append] at number ⊢
  rw [readValue?_digit small, number]

theorem readValue?_text (text : String) :
    readValue? (fuel + 1) ((writeString text).toList ++ rest) = some (.text (some text), rest) := by
  rw [toList_writeString, List.cons_append, List.append_assoc]
  show (readString? (text.toList.flatMap escape ++ '"' :: rest)).map _ = _
  rw [readString?_write]
  rfl

theorem readValue?_atom (plain : value.Plain) (atomic : value.Atomic) (ends : Ends rest) :
    readValue? (fuel + 1) ((writeAtom value).toList ++ rest) = some (value, rest) := by
  cases value with
  | null => rfl
  | bool truth => cases truth <;> rfl
  | natural count =>
    have digits : (writeAtom (.natural count)).toList = Decimal.write count := String.toList_ofList
    rw [digits, readValue?_natural count ends]
  | otherNumber => exact plain.elim
  | text text =>
    obtain ⟨text, rfl⟩ := Option.isSome_iff_exists.mp plain
    exact readValue?_text text
  | array items => exact atomic.elim
  | object members => exact atomic.elim

/-- What follows an opening bracket are items, if it closes nothing. -/
theorem readValue?_bracket (blank : Blank front) (begins : Begins c) (fuel : Nat) (rest : List Char) :
    readValue? (fuel + 1) ('[' :: (front ++ c :: rest))
      = (readItems? fuel (c :: rest)).map fun found => (.array found.1, found.2) := by
  rw [readValue?, skipBlanks_cons (by decide)]
  simp only [blank.skip, skipBlanks_cons begins.1]
  split
  · next closed => exact absurd (List.cons.inj closed).1 begins.2.1
  · rfl

/-- What follows an opening brace are members, if it closes nothing. -/
theorem readValue?_brace (blank : Blank front) (begins : Begins c) (fuel : Nat) (rest : List Char) :
    readValue? (fuel + 1) ('\x7b' :: (front ++ c :: rest))
      = (readMembers? fuel (c :: rest)).map fun found => (.object found.1, found.2) := by
  rw [readValue?, skipBlanks_cons (by decide)]
  simp only [blank.skip, skipBlanks_cons begins.1]
  split
  · next closed => exact absurd (List.cons.inj closed).1 begins.2.2
  · rfl

/-- A member and what follows it. -/
theorem readMembers?_member (name : String) (blank : Blank front)
    (read : readValue? fuel (text ++ behind) = some (value, behind)) :
    readMembers? (fuel + 1) (memberText name front text ++ behind)
      = match skipBlanks behind with
        | '\x7d' :: rest => some ([(some name, value)], rest)
        | ',' :: rest => (readMembers? fuel rest).bind fun found => some ((some name, value) :: found.1, found.2)
        | _ => none := by
  have shape : memberText name front text ++ behind
      = '"' :: (name.toList.flatMap escape ++ '"' :: ':' :: (front ++ (text ++ behind))) := by simp [memberText]
  have opened := readMembers?.eq_def (fuel + 1)
    ('"' :: (name.toList.flatMap escape ++ '"' :: ':' :: (front ++ (text ++ behind))))
  simp only [skipBlanks_cons (show isBlank '"' = false by decide), skipBlanks_cons (show isBlank ':' = false by decide),
    readString?_write, readValue?_blank blank, read, Option.bind_eq_bind, Option.bind_some, Option.pure_def] at opened
  rw [shape]
  exact opened

end Reading

/-- What the readers make of a text: the part, and what stands behind it or behind the bracket that closes it. -/
def Reads : Part → List Char → Prop
  | .value value, text => ∀ {fuel : Nat} {rest : List Char}, text.length ≤ fuel → Ends rest →
      readValue? fuel (text ++ rest) = some (value, rest)
  | .member member, text => ∀ {fuel : Nat} {behind : List Char}, text.length ≤ fuel → Ends behind →
      readMembers? (fuel + 1) (text ++ behind)
        = match skipBlanks behind with
          | '\x7d' :: rest => some ([member], rest)
          | ',' :: rest => (readMembers? fuel rest).bind fun found => some (member :: found.1, found.2)
          | _ => none
  | .items items, text => ∀ {fuel : Nat} {back : List Char} (rest : List Char), text.length < fuel → Blank back →
      readItems? fuel (text ++ (back ++ ']' :: rest)) = some (items, rest)
  | .members members, text => ∀ {fuel : Nat} {back : List Char} (rest : List Char), text.length < fuel → Blank back →
      readMembers? fuel (text ++ (back ++ '\x7d' :: rest)) = some (members, rest)

/-- What is between brackets is shorter than the text with them. -/
theorem length_lt_of_enclosed {opening closing : Char} {front text back : List Char}
    (enough : (opening :: (front ++ text ++ back ++ [closing])).length ≤ fuel + 1) : text.length < fuel := by
  simp only [List.length_cons, List.length_append] at enough
  omega

theorem enclosed_append (opening closing : Char) (front text back rest : List Char) :
    opening :: (front ++ text ++ back ++ [closing]) ++ rest
      = opening :: (front ++ (text ++ (back ++ closing :: rest))) := by
  simp only [List.cons_append, List.append_assoc, List.nil_append]

theorem joined_append (text gap more rest : List Char) :
    text ++ ',' :: (gap ++ more) ++ rest = text ++ ',' :: (gap ++ (more ++ rest)) := by
  simp only [List.append_assoc, List.cons_append]

/-- **A written part is read back**, whatever follows it. -/
theorem Written.reads {part : Part} {text : List Char} (written : Written part text) : Reads part text := by
  induction written with
  | atom plain atomic =>
    intro fuel rest enough ends
    obtain ⟨left, rfl⟩ := (Written.atom plain atomic).some_step enough
    exact readValue?_atom plain atomic ends
  | emptyArray =>
    intro fuel rest enough _
    obtain ⟨left, rfl⟩ := Written.emptyArray.some_step enough
    rfl
  | @array items front text back before inside after ih =>
    intro fuel rest enough _
    obtain ⟨left, rfl⟩ := (Written.array before inside after).some_step enough
    have read := ih rest (length_lt_of_enclosed enough) after
    obtain ⟨c, more, rfl, begins⟩ := inside.begins
    rw [List.cons_append] at read
    rw [enclosed_append, List.cons_append, readValue?_bracket before begins, read]
    rfl
  | emptyObject =>
    intro fuel rest enough _
    obtain ⟨left, rfl⟩ := Written.emptyObject.some_step enough
    rfl
  | @object members front text back before inside after ih =>
    intro fuel rest enough _
    obtain ⟨left, rfl⟩ := (Written.object before inside after).some_step enough
    have read := ih rest (length_lt_of_enclosed enough) after
    obtain ⟨c, more, rfl, begins⟩ := inside.begins
    rw [List.cons_append] at read
    rw [enclosed_append, List.cons_append, readValue?_brace before begins, read]
    rfl
  | @member name value gap text blank _ ih =>
    intro fuel behind enough ends
    have inside : text.length ≤ (memberText name gap text).length := by
      simp only [memberText, List.length_cons, List.length_append]
      omega
    exact readMembers?_member name blank (ih (Nat.le_trans inside enough) ends)
  | lastItem _ ih =>
    intro fuel back rest enough blank
    obtain ⟨left, rfl⟩ := Nat.exists_eq_succ_of_ne_zero (Nat.ne_zero_of_lt enough)
    rw [readItems?, ih (Nat.le_of_lt_succ enough) (blank.ends (.inl rfl) rest)]
    simp only [Option.bind_eq_bind, Option.bind_some, blank.skip, skipBlanks_cons (show isBlank ']' = false by decide)]
    rfl
  | @items item items text gap more _ between _ ih others =>
    intro fuel back rest enough blank
    obtain ⟨left, rfl⟩ := Nat.exists_eq_succ_of_ne_zero (Nat.ne_zero_of_lt enough)
    simp only [List.length_append, List.length_cons] at enough
    rw [joined_append, readItems?, ih (by omega) (ends_comma _)]
    simp only [Option.bind_eq_bind, Option.bind_some, skipBlanks_cons (show isBlank ',' = false by decide),
      readItems?_blank between]
    rw [others rest (by omega) blank]
    rfl
  | lastMember _ ih =>
    intro fuel back rest enough blank
    obtain ⟨left, rfl⟩ := Nat.exists_eq_succ_of_ne_zero (Nat.ne_zero_of_lt enough)
    rw [ih (Nat.le_of_lt_succ enough) (blank.ends (.inr rfl) rest), blank.skip, skipBlanks_cons (by decide)]
    rfl
  | @members member members text gap more _ between _ ih others =>
    intro fuel back rest enough blank
    obtain ⟨left, rfl⟩ := Nat.exists_eq_succ_of_ne_zero (Nat.ne_zero_of_lt enough)
    simp only [List.length_append, List.length_cons] at enough
    rw [joined_append, ih (by omega) (ends_comma _), skipBlanks_cons (by decide)]
    show (readMembers? left (gap ++ _)).bind _ = _
    rw [readMembers?_blank between, others rest (by omega) blank]
    rfl

/-- **A text that a document is written as is read as the document.** -/
theorem Value.ofJson?_of_written {value : Value} {text : String} (written : Written (.value value) text.toList) :
    ofJson? text = some value := by
  have enough : text.toList.length ≤ 2 * text.length + 2 := by
    rw [String.length_toList]
    omega
  have read : readValue? (2 * text.length + 2) (text.toList ++ []) = some (value, []) :=
    written.reads enough (by simp [Ends])
  rw [List.append_nil] at read
  rw [ofJson?, read]
  rfl

/-! ## Layouts -/

/-- Parts with a comma and blanks between them. -/
theorem written_joined {α : Type} {one : α → Part} {many : List α → Part}
    (last : ∀ {part text}, Written (one part) text → Written (many [part]) text)
    (further : ∀ {part parts text gap more}, Written (one part) text → Blank gap → Written (many parts) more →
      Written (many (part :: parts)) (text ++ ',' :: (gap ++ more)))
    {separator : String} {gap : List Char} (comma : separator.toList = ',' :: gap) (blank : Blank gap)
    {parts : List α} {texts : List String}
    (each : List.Forall₂ (fun part text => Written (one part) text.toList) parts texts) (some_part : parts ≠ []) :
    Written (many parts) (separator.intercalate texts).toList := by
  induction each with
  | nil => exact absurd rfl some_part
  | @cons part text parts texts own others ih =>
    cases others with
    | nil =>
      rw [String.intercalate_singleton]
      exact last own
    | cons next more =>
      rw [String.intercalate_cons_cons, String.toList_append, String.toList_append, comma, List.append_assoc]
      exact further own blank (ih (List.cons_ne_nil _ _))

mutual

/-- **A document on one line is written.** -/
theorem Value.written_compact (value : Value) (plain : value.Plain) : Written (.value value) value.compact.toList := by
  revert plain
  match value with
  | .null => exact fun plain => .atom plain trivial
  | .bool _ => exact fun plain => .atom plain trivial
  | .natural _ => exact fun plain => .atom plain trivial
  | .otherNumber => exact fun plain => plain.elim
  | .text _ => exact fun plain => .atom plain trivial
  | .array [] => exact fun _ => .emptyArray
  | .array (item :: items) =>
    intro plain
    have each := written_compactItems (item :: items) plain
    have inside : Written (.items (item :: items)) (",".intercalate (compactItems _)).toList :=
      written_joined .lastItem .items rfl blank_nil each (List.cons_ne_nil _ _)
    have whole := Written.array blank_nil inside blank_nil
    simpa [Value.compact] using whole
  | .object [] => exact fun _ => .emptyObject
  | .object (member :: members) =>
    intro plain
    have each := written_compactMembers (member :: members) plain
    have inside : Written (.members (member :: members)) (",".intercalate (compactMembers _)).toList :=
      written_joined .lastMember .members rfl blank_nil each (List.cons_ne_nil _ _)
    have whole := Written.object blank_nil inside blank_nil
    simpa [Value.compact] using whole

theorem written_compactItems (items : List Value) (plain : allPlain items) :
    List.Forall₂ (fun item text => Written (.value item) text.toList) items (compactItems items) := by
  revert plain
  match items with
  | [] => exact fun _ => .nil
  | item :: rest => exact fun plain => .cons (item.written_compact plain.1) (written_compactItems rest plain.2)

theorem written_compactMembers (members : List (Option String × Value)) (plain : allMembersPlain members) :
    List.Forall₂ (fun member text => Written (.member member) text.toList) members (compactMembers members) := by
  revert plain
  match members with
  | [] => exact fun _ => .nil
  | (name, value) :: rest =>
    rintro ⟨named, own, others⟩
    obtain ⟨name, rfl⟩ := Option.isSome_iff_exists.mp named
    refine .cons ?_ (written_compactMembers rest others)
    have written := Written.member name blank_nil (value.written_compact own)
    simpa [memberText, writeText, toList_writeString] using written

end

/-- A line break and the margin behind it. -/
def lineBreak (width : Nat) : List Char := '\n' :: List.replicate width ' '

theorem blank_lineBreak (width : Nat) : Blank (lineBreak width) := by
  intro c mem
  obtain rfl | space := List.mem_cons.mp mem
  · rfl
  · rw [List.eq_of_mem_replicate space]
    rfl

/-- A comma in front of a line break. -/
def breakingComma (width : Nat) : String := "," ++ ("\n" ++ margin width)

theorem toList_breakingComma (width : Nat) : (breakingComma width).toList = ',' :: lineBreak width := by
  simp [breakingComma, lineBreak, margin]

/-- Parts on lines of their own have line breaks around them. -/
theorem toList_bracketed (indent depth : Nat) (opening closing : String) {parts : List String}
    (some_part : parts ≠ []) :
    (bracketed indent depth opening closing parts).toList
      = opening.toList ++ (lineBreak (indent * (depth + 1))
        ++ ((breakingComma (indent * (depth + 1))).intercalate parts).toList ++ lineBreak (indent * depth)
        ++ closing.toList) := by
  cases parts with
  | nil => exact absurd rfl some_part
  | cons part more => simp [bracketed, breakingComma, lineBreak, margin]

mutual

/-- **A document on many lines is written**, whatever the indent. -/
theorem Value.written_prettyAt (indent depth : Nat) (value : Value) (plain : value.Plain) :
    Written (.value value) (value.prettyAt indent depth).toList := by
  revert plain
  match value with
  | .null => exact fun plain => .atom plain trivial
  | .bool _ => exact fun plain => .atom plain trivial
  | .natural _ => exact fun plain => .atom plain trivial
  | .otherNumber => exact fun plain => plain.elim
  | .text _ => exact fun plain => .atom plain trivial
  | .array [] =>
    intro _
    rw [Value.prettyAt, prettyItems, bracketed]
    exact .emptyArray
  | .array (item :: items) =>
    intro plain
    have each := written_prettyItems indent (depth + 1) (item :: items) plain
    have inside := written_joined .lastItem .items (toList_breakingComma (indent * (depth + 1))) (blank_lineBreak _)
      each (List.cons_ne_nil _ _)
    rw [Value.prettyAt, toList_bracketed _ _ _ _ (by rw [prettyItems]; exact List.cons_ne_nil _ _)]
    exact .array (blank_lineBreak _) inside (blank_lineBreak _)
  | .object [] =>
    intro _
    rw [Value.prettyAt, prettyMembers, bracketed]
    exact .emptyObject
  | .object (member :: members) =>
    intro plain
    have each := written_prettyMembers indent (depth + 1) (member :: members) plain
    have inside := written_joined .lastMember .members (toList_breakingComma (indent * (depth + 1))) (blank_lineBreak _)
      each (List.cons_ne_nil _ _)
    rw [Value.prettyAt, toList_bracketed _ _ _ _ (by rw [prettyMembers]; exact List.cons_ne_nil _ _)]
    exact .object (blank_lineBreak _) inside (blank_lineBreak _)

theorem written_prettyItems (indent depth : Nat) (items : List Value) (plain : allPlain items) :
    List.Forall₂ (fun item text => Written (.value item) text.toList) items (prettyItems indent depth items) := by
  revert plain
  match items with
  | [] => exact fun _ => .nil
  | item :: rest =>
    exact fun plain =>
      .cons (item.written_prettyAt indent depth plain.1) (written_prettyItems indent depth rest plain.2)

theorem written_prettyMembers (indent depth : Nat) (members : List (Option String × Value))
    (plain : allMembersPlain members) :
    List.Forall₂ (fun member text => Written (.member member) text.toList) members
      (prettyMembers indent depth members) := by
  revert plain
  match members with
  | [] => exact fun _ => .nil
  | (name, value) :: rest =>
    rintro ⟨named, own, others⟩
    obtain ⟨name, rfl⟩ := Option.isSome_iff_exists.mp named
    refine .cons ?_ (written_prettyMembers indent depth rest others)
    have blank : Blank [' '] := fun c mem => List.mem_singleton.mp mem ▸ rfl
    have written := Written.member name blank (value.written_prettyAt indent depth own)
    simpa [memberText, writeText, toList_writeString] using written

end

/-- **A document on one line is read as itself.** -/
theorem Value.ofJson?_compact {value : Value} (plain : value.Plain) : ofJson? value.compact = some value :=
  ofJson?_of_written (value.written_compact plain)

/-- **A document on many lines is read as itself**, whatever the indent. -/
theorem Value.ofJson?_pretty {value : Value} (plain : value.Plain) (indent : Nat) :
    ofJson? (value.pretty indent) = some value :=
  ofJson?_of_written (value.written_prettyAt indent 0 plain)

end DeviceConsole.Json
