import DeviceConsole.Proofs.Toml.Values

/-!
# `Proofs.Toml.Lines` — written lines build a document

A document is read line by line into a draft. Each kind of written line takes a draft to the next one whatever follows
it, so lines that stand below each other do so one after the other. What a definition adds to is the table that the
last header opened, and this table is always the last thing in a written document.

* `Continues` — what a text makes of a draft: `Continues.append`, and `readLines?_of_continues` for a whole text;
* `continues_blank`, `continues_comment`, `continues_definition`, `continues_header`, `continues_nextHeader` — the lines;
* `Opened` — the table that a header opened: `opened_table`, `opened_tables`;
* `continues_definitions` — definitions below a header.
-/

namespace DeviceConsole.Toml

variable {draft between next : Draft} {front back written rest lead : List Char} {name field : String} {value : Value}
  {before inner root : Members} {done : List Members} {item : Item} {step : Option Item → Option Item} {c : Char}

/-! ## Texts of lines -/

/-- The text takes the one draft to the other and leaves what follows it. -/
def Continues (draft : Draft) (written : List Char) (next : Draft) : Prop :=
  ∀ fuel rest, (written ++ rest).length ≤ fuel →
    ∃ left, rest.length ≤ left ∧ readLines? fuel draft (written ++ rest) = readLines? left next rest

theorem Continues.nil (draft : Draft) : Continues draft [] draft :=
  fun fuel _ enough => ⟨fuel, enough, rfl⟩

theorem Continues.append (first : Continues draft front between) (second : Continues between back next) :
    Continues draft (front ++ back) next := by
  intro fuel rest enough
  rw [List.append_assoc] at enough ⊢
  obtain ⟨left, still, read⟩ := first fuel (back ++ rest) enough
  obtain ⟨last, atLast, readOn⟩ := second left rest still
  exact ⟨last, atLast, read.trans readOn⟩

/-- A line takes one step. -/
theorem Continues.line (some_char : written ≠ [])
    (read : ∀ rest, readLine? draft (written ++ rest) = some (next, rest)) : Continues draft written next := by
  intro fuel rest enough
  cases written with
  | nil => exact absurd rfl some_char
  | cons c more =>
    cases fuel with
    | zero => exact absurd enough (Nat.not_succ_le_zero _)
    | succ fuel =>
      rw [List.cons_append, List.length_cons, List.length_append] at enough
      refine ⟨fuel, by omega, ?_⟩
      rw [List.cons_append, readLines?, ← List.cons_append, read rest]
      rfl

/-- A whole text. -/
theorem readLines?_of_continues (continues : Continues draft written next) :
    readLines? written.length draft written = some next := by
  obtain ⟨left, -, read⟩ := continues written.length [] (Nat.le_of_eq (by rw [List.append_nil]))
  rw [List.append_nil] at read
  rw [read]
  cases left <;> rfl

/-! ## Lines without effect -/

theorem continues_blank (draft : Draft) : Continues draft ['\n'] draft :=
  .line (by decide) fun _ => rfl

theorem continues_comment (draft : Draft) {comment : List Char} (plain : ∀ c ∈ comment, isTextChar c = true) :
    Continues draft ('#' :: (comment ++ ['\n'])) draft := by
  refine .line (List.cons_ne_nil _ _) ?_
  intro rest
  have ends : afterComment (comment ++ '\n' :: rest) = '\n' :: rest := by
    rw [afterComment, List.dropWhile_append_of_pos plain, List.dropWhile_cons_of_neg (by decide)]
  have after : afterLine? ('#' :: (comment ++ '\n' :: rest)) = some rest := by
    show (if (afterComment (comment ++ '\n' :: rest)).isEmpty then _ else afterBreak? (afterComment (comment ++ '\n' :: rest))) = _
    rw [ends]
    rfl
  rw [List.cons_append, List.append_assoc, List.singleton_append]
  show (afterLine? ('#' :: (comment ++ '\n' :: rest))).bind _ = _
  rw [after]
  rfl

/-! ## Names -/

/-- The text can stand as a name without quotes. -/
def IsName (name : String) : Prop := name.toList ≠ [] ∧ ∀ c ∈ name.toList, isNameChar c = true

instance (name : String) : Decidable (IsName name) :=
  decidable_of_iff (name.toList ≠ [] ∧ name.toList.all isNameChar = true) (by rw [IsName, List.all_eq_true])

/-- A name begins with a character that begins no other kind of line. -/
theorem IsName.begins (isName : IsName name) :
    ∃ c more, name.toList = c :: more ∧ isBlank c = false ∧ c ≠ '#' ∧ c ≠ '\n' ∧ c ≠ '\r' ∧ c ≠ '[' := by
  obtain ⟨some_char, inside⟩ := isName
  cases chars : name.toList with
  | nil => exact absurd chars some_char
  | cons c more =>
    have isNameChar : isNameChar c = true := inside c (by rw [chars]; exact List.mem_cons_self)
    refine ⟨c, more, rfl, isBlank_of_isWordChar (by rw [isWordChar, isNameChar]; rfl), ?_⟩
    refine ⟨?_, ?_, ?_, ?_⟩ <;> rintro rfl <;> exact absurd isNameChar (by decide)

theorem IsName.skipBlanks_append (isName : IsName name) (rest : List Char) :
    skipBlanks (name.toList ++ rest) = name.toList ++ rest := by
  obtain ⟨c, more, chars, solid, -⟩ := isName.begins
  rw [chars]
  exact Toml.skipBlanks_append [] nofun solid (more ++ rest)

/-- A name ends at the first character that is none of a name, and blanks behind it are passed over. -/
theorem readName?_append (isName : IsName name) (lead : List Char) (blank : ∀ c ∈ lead, isBlank c = true)
    (stops : isNameChar c = false ∧ isBlank c = false ∧ c ≠ '.') (rest : List Char) :
    readName? (name.toList ++ (lead ++ c :: rest)) = some ([name], c :: rest) := by
  obtain ⟨noName, noBlank, noDot⟩ := stops
  have tail : (lead ++ c :: rest).takeWhile isNameChar = [] := by
    cases lead with
    | nil => exact List.takeWhile_cons_of_neg (by simp [noName])
    | cons d more =>
      refine List.takeWhile_cons_of_neg ?_
      intro isNameChar
      have noBlank : isBlank d = false := isBlank_of_isWordChar (by rw [isWordChar, isNameChar]; rfl)
      exact absurd (blank d List.mem_cons_self) (Bool.eq_false_iff.mp noBlank)
  have bare : (name.toList ++ (lead ++ c :: rest)).takeWhile isNameChar = name.toList := by
    rw [List.takeWhile_append_of_pos isName.2, tail, List.append_nil]
  have part : readPart? (name.toList ++ (lead ++ c :: rest)) = some (name, lead ++ c :: rest) := by
    rw [readPart?, bare, if_neg (by simpa using isName.1), List.drop_left, String.ofList_toList]
  rw [readName?, deepest, readParts?, isName.skipBlanks_append, part, Option.bind_eq_bind, Option.bind_some]
  simp only [skipBlanks_append lead blank noBlank]
  split
  · next first => exact absurd (List.cons.inj first).1 noDot
  · rfl

/-! ## Definitions and headers -/

theorem readLine?_definition {after : List Char} (isName : IsName name)
    (definition : readDefinition? draft (name.toList ++ rest) = some (next, '\n' :: after)) :
    readLine? draft (name.toList ++ rest) = some (next, after) := by
  obtain ⟨c, more, chars, -, comment, feed, back, bracket⟩ := isName.begins
  have first : ∀ d tail, name.toList ++ rest = d :: tail → c = d := by
    intro d tail same
    rw [chars] at same
    exact (List.cons.inj same).1
  rw [readLine?, isName.skipBlanks_append]
  simp only
  split
  · next none => simp [chars] at none
  · next same => exact absurd (first _ _ same) comment
  · next same => exact absurd (first _ _ same) feed
  · next same => exact absurd (first _ _ same) back
  · next same => exact absurd (first _ _ same) bracket
  · rw [definition]
    rfl

/-- A line that gives a name a value. -/
theorem continues_definition (draft : Draft) (isName : IsName name) (denotes : Denotes written value)
    (defined : within? (define? value [name]) draft.header draft.root = some root) :
    Continues draft (name.toList ++ (' ' :: '=' :: ' ' :: (written ++ ['\n']))) { draft with root } := by
  refine .line (by simp) ?_
  intro rest
  have line : name.toList ++ (' ' :: '=' :: ' ' :: (written ++ ['\n'])) ++ rest
      = name.toList ++ ([' '] ++ '=' :: ([' '] ++ (written ++ '\n' :: rest))) := by
    simp
  have named := readName?_append isName [' '] (c := '=') (List.forall_mem_singleton.mpr rfl) (by decide)
    ([' '] ++ (written ++ '\n' :: rest))
  have read : readValue? (2 * ([' '] ++ (written ++ '\n' :: rest)).length + 2) deepest (written ++ '\n' :: rest)
      = some (value, '\n' :: rest) :=
    denotes.read _ 79 _ (by simp; omega) ⟨'\n', rest, rfl, by decide⟩
  have definition : readDefinition? draft (name.toList ++ ([' '] ++ '=' :: ([' '] ++ (written ++ '\n' :: rest))))
      = some ({ draft with root }, '\n' :: rest) := by
    rw [readDefinition?, named]
    show (readValue? _ _ (skipBlanks ([' '] ++ (written ++ '\n' :: rest)))).bind _ = _
    rw [denotes.skipBlanks_append [' '] (List.forall_mem_singleton.mpr rfl), read]
    show (within? (define? value [name]) draft.header draft.root).bind _ = _
    rw [defined]
    rfl
  rw [line]
  exact readLine?_definition isName definition

/-- A header of a table. -/
theorem continues_header (draft : Draft) (isName : IsName name) (opened : open? [name] draft.root = some root) :
    Continues draft ('[' :: (name.toList ++ [']', '\n'])) ⟨root, [name]⟩ := by
  refine .line (List.cons_ne_nil _ _) ?_
  intro rest
  have named := readName?_append isName [] (c := ']') nofun (by decide) ('\n' :: rest)
  have line : ('[' :: (name.toList ++ [']', '\n'])) ++ rest = '[' :: (name.toList ++ ([] ++ ']' :: '\n' :: rest)) := by
    simp
  have header : readHeader? draft ('[' :: (name.toList ++ ([] ++ ']' :: '\n' :: rest)))
      = some (⟨root, [name]⟩, '\n' :: rest) := by
    rw [readHeader?, named]
    · show (open? [name] draft.root).bind _ = _
      rw [opened]
      rfl
    · intro tail same
      obtain ⟨c, more, chars, -, -, -, -, bracket⟩ := isName.begins
      rw [chars] at same
      exact bracket (List.cons.inj same).1
  rw [line]
  show (readHeader? draft ('[' :: (name.toList ++ ([] ++ ']' :: '\n' :: rest)))).bind _ = _
  rw [header]
  rfl

/-- A header of the next table of an array. -/
theorem continues_nextHeader (draft : Draft) (isName : IsName name) (opened : openNext? [name] draft.root = some root) :
    Continues draft ('[' :: '[' :: (name.toList ++ [']', ']', '\n'])) ⟨root, [name]⟩ := by
  refine .line (List.cons_ne_nil _ _) ?_
  intro rest
  have named := readName?_append isName [] (c := ']') nofun (by decide) (']' :: '\n' :: rest)
  have line : ('[' :: '[' :: (name.toList ++ [']', ']', '\n'])) ++ rest
      = '[' :: '[' :: (name.toList ++ ([] ++ ']' :: ']' :: '\n' :: rest)) := by
    simp
  have header : readHeader? draft ('[' :: '[' :: (name.toList ++ ([] ++ ']' :: ']' :: '\n' :: rest)))
      = some (⟨root, [name]⟩, '\n' :: rest) := by
    rw [readHeader?, named]
    show (openNext? [name] draft.root).bind _ = _
    rw [opened]
    rfl
  rw [line]
  show (readHeader? draft ('[' :: '[' :: (name.toList ++ ([] ++ ']' :: ']' :: '\n' :: rest)))).bind _ = _
  rw [header]
  rfl

/-! ## Tables -/

/-- The names of members. -/
def names (members : Members) : List String := members.map Prod.fst

theorem not_mem_names_concat {earlier : String} (fresh : name ∉ names before) (other : name ≠ earlier) :
    name ∉ names (before ++ [(earlier, item)]) := by
  rw [names, List.map_append, List.mem_append]
  rintro (mem | mem)
  · exact fresh mem
  · exact other (List.mem_singleton.mp mem)

/-- Members with finished values. -/
def finished (members : List (String × Value)) : Members := members.map fun (name, value) => (name, .finished value)

theorem membersValue_finished (members : List (String × Value)) : membersValue (finished members) = members := by
  induction members with
  | nil => rfl
  | cons member rest ih =>
    show (member.1, _) :: membersValue (finished rest) = _
    rw [ih]
    rfl

theorem membersValue_append (front back : Members) :
    membersValue (front ++ back) = membersValue front ++ membersValue back := by
  induction front with
  | nil => rfl
  | cons member rest ih =>
    show (member.1, _) :: membersValue (rest ++ back) = _
    rw [ih]
    rfl

/-- An array of tables with finished values. -/
theorem membersValue_array {α : Type} (name : String) (members : α → List (String × Value)) (items : List α) :
    membersValue [(name, .tables (items.map fun item => finished (members item)))]
      = [(name, .array (items.map fun item => .table (members item)))] := by
  have values : tablesValue (items.map fun item => finished (members item))
      = items.map fun item => .table (members item) := by
    induction items with
    | nil => rfl
    | cons item rest ih =>
      rw [List.map_cons, tablesValue, membersValue_finished, ih, List.map_cons]
  rw [membersValue, membersValue, Item.value, values]

theorem change?_append (fresh : name ∉ names before) (rest : Members) :
    change? name step (before ++ rest) = (change? name step rest).map (before ++ ·) := by
  induction before with
  | nil => simp
  | cons member more ih =>
    have other : member.1 ≠ name := fun same => fresh (same ▸ List.mem_cons_self)
    have later : name ∉ names more := fun mem => fresh (List.mem_cons_of_mem _ mem)
    rw [List.cons_append, change?, if_neg other, ih later, Option.map_map]
    rfl

theorem change?_fresh (fresh : name ∉ names before) :
    change? name step before = (step none).map fun item => before ++ [(name, item)] := by
  have added : change? name step (before ++ []) = _ := change?_append fresh []
  rw [List.append_nil, change?, Option.map_map] at added
  exact added

theorem change?_last (fresh : name ∉ names before) :
    change? name step (before ++ [(name, item)]) = (step (some item)).map fun item => before ++ [(name, item)] := by
  rw [change?_append fresh, change?, if_pos rfl, Option.map_map]
  rfl

theorem changeLast?_concat (step : Members → Option Members) (done : List Members) (inner : Members) :
    changeLast? step (done ++ [inner]) = (step inner).map fun inner => done ++ [inner] := by
  rw [changeLast?, List.reverse_append]
  show (step inner).map _ = _
  simp

theorem open?_fresh (fresh : name ∉ names before) : open? [name] before = some (before ++ [(name, Item.table .named [])]) := by
  rw [open?, changeAt?, change?_fresh fresh]
  rfl

theorem openNext?_fresh (fresh : name ∉ names before) :
    openNext? [name] before = some (before ++ [(name, Item.tables [[]])]) := by
  rw [openNext?, changeAt?, change?_fresh fresh]
  rfl

theorem openNext?_last (fresh : name ∉ names before) :
    openNext? [name] (before ++ [(name, Item.tables done)]) = some (before ++ [(name, Item.tables (done ++ [[]]))]) := by
  rw [openNext?, changeAt?, change?_last fresh]
  rfl

theorem define?_fresh (fresh : field ∉ names inner) :
    define? value [field] inner = some (inner ++ [(field, Item.finished value)]) := by
  rw [define?, change?_fresh fresh]
  rfl

/-! ## Definitions below a header -/

/-- The table that the header opened, with its place in the document. -/
def Opened (header : List String) (place : Members → Members) : Prop :=
  ∀ step inner, within? step header (place inner) = (step inner).map place

theorem opened_table (fresh : name ∉ names before) :
    Opened [name] fun inner => before ++ [(name, Item.table .named inner)] := by
  intro step inner
  rw [within?, changeAt?, change?_last fresh, Option.map_map]
  · rfl
  · simp

theorem opened_tables (fresh : name ∉ names before) (done : List Members) :
    Opened [name] fun inner => before ++ [(name, Item.tables (done ++ [inner]))] := by
  intro step inner
  rw [within?, changeAt?, change?_last fresh]
  · show ((changeLast? step (done ++ [inner])).map Item.tables).map _ = _
    rw [changeLast?_concat, Option.map_map, Option.map_map]
    rfl
  · simp

/-- The line gives the name of the member a written form of its value. -/
structure Defines (line : String × String) (member : String × Value) : Prop where
  name : line.1 = member.1
  isName : IsName line.1
  denotes : Denotes line.2.toList member.2

/-- The lines define the members, each once. -/
structure Fills (lines : List (String × String)) (members : List (String × Value)) : Prop where
  defines : List.Forall₂ Defines lines members
  distinct : (members.map Prod.fst).Nodup

/-- The text of lines with definitions. -/
def writeLines (lines : List (String × String)) : List Char :=
  lines.flatMap fun (name, value) => name.toList ++ (' ' :: '=' :: ' ' :: (value.toList ++ ['\n']))

/-- Definitions of different names below a header are added to the table that it opened. -/
theorem continues_definitions {header : List String} {place : Members → Members} (opened : Opened header place)
    {lines : List (String × String)} {members : List (String × Value)} (defines : List.Forall₂ Defines lines members)
    (distinct : (names inner ++ members.map Prod.fst).Nodup) :
    Continues ⟨place inner, header⟩ (writeLines lines) ⟨place (inner ++ finished members), header⟩ := by
  induction defines generalizing inner with
  | nil =>
    rw [finished, List.map_nil, List.append_nil]
    exact .nil _
  | @cons line member lines members first _ ih =>
    obtain ⟨name, text⟩ := line
    obtain ⟨_, value⟩ := member
    obtain ⟨rfl, isName, denotes⟩ := first
    have fresh : name ∉ names inner := by
      intro mem
      exact (List.nodup_append.mp distinct).2.2 name mem name List.mem_cons_self rfl
    have defined : within? (define? value [name]) header (place inner)
        = some (place (inner ++ [(name, Item.finished value)])) := by
      rw [opened, define?_fresh fresh]
      rfl
    have others : (names (inner ++ [(name, Item.finished value)]) ++ members.map Prod.fst).Nodup := by
      rw [names, List.map_append, List.append_assoc]
      exact distinct
    have onwards := ih others
    rw [List.append_assoc] at onwards
    exact (continues_definition ⟨place inner, header⟩ isName denotes defined).append onwards

end DeviceConsole.Toml
