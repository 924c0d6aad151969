import DeviceConsole.Proofs.Grammar.Typed

/-!
# `Proofs.Grammar.Lines` — from the rules of a command to its lines

Every command starts with words that no other command starts with (`commandTable`), so the first word of a line
decides which command can take it.

* `takes_command` — what a command takes, the whole grammar takes;
* `Directory.parse_of_marks`, `Directory.parse_of_takes` — the three steps from a line to its command: the marks that
  it spells, the match, and the command that is built;
* `Directory.build_of_items`, `items_map_leaf`, `takes_any_number` — the items from which it is built;
* `Directory.parse_congr` — the same words with other blanks between them.
-/

namespace DeviceConsole.Grammar

variable {text : String} {before after : List Mark} {result : Matched}

/-! ## Choosing a command -/

/-- The commands with the words that they start with, in grammar order. -/
def commandTable : List (List String × Node) :=
  [(["discover"], discoverCommand), (["devices", "list"], devicesCommand), (["get"], getCommand),
   (["set"], setCommand), (["update"], updateCommand), (["alias"], aliasCommand), (["group"], groupCommand),
   (["debug"], debugCommand), (["help"], helpCommand), (["quit"], quitCommand)]

/-- The actions on groups with the words that they start with, in grammar order. -/
def groupTable : List (List String × Node) :=
  [(["add"], membersNode "add"), (["remove"], membersNode "remove"),
   (["delete"], .seq [wordNode .groupAction "delete", groupNameNode]),
   (["list"], .seq [wordNode .groupAction "list", .optional groupNameNode])]

theorem commandGrammar_eq : commandGrammar = .alt (commandTable.map Prod.snd) := rfl

theorem takes_listing {keyword : String} (h : keyword = "devices" ∨ keyword = "list") {after : List Mark} :
    Takes (.alt [commandWord "devices", commandWord "list"]) (.word keyword :: after)
      (.keyword .command keyword) after := by
  rcases h with rfl | rfl
  · exact .alt_head takes_keyword
  · exact .alt_tail (refuses_keyword (by decide)) (.alt_head takes_keyword)

/-- **The first member of a command takes the words of the command**, and refuses a line that starts with no such
word. -/
theorem command_head {entry : List String × Node} (mem : entry ∈ commandTable) :
    ∃ first rest, entry.2 = .seq (first :: rest)
      ∧ (∀ text ∈ entry.1, ∀ after, Takes first (.word text :: after) (.keyword .command text) after)
      ∧ ∀ before, (∀ text ∈ entry.1, before.head? ≠ some (.word text)) → Refuses first before := by
  have word {label : String} {rest : List Node} : ∃ first others,
      Node.seq (commandWord label :: rest) = .seq (first :: others)
      ∧ (∀ text ∈ [label], ∀ after, Takes first (.word text :: after) (.keyword .command text) after)
      ∧ ∀ before, (∀ text ∈ [label], before.head? ≠ some (.word text)) → Refuses first before := by
    refine ⟨_, rest, rfl, ?_, fun before other => refuses_keyword_of_head (other label (by simp))⟩
    intro text own after
    rw [List.mem_singleton.mp own]
    exact takes_keyword
  simp only [commandTable, List.mem_cons, List.not_mem_nil, or_false] at mem
  rcases mem with rfl | rfl | rfl | rfl | rfl | rfl | rfl | rfl | rfl | rfl
  -- two words stand for a listing
  case inr.inl =>
    refine ⟨_, _, rfl, fun text own after => takes_listing (by simpa using own), fun before other => ?_⟩
    exact .alt_cons (refuses_keyword_of_head (other "devices" (by simp)))
      (.alt_cons (refuses_keyword_of_head (other "list" (by simp))) .alt_nil)
  all_goals exact word

/-- A command refuses every line that does not start with one of its words. -/
theorem refuses_command {entry : List String × Node} (mem : entry ∈ commandTable)
    (h : ∀ text ∈ entry.1, before.head? ≠ some (.word text)) : Refuses entry.2 before := by
  obtain ⟨first, rest, shape, -, refuses⟩ := command_head mem
  rw [shape]
  exact Refuses.seq_head (refuses before h)

/-- So it refuses a line that starts with another word. -/
theorem refuses_command_of_word {entry : List String × Node} (mem : entry ∈ commandTable) (h : text ∉ entry.1) :
    Refuses entry.2 (.word text :: before) := by
  refine refuses_command mem fun own listed head => h ?_
  rw [List.head?_cons, Option.some.injEq, Mark.word.injEq] at head
  rwa [head]

theorem matchFirst_eq_none {nodes : List Node} {tokens : List Token}
    (refuse : ∀ node ∈ nodes, node.matchTokens tokens = none) : matchFirst nodes tokens = none := by
  induction nodes with
  | nil => rfl
  | cons node rest ih =>
    rw [matchFirst_cons, refuse node List.mem_cons_self]
    exact ih fun other mem => refuse other (List.mem_cons_of_mem _ mem)

/-- Of alternatives that start with different words the one that starts with the given word decides. -/
theorem matchFirst_keyed {table : List (List String × Node)} {entry : List String × Node} {tokens : List Token}
    (refuses : ∀ other ∈ table, text ∉ other.1 → other.2.matchTokens tokens = none)
    (apart : table.Pairwise fun a b => ∀ word ∈ a.1, word ∉ b.1) (mem : entry ∈ table) (key : text ∈ entry.1) :
    matchFirst (table.map Prod.snd) tokens = entry.2.matchTokens tokens := by
  induction table with
  | nil => simp at mem
  | cons first rest ih =>
    obtain ⟨different, apart⟩ := List.pairwise_cons.mp apart
    rw [List.map_cons, matchFirst_cons]
    rcases List.mem_cons.mp mem with rfl | mem
    · have others : matchFirst (rest.map Prod.snd) tokens = none := by
        refine matchFirst_eq_none fun node inRest => ?_
        obtain ⟨other, listed, rfl⟩ := List.mem_map.mp inRest
        exact refuses other (List.mem_cons_of_mem _ listed) (different other listed text key)
      rw [others]
      cases entry.2.matchTokens tokens <;> rfl
    -- the word is the key of a later entry, so it is none of this one
    · have other : text ∉ first.1 := fun own => different entry mem text own key
      rw [refuses first List.mem_cons_self other]
      exact ih (fun other mem => refuses other (List.mem_cons_of_mem _ mem)) apart mem

theorem Takes.alt_keyed {table : List (List String × Node)} {entry : List String × Node}
    (refuses : ∀ other ∈ table, text ∉ other.1 → Refuses other.2 (.word text :: before))
    (apart : table.Pairwise fun a b => ∀ word ∈ a.1, word ∉ b.1) (mem : entry ∈ table) (key : text ∈ entry.1)
    (h : Takes entry.2 (.word text :: before) result after) :
    Takes (.alt (table.map Prod.snd)) (.word text :: before) result after := by
  intro tokens eq
  obtain ⟨consumed, matched, left⟩ := h tokens eq
  refine ⟨consumed, ?_, left⟩
  rw [Node.matchTokens_alt, matchFirst_keyed (fun other mem own => refuses other mem own tokens eq) apart mem key,
    matched]

/-- **The first word of a line decides which command matches it.** -/
theorem matchTokens_commandGrammar {entry : List String × Node} (mem : entry ∈ commandTable) (key : text ∈ entry.1)
    {tokens : List Token} (h : marks tokens = .word text :: before) :
    commandGrammar.matchTokens tokens = entry.2.matchTokens tokens := by
  rw [commandGrammar_eq, Node.matchTokens_alt]
  exact matchFirst_keyed (fun other mem own => refuses_command_of_word mem own tokens h) (by decide) mem key

/-- **What a command takes, the whole grammar takes.** -/
theorem takes_command {entry : List String × Node} (mem : entry ∈ commandTable) (key : text ∈ entry.1)
    (h : Takes entry.2 (.word text :: before) result after) :
    Takes commandGrammar (.word text :: before) result after := by
  rw [commandGrammar_eq]
  exact Takes.alt_keyed (fun other mem => refuses_command_of_word mem) (by decide) mem key h

/-- Every command starts with a whole word. -/
theorem isWord_of_mem {entry : List String × Node} (mem : entry ∈ commandTable) (key : text ∈ entry.1) :
    IsWord text := by
  have all : ∀ entry ∈ commandTable, ∀ word ∈ entry.1, IsWord word := by decide
  exact all entry mem text key

/-- The marks of a line of words. -/
theorem marks_line {texts : List String} {front : List Mark} (isWord : IsWord text) (spells : SpellsAll texts front) :
    marks (tokenize (" ".intercalate (text :: texts))) = .word text :: (front ++ [.stop]) :=
  (SpellsAll.cons (.word isWord) spells).intercalate.marks_tokenize

/-! ## Items -/

/-- A repetition of single items has these items. -/
theorem items_map_leaf {α : Type} {items : List α} {value : α → Matched}
    (leaf : ∀ item ∈ items, (value item).items = [value item]) :
    itemsOfAll (items.map value) = items.map value := by
  induction items with
  | nil => rfl
  | cons item rest ih =>
    rw [List.map_cons, itemsOfAll, leaf item List.mem_cons_self,
      ih fun other mem => leaf other (List.mem_cons_of_mem _ mem)]
    rfl

/-- Any number of matches, none included, are taken with their items in order. -/
theorem takes_any_number {inner : Node} {before after : List Mark} {results : List Matched}
    (h : TakesMany inner before results after) :
    ∃ result, Takes (.optional (.repeated inner)) before result after
      ∧ result.items = itemsOfAll results := by
  cases h with
  | done refuses => exact ⟨.skipped, .skip (.repeated refuses), rfl⟩
  | more first shorter others =>
    exact ⟨_, .optional (.repeated (.more first shorter others) (by simp)), rfl⟩

end DeviceConsole.Grammar

namespace DeviceConsole.Directory

open Grammar

/-- A directory without any name. -/
def empty : Directory where
  alias? _ := none
  group? _ := none
  valueOfAlias? _ _ _ := none
  valueAliases _ _ := []
  propertyOfAlias? _ _ := none

/-- A line whose marks are taken by the command that its first word stands for. -/
theorem parse_of_marks (directory : Directory) {line text : String} {rest : List Mark} {entry : List String × Node}
    {matched : Matched} (mem : entry ∈ commandTable) (key : text ∈ entry.1)
    (marked : marks (tokenize line) = .word text :: rest)
    (takes : Takes entry.2 (.word text :: rest) matched [.stop]) :
    directory.parse line = directory.build matched := by
  have whole : parseTokens (tokenize line) = .ok matched :=
    parseTokens_of_takes (by rw [marked]; exact takes_command mem key takes)
  unfold parse
  rw [whole]

/-- **A line becomes a command in three steps**: its texts spell marks, the command that its first word stands
for takes them all, and the match builds the command. -/
theorem parse_of_takes (directory : Directory) {text : String} {texts : List String} {front : List Mark}
    {entry : List String × Node} {matched : Matched} {command : Command} (mem : entry ∈ commandTable)
    (key : text ∈ entry.1) (spells : SpellsAll texts front)
    (takes : Takes entry.2 (.word text :: (front ++ [.stop])) matched [.stop])
    (build : directory.build matched = .ok command) :
    directory.parse (" ".intercalate (text :: texts)) = .ok command := by
  rw [directory.parse_of_marks mem key (marks_line (isWord_of_mem mem key) spells) takes]
  exact build

/-- The same for a command that one word stands for. -/
theorem parse_of_word (directory : Directory) {text : String} {node : Node} {texts : List String}
    {front : List Mark} {matched : Matched} {command : Command} (mem : ([text], node) ∈ commandTable)
    (spells : SpellsAll texts front) (takes : Takes node (.word text :: (front ++ [.stop])) matched [.stop])
    (build : directory.build matched = .ok command) :
    directory.parse (" ".intercalate (text :: texts)) = .ok command :=
  directory.parse_of_takes mem (List.mem_singleton.mpr rfl) spells takes build

/-- What is built depends on the items of a match alone. -/
theorem build_of_items (directory : Directory) {matched : Matched} {name : String} {rest : List Matched}
    (h : matched.items = .keyword .command name :: rest) :
    directory.build matched = directory.buildNamed name rest := by
  unfold build
  rw [h]

/-- **Blanks make no difference**: a line with the words and colons of an accepted line gives the same command. -/
theorem parse_congr (directory : Directory) {line other : String} {command : Command}
    (same : marks (tokenize other) = marks (tokenize line)) (parsed : directory.parse line = .ok command) :
    directory.parse other = .ok command := by
  unfold parse at parsed ⊢
  split at parsed
  · next matched accepted =>
    rw [parseTokens_congr same.symm accepted]
    exact parsed
  · cases parsed

end DeviceConsole.Directory
