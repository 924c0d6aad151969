import DeviceConsole.Proofs.Command.Listing
import DeviceConsole.Proofs.Command.Proper
import DeviceConsole.Proofs.Command.ReadBack
import DeviceConsole.Proofs.Grammar.Took

/-!
# `Proofs.Command.Names` — names where devices may stand

The rules for names are checked when a name is bound, and words are told apart when a line is read, by other tests.
A word that passes the rules for aliases is no address, no class code and no group, whatever follows it, so where a
device may stand it is read as an alias; and a word that starts with an at sign is read as a group.

* `takes_device_alias` — a good alias is read as an alias;
* `Names`, `AliasOf.names`, `names_group` — words that stand for a target, whatever follows;
* `Denotes` — texts of several words that stand for a target in front of anything but a colon;
* `TargetLine`, `Denotes.parse_targetLine` — the lines of commands with such a text, and the commands that they give;
* `target_of_parse` — behind it nothing else can be read in an accepted line.
-/

namespace DeviceConsole

open Device (ClassCode Endpoint Epc Property Specifier checkAlias checkGroup)
open Grammar

variable {directory : Directory} {name : String} {target : Target} {device : Endpoint}

/-! ## Aliases -/

/-- What the rules for aliases say of a name. -/
structure AliasWord (name : String) : Prop where
  isWord : IsWord name
  first : ∃ first rest, name.toList = first :: rest ∧ Text.Decimal.digitValue? first = none ∧ first ≠ '-' ∧ first ≠ '@'
  noClass : ClassCode.ofText? name = none

theorem isWhiteSpace_of_isBlank {c : Char} (h : isBlank c = true) : Text.isWhiteSpace c = true := by
  simp only [isBlank, Bool.or_eq_true, beq_iff_eq] at h
  rcases h with rfl | rfl <;> decide

theorem aliasWord_of_checkAlias (ok : checkAlias name = .ok ()) : AliasWord name := by
  unfold checkAlias at ok
  split at ok
  · cases ok
  · next first rest chars =>
    by_cases digit : (Text.Decimal.digitValue? first).isSome = true
    · rw [if_pos digit] at ok
      cases ok
    rw [if_neg digit] at ok
    by_cases symbol : (!Text.isAlphanumeric first && first != '_') = true
    · rw [if_pos symbol] at ok
      cases ok
    rw [if_neg symbol] at ok
    by_cases isClass : (ClassCode.read? (first :: rest)).isSome = true
    · rw [if_pos isClass] at ok
      cases ok
    rw [if_neg isClass] at ok
    by_cases separator : ((first :: rest).any fun c => c == ':' || Text.isWhiteSpace c) = true
    · rw [if_pos separator] at ok
      cases ok
    -- every check that was passed excludes one other reading of the word
    refine ⟨⟨by simp [chars], fun c mem => ?_⟩, ⟨first, rest, chars, ?_, ?_, ?_⟩, ?_⟩
    · have noSeparator : ¬ (c == ':' || Text.isWhiteSpace c) = true :=
        fun own => separator (List.any_eq_true.mpr ⟨c, chars ▸ mem, own⟩)
      rw [Bool.or_eq_true, not_or, Bool.not_eq_true, Bool.not_eq_true] at noSeparator
      refine isWordChar_iff.mpr ⟨Bool.eq_false_iff.mpr fun blank => ?_, noSeparator.1⟩
      exact Bool.eq_false_iff.mp noSeparator.2 (isWhiteSpace_of_isBlank blank)
    · exact Option.not_isSome_iff_eq_none.mp digit
    · rintro rfl
      exact symbol (by decide +kernel)
    · rintro rfl
      exact symbol (by decide +kernel)
    · rw [ClassCode.ofText?, chars]
      exact Option.not_isSome_iff_eq_none.mp isClass

theorem AliasWord.no_address (h : AliasWord name) : Net.IpAddress.ofText? name = none := by
  obtain ⟨first, rest, chars, digit, -, -⟩ := h.first
  have colonless : ':' ∉ name.toList := fun mem => absurd (h.isWord.2 ':' mem) (by decide)
  exact Net.IpAddress.ofText?_of_word chars digit colonless

/-- A good alias is neither an address nor an object. -/
theorem AliasWord.refuses_place (h : AliasWord name) {after : List Mark} :
    Refuses ipAddressNode (.word name :: after) ∧ Refuses eojNode (.word name :: after) := by
  constructor
  · refine refuses_leaf ?_
    rw [Conversion.ipAddress, Conversion.ofWord, h.no_address]
    rfl
  · refine refuses_object fun own head => ?_
    rw [List.head?_cons, Option.some.injEq, Mark.word.injEq] at head
    exact head ▸ h.noClass

/-- **Where a device may stand a good alias is read as an alias**, whatever follows it. -/
theorem takes_device_alias (h : AliasWord name) {after : List Mark} :
    Takes deviceNode (.word name :: after) (.device (.aliased name)) after := by
  obtain ⟨noAddress, noObject⟩ := @AliasWord.refuses_place _ h after
  obtain ⟨first, rest, chars, digit, dash, at_sign⟩ := h.first
  have noGroup : Refuses groupNameNode (.word name :: after) := by
    refine refuses_leaf (if_neg ?_)
    rw [chars, List.head?_cons, Option.some.injEq]
    exact at_sign
  have named : Conversion.deviceAlias .deviceAlias (.word name) = some (.name .deviceAlias name) := by
    rw [Conversion.deviceAlias, Conversion.ofWord, chars]
    simp [digit, dash, at_sign]
  exact Takes.composite (.alt_tail (Refuses.seq_head noAddress) (.alt_tail noObject (.alt_tail noGroup
    (.alt_head (takes_leaf named))))) rfl

/-! ## Words that stand for targets -/

/-- The word stands for the target: where a device may stand it is read as the argument, whatever follows it, and the
directory makes the target of the argument. -/
structure Names (directory : Directory) (name : String) (arg : DeviceArg) (target : Target) : Prop where
  isWord : IsWord name
  takes : ∀ after, Takes deviceNode (.word name :: after) (.device arg) after
  stands : directory.target arg = .ok target

/-- The name is an alias of the device, by the rules for aliases. -/
structure AliasOf (directory : Directory) (name : String) (device : Endpoint) : Prop where
  word : AliasWord name
  bound : directory.alias? name = some device

theorem AliasOf.specifier (h : AliasOf directory name device) :
    directory.specifier (.aliased name) = .ok (.exact device) := by
  rw [Directory.specifier, h.bound]

theorem AliasOf.names (h : AliasOf directory name device) :
    Names directory name (.aliased name) (.device (.exact device)) where
  isWord := h.word.isWord
  takes _ := takes_device_alias h.word
  stands := by
    rw [Directory.target, h.specifier]
    · rfl
    · rintro other ⟨⟩

theorem names_group (bound : (directory.group? name).isSome = true) (word : GroupWord name) :
    Names directory name (.group name) (.group name) where
  isWord := word.1
  takes _ := takes_device_group word.at_sign
  stands := if_pos bound

/-- In a listing a device in front is the target, also if it is an alias. -/
theorem addItem_device {arg : DeviceArg} (stands : directory.target arg = .ok target) :
    directory.addItem {} (.device arg) = .ok { command := { target := some target } } := by
  have mapped : (directory.target arg).map (Directory.Draft.setTarget {})
      = .ok { command := { target := some target } } := by
    rw [stands]
    rfl
  cases arg with
  | address ip classCode instanceCode => exact mapped
  | group own => exact mapped
  | aliased own =>
    rw [Directory.target, Directory.specifier] at mapped
    · rw [Directory.addItem]
      cases bound : directory.alias? own with
      | some device => rw [bound] at mapped; exact mapped
      | none => rw [bound] at mapped; cases mapped
    · rintro other ⟨⟩

/-- In a refresh too. -/
theorem addUpdateItem_device {arg : DeviceArg} (stands : directory.target arg = .ok target) :
    directory.addUpdateItem {} (.device arg) = .ok { target := some target } := by
  rw [Directory.addUpdateItem, stands]
  rfl

/-! ## Lines with a target -/

/-- A word behind the device of a reading as it is typed: a property code, or the option. -/
abbrev AskedWord := Option (Typed Epc.ofText?)

namespace AskedWord

/-- The text of the word. -/
def text : AskedWord → String
  | some epc => epc.text
  | none => "-skip-validation"

/-- The word as the grammar reads it. -/
def matched : AskedWord → Matched
  | some epc => .epc epc.value
  | none => .keyword .getOption "-skip-validation"

theorem spells (word : AskedWord) : Spells word.text [.word word.text] := by
  cases word with
  | some epc => exact .word epc.isWord
  | none => exact .word (by decide)

end AskedWord

/-- The lines of commands with a text where their target may stand, and the commands that are meant if the text
stands for the target. -/
inductive TargetLine (name : String) (target : Target) : List String → Command → Prop
  | get (words : List AskedWord) : words.filterMap (Option.map Typed.value) ≠ [] →
      TargetLine name target ("get" :: name :: words.map AskedWord.text)
        (.get ⟨target, words.filterMap (Option.map Typed.value), words.any Option.isNone⟩)
  | set (properties : List TypedProperty) : properties ≠ [] →
      TargetLine name target ("set" :: name :: properties.map TypedProperty.text)
        (.set ⟨target, properties.map TypedProperty.value⟩)
  | update (options : List String) : (∀ option ∈ options, option ∈ ["-force", "-f", "--force"]) →
      TargetLine name target ("update" :: name :: options) (.update ⟨some target, !options.isEmpty⟩)
  | devices {keyword : String} (items : List ListItem) : keyword = "devices" ∨ keyword = "list" →
      TargetLine name target (keyword :: name :: items.map ListItem.text)
        (.devices { listingMeant none items with target := some target })

theorem takesMany_asked (words : List AskedWord) :
    TakesMany (.alt [epcNode, wordNode .getOption "-skip-validation"])
      (words.flatMap (fun word => [.word word.text]) ++ [.stop]) (words.map AskedWord.matched) [.stop] := by
  refine TakesMany.of_items (fun word later _ => ?_) (fun _ _ => by simp)
    (.alt_cons refuses_leaf_stop (.alt_cons refuses_keyword_stop .alt_nil))
  cases word with
  | some epc => exact .alt_head (takes_epc epc)
  | none => exact .alt_tail (refuses_epc (by decide)) (.alt_head takes_keyword)

theorem requested_asked (words : List AskedWord) :
    Directory.requested (words.map AskedWord.matched)
      = .ok (words.filterMap (Option.map Typed.value), words.any Option.isNone) := by
  induction words with
  | nil => rfl
  | cons word rest ih =>
    cases word with
    | some epc =>
      show (Directory.requested (rest.map AskedWord.matched)).map _ = _
      rw [ih]
      rfl
    | none =>
      show (Directory.requested (rest.map AskedWord.matched)).map _ = _
      rw [ih]
      rfl

theorem takesMany_options {options : List String} (h : ∀ option ∈ options, option ∈ ["-force", "-f", "--force"]) :
    TakesMany (.alt [wordNode .updateOption "-force", wordNode .updateOption "-f", wordNode .updateOption "--force"])
      (options.flatMap (fun option => [.word option]) ++ [.stop])
      (options.map fun option => .keyword .updateOption option) [.stop] := by
  refine TakesMany.of_items (fun option later tail => ?_) (fun _ _ => by simp)
    (.alt_cons refuses_keyword_stop (.alt_cons refuses_keyword_stop (.alt_cons refuses_keyword_stop .alt_nil)))
  have mem := h option (tail.subset List.mem_cons_self)
  simp only [List.mem_cons, List.not_mem_nil, or_false] at mem
  rcases mem with rfl | rfl | rfl
  · exact .alt_head takes_keyword
  · exact .alt_tail (refuses_keyword (by decide)) (.alt_head takes_keyword)
  · exact .alt_tail (refuses_keyword (by decide)) (.alt_tail (refuses_keyword (by decide)) (.alt_head takes_keyword))

theorem addUpdateItem_options (command : UpdateCommand) (options : List String) :
    (options.map fun option => Matched.keyword .updateOption option).foldlM directory.addUpdateItem command
      = .ok { command with force := command.force || !options.isEmpty } := by
  induction options generalizing command with
  | nil =>
    rw [List.isEmpty_nil, Bool.not_true, Bool.or_false]
    rfl
  | cons option rest ih =>
    show (rest.map fun option => Matched.keyword .updateOption option).foldlM directory.addUpdateItem
      { command with force := true } = _
    rw [ih, Bool.true_or, List.isEmpty_cons, Bool.not_false, Bool.or_true]

/-- No colon follows. -/
def NoColon (after : List Mark) : Prop := after.head? ≠ some .colon

/-- The text stands for the target: where a device may stand and no colon follows, it is read as the argument, and the
directory makes the target of the argument. -/
structure Denotes (directory : Directory) (text : String) (front : List Mark) (arg : DeviceArg) (target : Target) :
    Prop where
  spells : Spells text front
  takes : ∀ after, NoColon after → Takes deviceNode (front ++ after) (.device arg) after
  stands : directory.target arg = .ok target

variable {arg : DeviceArg} {text : String} {front : List Mark}

theorem Names.denotes (h : Names directory name arg target) : Denotes directory name [.word name] arg target where
  spells := .word h.isWord
  takes after _ := h.takes after
  stands := h.stands

/-- What starts with words starts with no colon. -/
theorem noColon_items {α : Type} {items : List α} {front : α → List Mark}
    (words : ∀ item ∈ items, ∃ text rest, front item = .word text :: rest) :
    NoColon (items.flatMap front ++ [.stop]) := by
  cases items with
  | nil => simp [NoColon]
  | cons item rest =>
    obtain ⟨text, others, shape⟩ := words item List.mem_cons_self
    simp [NoColon, shape]

namespace Denotes

theorem parse_get (h : Denotes directory text front arg target) {words : List AskedWord}
    (some_epc : words.filterMap (Option.map Typed.value) ≠ []) :
    directory.parse (" ".intercalate ("get" :: text :: words.map AskedWord.text))
      = .ok (.get ⟨target, words.filterMap (Option.map Typed.value), words.any Option.isNone⟩) := by
  have leaves : itemsOfAll (words.map AskedWord.matched) = words.map AskedWord.matched :=
    items_map_leaf fun word _ => by cases word <;> rfl
  have ends : NoColon (words.flatMap (fun word : AskedWord => [.word word.text]) ++ [.stop]) :=
    noColon_items fun word _ => ⟨word.text, [], rfl⟩
  exact parse_get_of_takes h.spells (.map fun word _ => word.spells) (h.takes _ ends) (takesMany_asked words) leaves
    h.stands (requested_asked words) some_epc

theorem parse_set (h : Denotes directory text front arg target) {properties : List TypedProperty}
    (some_property : properties ≠ []) :
    directory.parse (" ".intercalate ("set" :: text :: properties.map TypedProperty.text))
      = .ok (.set ⟨target, properties.map TypedProperty.value⟩) := by
  have ends : NoColon (properties.flatMap TypedProperty.front ++ [.stop]) :=
    noColon_items fun property _ => ⟨property.epc.text, [.colon, .word property.edt.text], rfl⟩
  exact parse_set_of_takes h.spells (h.takes _ ends) h.stands some_property

theorem parse_update (h : Denotes directory text front arg target) {options : List String}
    (forced : ∀ option ∈ options, option ∈ ["-force", "-f", "--force"]) :
    directory.parse (" ".intercalate ("update" :: text :: options))
      = .ok (.update ⟨some target, !options.isEmpty⟩) := by
  have spells : SpellsAll (text :: options) (front ++ options.flatMap fun option => [.word option]) := by
    refine .cons h.spells ?_
    have own : SpellsAll (options.map id) (options.flatMap fun option => [.word option]) := by
      refine .map fun option listed => .word ?_
      have all : ∀ option ∈ ["-force", "-f", "--force"], IsWord option := by decide
      exact all option (forced option listed)
    rwa [List.map_id] at own
  have ends : NoColon (options.flatMap (fun option => [.word option]) ++ [.stop]) :=
    noColon_items fun option _ => ⟨option, [], rfl⟩
  have leaves : itemsOfAll (options.map fun option => Matched.keyword .updateOption option)
      = options.map fun option => .keyword .updateOption option := items_map_leaf fun _ _ => rfl
  refine parse_update_of_takes spells (h.takes _ ends).optional (takesMany_options forced) leaves ?_
  show (Matched.device arg :: options.map fun option => Matched.keyword .updateOption option).foldlM
    directory.addUpdateItem {} = _
  rw [List.foldlM_cons, addUpdateItem_device h.stands]
  show (options.map fun option => Matched.keyword .updateOption option).foldlM directory.addUpdateItem
    { target := some target } = _
  rw [addUpdateItem_options, Bool.false_or]

theorem parse_devices (h : Denotes directory text front arg target) {keyword : String}
    (listing : keyword = "devices" ∨ keyword = "list") (items : List ListItem) :
    directory.parse (" ".intercalate (keyword :: text :: items.map ListItem.text))
      = .ok (.devices { listingMeant none items with target := some target }) := by
  have spells : SpellsAll (text :: items.map ListItem.text) (front ++ items.flatMap ListItem.front) :=
    .cons h.spells (.map fun item _ => item.spells)
  have ends : NoColon (items.flatMap ListItem.front ++ [.stop]) := by
    apply noColon_items
    intro item _
    rcases item.head_front with ⟨own, rest, shape, -⟩ | ⟨epc, rest, shape⟩
    · exact ⟨own, rest, shape⟩
    · exact ⟨epc.text, rest, shape⟩
  have taken : Takes (.optional deviceNode) (front ++ items.flatMap ListItem.front ++ [.stop]) (.device arg)
      (items.flatMap ListItem.front ++ [.stop]) := by
    rw [List.append_assoc]
    exact (h.takes _ ends).optional
  refine parse_listing_of_takes listing spells taken ?_
  exact (devices_first (addItem_device h.stands) items).trans (congrArg Except.ok (finish_extend (some target) items))

/-- **Every line with such a text where its target may stand gives the command that is meant.** -/
theorem parse_targetLine (h : Denotes directory text front arg target) {words : List String} {command : Command}
    (line : TargetLine text target words command) : directory.parse (" ".intercalate words) = .ok command := by
  cases line with
  | get words some_epc => exact h.parse_get some_epc
  | set properties some_property => exact h.parse_set some_property
  | update options forced => exact h.parse_update forced
  | devices items listing => exact h.parse_devices listing items

end Denotes

/-- **Every line with a word where its target may stand gives the command that is meant.** -/
theorem parse_targetLine (h : Names directory name arg target) {words : List String} {command : Command}
    (line : TargetLine name target words command) :
    directory.parse (" ".intercalate words) = .ok command := h.denotes.parse_targetLine line

/-! ## Accepted lines -/

/-- The words of commands with a target. -/
def targetWords : List String := ["get", "set", "update", "devices", "list"]

/-- The target of a command. -/
def Command.target? : Command → Option Target
  | devices command => command.target
  | get command => some command.target
  | set command => some command.target
  | update command => command.target
  | _ => none

/-- A single item that is no device. -/
def Plain (item : Matched) : Prop := item.items = [item] ∧ ¬ IsDevice item

section Items

variable {item : Matched} {keyword : String} {items : List Matched} {command : Command}

theorem plain_keyword {kind : NodeKind} {label : String} (h : (wordNode kind label).Yields item) : Plain item := by
  obtain rfl := keyword_of_yields h
  exact ⟨rfl, fun ⟨_, same⟩ => by cases same⟩

theorem plain_epc (h : epcNode.Yields item) : Plain item := by
  obtain ⟨epc, rfl⟩ := epc_of_yields h
  exact ⟨rfl, fun ⟨_, same⟩ => by cases same⟩

theorem plain_property (h : propertyNode.Yields item) : Plain item := by
  obtain ⟨arg, rfl⟩ := property_of_yields h
  exact ⟨rfl, fun ⟨_, same⟩ => by cases same⟩

theorem plain_groupBy (h : groupByNode.Yields item) : Plain item := by
  obtain ⟨epc, rfl⟩ := groupBy_of_yields h
  exact ⟨rfl, fun ⟨_, same⟩ => by cases same⟩

/-- The items behind a target are no devices. -/
def Follows (node : Node) : Prop := ∀ result, node.Yields result → ∀ item ∈ result.items, ¬ IsDevice item

theorem follows_get : Follows (.repeated (.alt [epcNode, wordNode .getOption "-skip-validation"])) := by
  refine fun result => items_of_repeated fun item yields => ?_
  rcases yields with h | h | h
  · exact plain_epc h
  · exact plain_keyword h
  · exact h.elim

theorem follows_set : Follows (.repeated propertyNode) :=
  fun _ => items_of_repeated fun _ => plain_property

theorem follows_update : Follows (.optional (.repeated (.alt [wordNode .updateOption "-force",
    wordNode .updateOption "-f", wordNode .updateOption "--force"]))) := by
  refine fun result => items_of_any_number fun item yields => ?_
  rcases yields with h | h | h | h
  · exact plain_keyword h
  · exact plain_keyword h
  · exact plain_keyword h
  · exact h.elim

theorem follows_devices : Follows (.optional (.repeated (.alt [wordNode .listOption "-all",
    wordNode .listOption "-props", groupByNode, propertyNode, epcNode]))) := by
  refine fun result => items_of_any_number fun item yields => ?_
  rcases yields with h | h | h | h | h | h
  · exact plain_keyword h
  · exact plain_keyword h
  · exact plain_groupBy h
  · exact plain_property h
  · exact plain_epc h
  · exact h.elim

/-- A command word, a device and what follows it match with the device in second place. -/
theorem items_of_target_seq {first second third : Node} {tokens : List Token} {before rest : List Mark}
    {arg : DeviceArg} (marked : marks tokens = before)
    (takesFirst : Takes first before (.keyword .command keyword) (.word name :: rest))
    (takesSecond : Takes second (.word name :: rest) (.device arg) rest) (follows : Follows third)
    {matched : Matched} {consumed : Nat}
    (h : (Node.seq [first, second, third]).matchTokens tokens = some (matched, consumed)) :
    ∃ items, matched.items = .keyword .command keyword :: .device arg :: items
      ∧ ∀ item ∈ items, ¬ IsDevice item := by
  rw [Node.matchTokens_seq] at h
  obtain ⟨⟨parts, count⟩, all, same⟩ := Option.map_eq_some_iff.mp h
  cases same
  obtain ⟨behindFirst, _, _, rfl, left, all⟩ := matchAll_of_takes takesFirst marked all
  obtain ⟨behindSecond, others, _, rfl, -, all⟩ := matchAll_of_takes takesSecond left all
  obtain ⟨last, _, rfl, yields, rfl⟩ := allYield_of_matchAll _ all
  exact ⟨last.items, by simp [Matched.items, itemsOfAll], follows last yields⟩

/-- **In an accepted line the word in target position is the device**, and the items behind it are no devices. -/
theorem items_of_target {arg : DeviceArg} (h : Names directory name arg target) (word : keyword ∈ targetWords)
    {line : String} {rest : List Mark} (marked : marks (tokenize line) = .word keyword :: .word name :: rest)
    {matched : Matched} (accepted : parseTokens (tokenize line) = .ok matched) :
    ∃ items, matched.items = .keyword .command keyword :: .device arg :: items
      ∧ ∀ item ∈ items, ¬ IsDevice item := by
  obtain ⟨consumed, found, -⟩ := matchTokens_of_parseTokens accepted
  have decided {entry : List String × Node} (mem : entry ∈ commandTable) (key : keyword ∈ entry.1) :
      entry.2.matchTokens (tokenize line) = some (matched, consumed) := by
    rw [← matchTokens_commandGrammar mem key marked]
    exact found
  simp only [targetWords, List.mem_cons, List.not_mem_nil, or_false] at word
  rcases word with rfl | rfl | rfl | listing
  · exact items_of_target_seq marked takes_keyword (h.takes rest) follows_get
      (decided (show (["get"], getCommand) ∈ commandTable by simp [commandTable]) (by simp))
  · exact items_of_target_seq marked takes_keyword (h.takes rest) follows_set
      (decided (show (["set"], setCommand) ∈ commandTable by simp [commandTable]) (by simp))
  · exact items_of_target_seq marked takes_keyword (h.takes rest).optional follows_update
      (decided (show (["update"], updateCommand) ∈ commandTable by simp [commandTable]) (by simp))
  · exact items_of_target_seq marked (takes_listing listing) (h.takes rest).optional follows_devices
      (decided (show (["devices", "list"], devicesCommand) ∈ commandTable by simp [commandTable])
        (by simpa using listing))

/-- A fold keeps what every step keeps. -/
theorem foldlM_keeps {State Kept : Type} {step : State → Matched → Except ConsoleError State} {f : State → Kept}
    {P : Matched → Prop} (once : ∀ state item next, P item → step state item = .ok next → f next = f state)
    (each : ∀ item ∈ items, P item) {first last : State} (folded : items.foldlM step first = .ok last) :
    f last = f first := by
  induction items generalizing first with
  | nil => cases folded; rfl
  | cons item rest ih =>
    rw [List.foldlM_cons] at folded
    obtain ⟨next, stepped, folded⟩ := exists_of_bind folded
    rw [ih (fun other mem => each other (List.mem_cons_of_mem _ mem)) folded]
    exact once first item next (each item List.mem_cons_self) stepped

/-- An item that is no device leaves the target of a listing alone. -/
theorem addItem_keeps_target (draft : Directory.Draft) (item : Matched) (next : Directory.Draft)
    (plain : ¬ IsDevice item) (added : directory.addItem draft item = .ok next) :
    next.command.target = draft.command.target := by
  unfold Directory.addItem at added
  split at added
  · exact absurd ⟨_, rfl⟩ plain
  · exact absurd ⟨_, rfl⟩ plain
  · cases added; rfl
  · cases added; rfl
  · cases added; rfl
  · cases added; rfl
  · obtain ⟨property, -, rfl⟩ := exists_of_map added
    rfl
  · cases added

/-- An item that is no device leaves the target of a refresh alone. -/
theorem addUpdateItem_keeps_target (own : UpdateCommand) (item : Matched) (next : UpdateCommand)
    (plain : ¬ IsDevice item) (added : directory.addUpdateItem own item = .ok next) : next.target = own.target := by
  unfold Directory.addUpdateItem at added
  split at added
  · exact absurd ⟨_, rfl⟩ plain
  · cases added; rfl
  · cases added

theorem frontTarget_device {arg : DeviceArg} (stands : directory.target arg = .ok target) (items : List Matched) :
    directory.frontTarget (.device arg :: items) = .ok (target, items) := by
  rw [Directory.frontTarget, stands]
  rfl

/-- The device in front is the target of the command, if no other device follows. -/
theorem target_of_buildNamed {arg : DeviceArg} (stands : directory.target arg = .ok target)
    (word : keyword ∈ targetWords) (plain : ∀ item ∈ items, ¬ IsDevice item)
    (built : directory.buildNamed keyword (.device arg :: items) = .ok command) :
    command.target? = some target := by
  have listed {own : DevicesCommand} (folded : directory.devices (.device arg :: items) = .ok own) :
      own.target = some target := by
    obtain ⟨last, all, rfl⟩ := exists_of_map folded
    rw [List.foldlM_cons, addItem_device stands] at all
    exact foldlM_keeps (P := fun item => ¬ IsDevice item) (f := fun draft => draft.command.target)
      addItem_keeps_target plain all
  simp only [targetWords, List.mem_cons, List.not_mem_nil, or_false] at word
  rcases word with rfl | rfl | rfl | rfl | rfl
  · obtain ⟨own, made, rfl⟩ := exists_of_map built
    obtain ⟨_, front, made⟩ := exists_of_bind made
    rw [frontTarget_device stands] at front
    cases front
    obtain ⟨⟨epcs, skip⟩, -, made⟩ := exists_of_bind made
    by_cases none_asked : epcs.isEmpty = true
    · simp only [none_asked, if_true] at made
      cases made
    · simp only [none_asked] at made
      cases made
      rfl
  · obtain ⟨own, made, rfl⟩ := exists_of_map built
    obtain ⟨_, front, made⟩ := exists_of_bind made
    rw [frontTarget_device stands] at front
    cases front
    obtain ⟨properties, -, made⟩ := exists_of_bind made
    cases made
    rfl
  · obtain ⟨own, folded, rfl⟩ := exists_of_map built
    rw [Directory.update, List.foldlM_cons, addUpdateItem_device stands] at folded
    exact foldlM_keeps (P := fun item => ¬ IsDevice item) (f := UpdateCommand.target)
      addUpdateItem_keeps_target plain folded
  · obtain ⟨own, folded, rfl⟩ := exists_of_map built
    exact listed folded
  · obtain ⟨own, folded, rfl⟩ := exists_of_map built
    exact listed folded

/-- **In an accepted line the word in target position is the target of the command**, whatever follows it. -/
theorem target_of_parse {arg : DeviceArg} (h : Names directory name arg target) (word : keyword ∈ targetWords)
    {line : String} {rest : List Mark} (marked : marks (tokenize line) = .word keyword :: .word name :: rest)
    (parsed : directory.parse line = .ok command) : command.target? = some target := by
  unfold Directory.parse at parsed
  split at parsed
  · next matched accepted =>
    obtain ⟨items, flat, plain⟩ := items_of_target h word marked accepted
    rw [directory.build_of_items flat] at parsed
    exact target_of_buildNamed h.stands word plain parsed
  · cases parsed

end Items

end DeviceConsole
