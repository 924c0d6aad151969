import DeviceConsole.Proofs.Grammar.Forms

/-!
# `Proofs.Grammar.Assembly` — from the arguments to the whole grammar

The grammar puts words and a few sorts of arguments together, by choice, sequence, option and repetition. What these
four keep holds of the whole grammar as soon as it holds of a word and of every argument, so nothing has to be proved
of a command.

* `Assembles` — properties of nodes that the four ways to put nodes together keep, and that the arguments have;
* `Assembles.commandGrammar` — **such a property holds of the grammar**;
* `Blocks`, `blocks_of_parseTokens` — as an instance: in an accepted line every colon stands between two words, and no
  word stands between two colons.
-/

namespace DeviceConsole.Grammar

/-! ## Putting nodes together -/

/-- The property holds of words and arguments, and of what is put together of nodes for which it holds. -/
structure Assembles (Holds : Node → Prop) : Prop where
  altNil : Holds (.alt [])
  altCons {first : Node} {rest : List Node} : Holds first → Holds (.alt rest) → Holds (.alt (first :: rest))
  seqNil : Holds (.seq [])
  seqCons {first : Node} {rest : List Node} : Holds first → Holds (.seq rest) → Holds (.seq (first :: rest))
  optional {inner : Node} : Holds inner → Holds (.optional inner)
  repeated {inner : Node} : Holds inner → Holds (.repeated inner)
  word {kind : NodeKind} {label : String} : Holds (wordNode kind label)
  device : Holds deviceNode
  property : Holds propertyNode
  epc : Holds epcNode
  groupBy : Holds groupByNode
  groupName : Holds groupNameNode
  aliasName : Holds aliasNameNode
  topic : Holds (leaf .helpTopic .word (Conversion.anyName .helpTopic))

namespace Assembles

variable {Holds : Node → Prop}

theorem members (h : Assembles Holds) {action : String} : Holds (membersNode action) :=
  h.seqCons h.word (h.seqCons h.groupName (h.seqCons (h.repeated h.device) h.seqNil))

/-- **What holds of the arguments and is kept when nodes are put together holds of the whole grammar.** -/
theorem commandGrammar (h : Assembles Holds) : Holds commandGrammar := by
  have alone : ∀ {label}, Holds (.seq [wordNode .command label]) := h.seqCons h.word h.seqNil
  have listItem : Holds (.alt [wordNode .listOption "-all", wordNode .listOption "-props", groupByNode, propertyNode,
      epcNode]) :=
    h.altCons h.word (h.altCons h.word (h.altCons h.groupBy (h.altCons h.property (h.altCons h.epc h.altNil))))
  have devices : Holds devicesCommand :=
    h.seqCons (h.altCons h.word (h.altCons h.word h.altNil))
      (h.seqCons (h.optional h.device) (h.seqCons (h.optional (h.repeated listItem)) h.seqNil))
  have asked : Holds (.alt [epcNode, wordNode .getOption "-skip-validation"]) :=
    h.altCons h.epc (h.altCons h.word h.altNil)
  have get : Holds getCommand := h.seqCons h.word (h.seqCons h.device (h.seqCons (h.repeated asked) h.seqNil))
  have set : Holds setCommand := h.seqCons h.word (h.seqCons h.device (h.seqCons (h.repeated h.property) h.seqNil))
  have force : Holds (.alt [wordNode .updateOption "-force", wordNode .updateOption "-f",
      wordNode .updateOption "--force"]) :=
    h.altCons h.word (h.altCons h.word (h.altCons h.word h.altNil))
  have update : Holds updateCommand :=
    h.seqCons h.word (h.seqCons (h.optional h.device) (h.seqCons (h.optional (h.repeated force)) h.seqNil))
  have deleting : Holds (.seq [wordNode .deleteOption "-delete", aliasNameNode]) :=
    h.seqCons h.word (h.seqCons h.aliasName h.seqNil)
  have bound : Holds (.seq [deviceNode, .optional (.repeated propertyNode)]) :=
    h.seqCons h.device (h.seqCons (h.optional (h.repeated h.property)) h.seqNil)
  have aliases : Holds aliasCommand :=
    h.seqCons h.word (h.seqCons (h.optional (h.altCons deleting (h.altCons
      (h.seqCons h.aliasName (h.seqCons (h.optional bound) h.seqNil)) h.altNil))) h.seqNil)
  have deletedGroup : Holds (.seq [wordNode .groupAction "delete", groupNameNode]) :=
    h.seqCons h.word (h.seqCons h.groupName h.seqNil)
  have listedGroup : Holds (.seq [wordNode .groupAction "list", .optional groupNameNode]) :=
    h.seqCons h.word (h.seqCons (h.optional h.groupName) h.seqNil)
  have group : Holds groupCommand :=
    h.seqCons h.word (h.seqCons (h.altCons h.members (h.altCons h.members
      (h.altCons deletedGroup (h.altCons listedGroup h.altNil)))) h.seqNil)
  have debug : Holds debugCommand :=
    h.seqCons h.word (h.seqCons (h.optional (h.altCons h.word (h.altCons h.word h.altNil))) h.seqNil)
  have help : Holds helpCommand := h.seqCons h.word (h.seqCons (h.optional h.topic) h.seqNil)
  exact h.altCons alone (h.altCons devices (h.altCons get (h.altCons set (h.altCons update (h.altCons aliases
    (h.altCons group (h.altCons debug (h.altCons help (h.altCons alone h.altNil)))))))))

end Assembles

/-! ## Colons of an accepted line -/

/-- Words, pairs of words with a colon between them, and ends of lines. -/
inductive Blocks : List Mark → Prop
  | nil : Blocks []
  | stop {rest : List Mark} : Blocks rest → Blocks (.stop :: rest)
  | word {text : String} {rest : List Mark} : Blocks rest → Blocks (.word text :: rest)
  | pair {left right : String} {rest : List Mark} :
      Blocks rest → Blocks (.word left :: .colon :: .word right :: rest)

theorem Blocks.append {front back : List Mark} (h : Blocks front) (h' : Blocks back) : Blocks (front ++ back) := by
  induction h with
  | nil => exact h'
  | stop _ ih => exact .stop ih
  | word _ ih => exact .word ih
  | pair _ ih => exact .pair ih

/-- Whatever the node takes is made of blocks. -/
def Node.TakesBlocks (node : Node) : Prop := ∀ taken result, node.Took taken result → Blocks taken

section Arguments

variable {kind : NodeKind} {label : Option String} {convert : Matched → Option Matched}

theorem takesBlocks_word : (Node.composite kind label convert (.primitive .word)).TakesBlocks := by
  intro taken result took
  obtain ⟨text, rfl, -⟩ := took_word took
  exact .word .nil

/-- A device is a word, an object, or an address with or without an object. -/
theorem takesBlocks_device : deviceNode.TakesBlocks := by
  intro taken result took
  obtain ⟨arg, -, form⟩ := deviceForm_of_took took
  have object : ∀ {taken code number}, ObjectForm taken code number → Blocks taken := by
    intro taken code number form
    cases form with
    | bare => exact .word .nil
    | numbered => exact .pair .nil
  cases form with
  | address => exact .word .nil
  | placed _ form => exact .word (object form)
  | anywhere form => exact object form
  | group => exact .word .nil
  | aliased => exact .word .nil

/-- A property is a word, or a code and a value. -/
theorem takesBlocks_property : propertyNode.TakesBlocks := by
  intro taken result took
  obtain ⟨arg, -, form⟩ := propertyForm_of_took took
  cases form with
  | raw => exact .pair .nil
  | valueAlias => exact .pair .nil
  | aliased => exact .word .nil

theorem takesBlocks_groupBy : groupByNode.TakesBlocks := by
  rintro taken result ⟨found, ⟨_, rfl, _, _, _, _, rfl, rfl, option, _, _, _, _, rfl, rfl, second, rfl, rfl⟩, -⟩
  obtain ⟨label, rfl, -⟩ := took_word option
  obtain ⟨code, rfl, -⟩ := took_word second
  exact .word (.word .nil)

end Arguments

/-- What nodes that take blocks are put together to takes blocks. -/
theorem assembles_takesBlocks : Assembles Node.TakesBlocks where
  altNil := fun _ _ took => took.elim
  altCons first rest := by
    intro taken result took
    rcases took with took | took
    · exact first taken result took
    · exact rest taken result took
  seqNil := by
    rintro taken result ⟨_, -, rfl, -⟩
    exact .nil
  seqCons first rest := by
    rintro taken result ⟨_, -, front, one, back, others, rfl, -, took, tookRest⟩
    have behind : Blocks back := rest back (.seq others) ⟨others, rfl, tookRest⟩
    exact (first front one took).append behind
  optional inner := by
    intro taken result took
    rcases took with ⟨rfl, -⟩ | took
    · exact .nil
    · exact inner taken result took
  repeated inner := by
    rintro taken result ⟨rounds, rfl, -, each⟩
    induction rounds with
    | nil => exact .nil
    | cons round rest ih =>
      have now := inner round.1 round.2 (each round List.mem_cons_self)
      exact now.append (ih fun other mem => each other (List.mem_cons_of_mem _ mem))
  word := takesBlocks_word
  device := takesBlocks_device
  property := takesBlocks_property
  epc := takesBlocks_word
  groupBy := takesBlocks_groupBy
  groupName := takesBlocks_word
  aliasName := takesBlocks_word
  topic := takesBlocks_word

/-- **In an accepted line every colon stands between two words, and no word between two colons.** -/
theorem blocks_of_parseTokens {line : String} {matched : Matched} (h : parseTokens (tokenize line) = .ok matched) :
    Blocks (marks (tokenize line)) := by
  obtain ⟨front, shape, took⟩ := front_of_parseTokens rfl h
  have blocks := assembles_takesBlocks.commandGrammar front matched took
  rw [shape]
  exact blocks.append (.stop .nil)

end DeviceConsole.Grammar
