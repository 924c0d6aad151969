import DeviceConsole.Proofs.Command.Listing
import DeviceConsole.Proofs.Grammar.Forms
import DeviceConsole.Proofs.Grammar.Spacing

/-!
# `Proofs.Editor.Leaves` — what is expected behind a device

The words that can follow a beginning of a line are found by walking the whole grammar. If the line goes beyond its
first word, the walk of its command is ahead of all others, so what is expected is what this command expects; and
what is expected behind its device is what the node behind the device expects there.

* `furthest_keyed`, `expected_of_typed` — the walk of the command that the line starts with;
* `expected_behind` — what is expected behind a device;
* `property_leaves`, `value_leaves`, `item_leaves` — the leaves of a property, of its value behind a code, and of an
  item of a listing;
* `expected_behind_set`, `expected_behind_code`, `expected_behind_listing` — **what is expected in lines with a
  device**.
-/

namespace DeviceConsole.Grammar

open Device (Epc)

variable {tokens : List Token} {nodes : List Node} {node : Node} {text : String} {entry : List String × Node}

/-! ## The walk of the command -/

/-- A walk that is ahead of all others stays the best one. -/
theorem furthest_of_best {best : Nat × List Expected} (behind : ∀ node ∈ nodes, (node.candidates tokens).1 < best.1) :
    furthestCandidates nodes tokens best = best := by
  induction nodes with
  | nil => rfl
  | cons node rest ih =>
    have less := behind node List.mem_cons_self
    have step : further best (node.candidates tokens) = best := by rw [further, if_neg (by omega), if_neg (by omega)]
    rw [furthestCandidates, step]
    exact ih fun other mem => behind other (List.mem_cons_of_mem _ mem)

/-- **Of alternatives with different words the one with the given word is walked**, if it is ahead of the others. -/
theorem furthest_keyed {table : List (List String × Node)} {best : Nat × List Expected}
    (apart : table.Pairwise fun a b => ∀ word ∈ a.1, word ∉ b.1) (mem : entry ∈ table) (key : text ∈ entry.1)
    (ahead : best.1 < (entry.2.candidates tokens).1)
    (behind : ∀ other ∈ table, text ∉ other.1 → (other.2.candidates tokens).1 < (entry.2.candidates tokens).1) :
    furthestCandidates (table.map Prod.snd) tokens best = entry.2.candidates tokens := by
  induction table generalizing best with
  | nil => cases mem
  | cons first rest ih =>
    obtain ⟨different, apart⟩ := List.pairwise_cons.mp apart
    rw [List.map_cons, furthestCandidates]
    rcases List.mem_cons.mp mem with rfl | mem
    · rw [further, if_pos ahead]
      apply furthest_of_best
      intro node inRest
      obtain ⟨other, listed, rfl⟩ := List.mem_map.mp inRest
      exact behind other (List.mem_cons_of_mem _ listed) (different other listed text key)
    · have other : text ∉ first.1 := fun own => different entry mem text own key
      have less := behind first List.mem_cons_self other
      refine ih apart mem ?_ fun other listed => behind other (List.mem_cons_of_mem _ listed)
      rw [further_position]
      omega

/-- **Beyond the first word of a line its command alone is expected to go on.** -/
theorem expected_of_typed {stop start : Nat} {members : List Node} (h : Layout stop start tokens)
    (mem : entry ∈ commandTable) (shape : entry.2 = .seq members) (key : text ∈ entry.1)
    (marked : (marks tokens).head? = some (.word text)) (beyond : 0 < (sequenceCandidates members tokens []).1) :
    (commandGrammar.candidates tokens).2 = (sequenceCandidates members tokens []).2 := by
  have own : entry.2.candidates tokens
      = (columnAt tokens (sequenceCandidates members tokens []).1, (sequenceCandidates members tokens []).2) := by
    rw [shape, Node.candidates]
  have ahead : columnAt tokens 0 < (entry.2.candidates tokens).1 := by
    have less := h.stop_lt_length (stopsAt_sequence members tokens [])
    rw [own]
    exact (h.columnAt_lt_iff h.length_pos less).mpr beyond
  have behind : ∀ other ∈ commandTable, text ∉ other.1 →
      (other.2.candidates tokens).1 < (entry.2.candidates tokens).1 := by
    intro other listed notKey
    rw [position_of_command listed]
    · exact ahead
    · intro word its head
      rw [marked, Option.some.injEq, Mark.word.injEq] at head
      exact notKey (head ▸ its)
  have walk : commandGrammar.candidates tokens = entry.2.candidates tokens := by
    rw [commandGrammar_eq, Node.candidates]
    exact furthest_keyed (by decide) mem key (Nat.lt_of_le_of_lt (Nat.zero_le _) ahead) behind
  rw [walk, own]

/-! ## Behind the device -/

/-- Behind a member that takes some marks, what is expected is found anew. -/
theorem sequence_behind {stop start : Nat} (h : Layout stop start tokens) {front after : List Mark} {result : Matched}
    (takes : Takes node (front ++ after) result after) (some_mark : front ≠ []) (marked : marks tokens = front ++ after)
    (expected : List Expected) :
    ∃ later rest, Layout stop later rest ∧ marks rest = after
      ∧ 0 < (sequenceCandidates (node :: nodes) tokens expected).1
      ∧ (sequenceCandidates (node :: nodes) tokens expected).2 = (sequenceCandidates nodes rest []).2 := by
  obtain ⟨consumed, matched, left⟩ := takes tokens marked
  have some_token : consumed ≠ 0 := by
    rintro rfl
    rw [List.drop_zero, marked] at left
    exact some_mark (List.append_left_eq_self.mp left)
  obtain ⟨later, layout⟩ := h.drop (h.consumed_lt matched)
  have walk : sequenceCandidates (node :: nodes) tokens expected
      = (consumed + (sequenceCandidates nodes (tokens.drop consumed) []).1,
        (sequenceCandidates nodes (tokens.drop consumed) []).2) := by
    rw [sequenceCandidates, matched]
    simp only [some_token, if_false]
  refine ⟨later, tokens.drop consumed, layout, left, ?_, ?_⟩
  · rw [walk]
    show 0 < consumed + _
    omega
  · rw [walk]

/-- A last member that takes nothing expects what it starts with. -/
theorem sequence_last (stays : ∀ result consumed, node.matchTokens tokens = some (result, consumed) → consumed = 0) :
    (sequenceCandidates [node] tokens []).2 = addAllNew [] (node.candidates tokens).2 := by
  rw [sequenceCandidates]
  cases matched : node.matchTokens tokens with
  | none => rfl
  | some found =>
    obtain ⟨result, consumed⟩ := found
    obtain rfl := stays result consumed matched
    rfl

/-- **Behind the device of a command is expected what its last part can start with.** -/
theorem expected_behind {line : String} {first device last : Node} {argument after : List Mark} {result : Matched}
    (mem : entry ∈ commandTable) (key : text ∈ entry.1) (shape : entry.2 = .seq [first, device, last])
    (takes : Takes device (argument ++ after) result after) (some_mark : argument ≠ [])
    (marked : marks (tokenize line) = .word text :: (argument ++ after))
    (stays : ∀ tokens, marks tokens = after → ∀ result consumed,
      last.matchTokens tokens = some (result, consumed) → consumed = 0) :
    ∃ stop start rest, Layout stop start rest ∧ marks rest = after
      ∧ (commandGrammar.candidates (tokenize line)).2 = addAllNew [] (last.candidates rest).2 := by
  obtain ⟨own, others, sameShape, takesWord, -⟩ := command_head mem
  rw [shape] at sameShape
  cases sameShape
  have layout := layout_tokenize line
  have word : Takes first ([.word text] ++ (argument ++ after)) (.keyword .command text) (argument ++ after) :=
    takesWord text key _
  obtain ⟨_, tail, layoutTail, markedTail, beyond, behindWord⟩ := sequence_behind layout word (by simp) marked []
  obtain ⟨start, rest, layoutRest, markedRest, -, behindDevice⟩ :=
    sequence_behind layoutTail takes some_mark markedTail []
  refine ⟨_, start, rest, layoutRest, markedRest, ?_⟩
  have head : (marks (tokenize line)).head? = some (.word text) := by rw [marked, List.head?_cons]
  rw [expected_of_typed layout mem shape key head beyond, behindWord, behindDevice,
    sequence_last (stays rest markedRest)]

/-! ## Alternatives at one column -/

/-- Walks that end at the column of the best one add what they expect. -/
theorem furthest_level {column : Nat} (level : ∀ node ∈ nodes, (node.candidates tokens).1 = column)
    (known : List Expected) :
    furthestCandidates nodes tokens (column, known)
      = (column, addAllNew known (nodes.flatMap fun node => (node.candidates tokens).2)) := by
  induction nodes generalizing known with
  | nil => rfl
  | cons node rest ih =>
    have here := level node List.mem_cons_self
    have step : further (column, known) (node.candidates tokens)
        = (column, addAllNew known (node.candidates tokens).2) := by
      rw [further, here, if_neg (Nat.lt_irrefl _), if_pos rfl]
    rw [furthestCandidates, step, ih fun other mem => level other (List.mem_cons_of_mem _ mem), List.flatMap_cons,
      addAllNew, addAllNew, addAllNew, List.foldl_append]

/-- If all alternatives end at one column, what they expect is collected. -/
theorem alt_level {column : Nat} (level : ∀ other ∈ node :: nodes, (other.candidates tokens).1 = column) :
    (Node.alt (node :: nodes)).candidates tokens
      = (column, addAllNew (node.candidates tokens).2 (nodes.flatMap fun node => (node.candidates tokens).2)) := by
  have first : node.candidates tokens = (column, (node.candidates tokens).2) :=
    Prod.ext (level node List.mem_cons_self) rfl
  rw [Node.candidates, furthestCandidates, further_start (node.nodup_candidates tokens), first]
  exact furthest_level (fun other mem => level other (List.mem_cons_of_mem _ mem)) _

/-! ## Properties and items of a listing -/

/-- A value behind a property code, by its digits or by its name. -/
def valueNode : Node :=
  .alt [leaf .propertyValue .colonWord Conversion.propertyValue,
    leaf .propertyValueAlias .colonWord (Conversion.anyName .propertyValueAlias)]

/-- A name that stands for a property and its value. -/
def nameNode : Node := leaf .propertyAlias .word (Conversion.propertyAlias .propertyAlias)

theorem candidates_property (tokens : List Token) :
    propertyNode.candidates tokens = (Node.alt [.seq [epcNode, valueNode], nameNode]).candidates tokens := rfl

theorem marks_eq_stop (h : marks tokens = [.stop]) : ∃ position blanks, tokens = [.endOfInput position blanks] := by
  obtain ⟨token, rfl, same⟩ := List.map_eq_singleton_iff.mp h
  cases token with
  | word position own => cases same
  | colon position => cases same
  | endOfInput position blanks => exact ⟨position, blanks, rfl⟩

/-- At the end of a line a property is expected by its code or by its name. -/
theorem property_leaves (position : Nat) (blanks : String) :
    propertyNode.candidates [.endOfInput position blanks]
      = (position, [⟨.epc, none⟩, ⟨.propertyAlias, none⟩]) := by
  have level : ∀ other ∈ [.seq [epcNode, valueNode], nameNode],
      (other.candidates [.endOfInput position blanks]).1 = position := by
    intro other mem
    rcases List.mem_cons.mp mem with rfl | alone
    · rfl
    · rw [List.mem_singleton.mp alone]
      rfl
  rw [candidates_property, alt_level level]
  rfl

/-- At the end of a line an item of a listing is expected by one of its words, by its code or by its name. -/
theorem item_leaves (position : Nat) (blanks : String) :
    itemNode.candidates [.endOfInput position blanks]
      = (position, [⟨.listOption, some "-all"⟩, ⟨.listOption, some "-props"⟩, ⟨.listOption, some "-group-by"⟩,
          ⟨.epc, none⟩, ⟨.propertyAlias, none⟩]) := by
  have level : ∀ other ∈ [wordNode .listOption "-all", wordNode .listOption "-props", groupByNode, propertyNode,
      epcNode], (other.candidates [.endOfInput position blanks]).1 = position := by
    simp only [List.mem_cons, List.not_mem_nil, or_false]
    rintro other (rfl | rfl | rfl | rfl | rfl)
    · rfl
    · rfl
    · rfl
    · rw [property_leaves]
    · rfl
  rw [itemNode, alt_level level]
  simp only [List.flatMap_cons, property_leaves]
  rfl

/-- Behind the colon of a property code a value is expected, and no other property. -/
theorem value_leaves {start stop : Nat} (h : Layout stop start tokens) (epc : Typed Epc.ofText?)
    (marked : marks tokens = [.word epc.text, .colon, .stop]) :
    (propertyNode.candidates tokens).2 = [⟨.propertyValue, none⟩, ⟨.propertyValueAlias, none⟩] := by
  obtain ⟨first, rest, rfl, markedRest⟩ := marks_eq_word marked
  obtain ⟨second, last, rfl, markedLast⟩ := marks_eq_colon markedRest
  obtain ⟨third, blanks, rfl⟩ := marks_eq_stop markedLast
  have ascend : first < second := (List.pairwise_cons.mp h.pairwise).1 _ List.mem_cons_self
  have level : ∀ other ∈ [leaf .propertyValue .colonWord Conversion.propertyValue,
      leaf .propertyValueAlias .colonWord (Conversion.anyName .propertyValueAlias)],
      (other.candidates [.colon second, .endOfInput third blanks]).1 = second := by
    intro other mem
    rcases List.mem_cons.mp mem with rfl | alone
    · rfl
    · rw [List.mem_singleton.mp alone]
      rfl
  have value : valueNode.candidates [.colon second, .endOfInput third blanks]
      = (second, [⟨.propertyValue, none⟩, ⟨.propertyValueAlias, none⟩]) := by
    rw [valueNode, alt_level level]
    rfl
  have refused : valueNode.matchTokens [.colon second, .endOfInput third blanks] = none := rfl
  obtain ⟨consumed, code, left⟩ := @takes_epc [.colon, .stop] epc _ marked
  obtain rfl : consumed = 1 := by
    have lengths := congrArg List.length left
    rw [length_marks, List.length_drop] at lengths
    simp only [List.length_cons, List.length_nil] at lengths
    omega
  -- the code is passed, so the walk of the value is ahead of the name, which stays in front of the code
  have valued : (Node.seq [epcNode, valueNode]).candidates
      [.word first epc.text, .colon second, .endOfInput third blanks]
      = (second, [⟨.propertyValue, none⟩, ⟨.propertyValueAlias, none⟩]) := by
    have walk : sequenceCandidates [epcNode, valueNode]
        [.word first epc.text, .colon second, .endOfInput third blanks] []
        = (1, [⟨.propertyValue, none⟩, ⟨.propertyValueAlias, none⟩]) := by
      rw [sequenceCandidates, code]
      simp only [Nat.one_ne_zero, if_false, List.drop_succ_cons, List.drop_zero]
      rw [sequenceCandidates, refused, value]
      rfl
    rw [Node.candidates, walk]
    rfl
  have named : nameNode.candidates [.word first epc.text, .colon second, .endOfInput third blanks]
      = (first, [⟨.propertyAlias, none⟩]) := by
    have noName : nameNode.matchTokens [.word first epc.text, .colon second, .endOfInput third blanks] = none :=
      refuses_name_of_epc epc _ marked
    show leafCandidates nameNode _ = _
    rw [leafCandidates, noName]
    rfl
  have once : [(⟨.propertyValue, none⟩ : Expected), ⟨.propertyValueAlias, none⟩].Nodup := by decide
  rw [candidates_property, Node.candidates, furthestCandidates, valued, furthestCandidates, named, furthestCandidates,
    further_start once, further, if_neg (by omega), if_neg (by omega)]

/-! ## Lines with a device -/

section Lines

variable {line : String} {argument : List Mark} {arg : DeviceArg}

/-- A device takes something. -/
theorem device_ne_nil {after : List Mark} (takes : Takes deviceNode (argument ++ after) (.device arg) after) :
    argument ≠ [] := advances_device _ _ (took_of_takes takes)

/-- A code and a colon alone are no property. -/
theorem refuses_property_of_colon (epc : Typed Epc.ofText?) :
    Refuses propertyNode [.word epc.text, .colon, .stop] := by
  have noWord : Refuses (.primitive .colonWord) [.colon, .stop] := by
    intro tokens marked
    rw [Node.matchTokens_primitive, Primitive.matchTokens_eq, marked]
    rfl
  have noValue : Refuses (.seq [valueNode]) [.colon, .stop] :=
    Refuses.seq_head (.alt_cons (Refuses.composite noWord) (.alt_cons (Refuses.composite noWord) .alt_nil))
  exact Refuses.composite (.alt_cons (Refuses.seq_tail (takes_epc epc) noValue)
    (.alt_cons (refuses_name_of_epc epc) .alt_nil))

/-- Behind the device of a writing a property is expected, by its code or by its name. -/
theorem expected_behind_set (takes : Takes deviceNode (argument ++ [.stop]) (.device arg) [.stop])
    (marked : marks (tokenize line) = .word "set" :: (argument ++ [.stop])) :
    (commandGrammar.candidates (tokenize line)).2 = [⟨.epc, none⟩, ⟨.propertyAlias, none⟩] := by
  have mem : (["set"], setCommand) ∈ commandTable := by simp [commandTable]
  have stays : ∀ tokens, marks tokens = [.stop] → ∀ result consumed,
      (Node.repeated propertyNode).matchTokens tokens = some (result, consumed) → consumed = 0 := by
    intro tokens marked result consumed matched
    rw [Refuses.repeated refuses_property_stop tokens marked] at matched
    cases matched
  obtain ⟨_, _, rest, -, markedRest, expected⟩ :=
    expected_behind mem (List.mem_singleton_self _) rfl takes (device_ne_nil takes) marked stays
  obtain ⟨position, blanks, rfl⟩ := marks_eq_stop markedRest
  rw [expected, Node.candidates, property_leaves]
  rfl

/-- Behind a property code and a colon a value is expected. -/
theorem expected_behind_code (epc : Typed Epc.ofText?)
    (takes : Takes deviceNode (argument ++ [.word epc.text, .colon, .stop]) (.device arg)
      [.word epc.text, .colon, .stop])
    (marked : marks (tokenize line) = .word "set" :: (argument ++ [.word epc.text, .colon, .stop])) :
    (commandGrammar.candidates (tokenize line)).2 = [⟨.propertyValue, none⟩, ⟨.propertyValueAlias, none⟩] := by
  have mem : (["set"], setCommand) ∈ commandTable := by simp [commandTable]
  have stays : ∀ tokens, marks tokens = [.word epc.text, .colon, .stop] → ∀ result consumed,
      (Node.repeated propertyNode).matchTokens tokens = some (result, consumed) → consumed = 0 := by
    intro tokens marked result consumed matched
    rw [Refuses.repeated (refuses_property_of_colon epc) tokens marked] at matched
    cases matched
  obtain ⟨_, _, rest, layout, markedRest, expected⟩ :=
    expected_behind mem (List.mem_singleton_self _) rfl takes (device_ne_nil takes) marked stays
  rw [expected, Node.candidates, value_leaves layout epc markedRest]
  rfl

/-- Behind the device of a listing an item is expected. -/
theorem expected_behind_listing {keyword : String} (listing : keyword = "devices" ∨ keyword = "list")
    (takes : Takes deviceNode (argument ++ [.stop]) (.device arg) [.stop])
    (marked : marks (tokenize line) = .word keyword :: (argument ++ [.stop])) :
    (commandGrammar.candidates (tokenize line)).2
      = [⟨.listOption, some "-all"⟩, ⟨.listOption, some "-props"⟩, ⟨.listOption, some "-group-by"⟩,
          ⟨.epc, none⟩, ⟨.propertyAlias, none⟩] := by
  have mem : (["devices", "list"], devicesCommand) ∈ commandTable := by simp [commandTable]
  have key : keyword ∈ ["devices", "list"] := by simpa using listing
  have shape : devicesCommand
      = .seq [.alt [commandWord "devices", commandWord "list"], .optional deviceNode, .optional (.repeated itemNode)] :=
    rfl
  have stays : ∀ tokens, marks tokens = [.stop] → ∀ result consumed,
      (Node.optional (.repeated itemNode)).matchTokens tokens = some (result, consumed) → consumed = 0 := by
    intro tokens marked result consumed matched
    have noItem : Refuses itemNode [.stop] := refuses_item_of_no_word (by simp)
    rw [Node.matchTokens_optional, Refuses.repeated noItem tokens marked] at matched
    cases matched
    rfl
  obtain ⟨_, _, rest, -, markedRest, expected⟩ :=
    expected_behind mem key shape takes.optional (device_ne_nil takes) marked stays
  obtain ⟨position, blanks, rfl⟩ := marks_eq_stop markedRest
  rw [expected, Node.candidates, Node.candidates, item_leaves]
  rfl

end Lines

end DeviceConsole.Grammar
