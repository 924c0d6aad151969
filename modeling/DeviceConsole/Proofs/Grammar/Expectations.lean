import DeviceConsole.Proofs.Grammar.Took
import DeviceConsole.Proofs.Grammar.Yields

/-!
# `Proofs.Grammar.Expectations` — what could have stood there

The walk that looks for what can follow a line does not carry out the conversions of combined results, and of a
repetition it sees one round. So it could find nothing to complain about where the matching refuses a line. In the
grammar of the console it does not: combined results are never refused, and a repetition goes on as long as its inner
node matches.

* `Node.Explains` — nodes that expect something wherever they refuse;
* `Node.expected_ne_nil` — what this condition on the tree is good for;
* `explains_commandGrammar` — and the whole grammar satisfies it.
-/

namespace DeviceConsole.Grammar

variable {tokens : List Token}

/-! ## Nodes that explain themselves -/

mutual

/-- Wherever the node refuses, something is expected: there are alternatives, what is repeated takes a token, and
conversions refuse nothing but words. -/
def Node.Explains : Node → Prop
  | .alt members => members ≠ [] ∧ allExplain members
  | .seq members => allExplain members
  | .optional _ => True
  | .repeated inner => inner.Advances ∧ inner.Explains
  | .primitive _ => True
  | .composite _ _ convert inner =>
    inner.isPrimitive = true ∨ (∀ found, inner.Yields found → (convert found).isSome = true) ∧ inner.Explains

/-- Each of the nodes explains itself. -/
def allExplain : List Node → Prop
  | [] => True
  | node :: rest => node.Explains ∧ allExplain rest

end

theorem addAllNew_ne_nil {α : Type} [DecidableEq α] {present items : List α} (h : present ≠ [] ∨ items ≠ []) :
    addAllNew present items ≠ [] := by
  rcases h with some_present | some_item
  · obtain ⟨item, mem⟩ := List.exists_mem_of_ne_nil _ some_present
    exact List.ne_nil_of_mem (mem_addAllNew.mpr (.inl mem))
  · obtain ⟨item, mem⟩ := List.exists_mem_of_ne_nil _ some_item
    exact List.ne_nil_of_mem (mem_addAllNew.mpr (.inr mem))

/-- A repetition of something that takes a token refuses only where its inner node does. -/
theorem refused_of_repeated {inner : Node} (advances : inner.Advances)
    (refused : (Node.repeated inner).matchTokens tokens = none) : inner.matchTokens tokens = none := by
  cases matched : inner.matchTokens tokens with
  | none => rfl
  | some found =>
    obtain ⟨result, consumed⟩ := found
    have some_token : consumed ≠ 0 := advances.consumed_ne_zero matched
    obtain ⟨enough, -⟩ := inner.took_of_matchTokens matched
    obtain ⟨rounds, length⟩ : ∃ rounds, tokens.length = rounds + 1 := ⟨tokens.length - 1, by omega⟩
    rw [Node.matchTokens_repeated, length, matchRepeatedly, matched] at refused
    simp [some_token] at refused

theorem expected_of_leaf {node : Node} (refused : node.matchTokens tokens = none) :
    (leafCandidates node tokens).2 ≠ [] := by
  rw [leafCandidates, refused]
  simp

mutual

/-- **A node that explains itself expects something wherever it refuses.** -/
theorem Node.expected_ne_nil (node : Node) (h : node.Explains) {tokens : List Token}
    (refused : node.matchTokens tokens = none) : (node.candidates tokens).2 ≠ [] := by
  match node with
  | .alt members =>
    obtain ⟨some_member, all⟩ := h
    rw [Node.matchTokens_alt] at refused
    match members with
    | [] => exact absurd rfl some_member
    | first :: rest =>
      obtain ⟨firstExplains, restExplain⟩ := all
      rw [matchFirst_cons] at refused
      cases matched : first.matchTokens tokens with
      | some found => rw [matched] at refused; cases refused
      | none =>
        rw [matched] at refused
        have found := first.expected_ne_nil firstExplains matched
        -- the walk starts with nothing at the first column, which no walk is behind
        have better : (further (0, []) (first.candidates tokens)).2 ≠ [] := by
          rw [further]
          split
          · exact found
          · rw [if_pos (by omega)]
            exact addAllNew_ne_nil (.inr found)
        exact furthest_expected rest restExplain refused better
  | .seq members =>
    rw [Node.matchTokens_seq, Option.map_eq_none_iff] at refused
    exact sequence_expected members h refused []
  | .optional inner =>
    rw [Node.matchTokens_optional] at refused
    cases refused
  | .repeated inner =>
    obtain ⟨advances, innerExplains⟩ := h
    exact inner.expected_ne_nil innerExplains (refused_of_repeated advances refused)
  | .primitive recogniser => exact expected_of_leaf refused
  | .composite kind label convert inner =>
    rw [Node.candidates]
    by_cases isLeaf : inner.isPrimitive = true
    · rw [if_pos isLeaf]
      exact expected_of_leaf refused
    · rw [if_neg isLeaf]
      obtain ⟨total, innerExplains⟩ := h.resolve_left isLeaf
      refine inner.expected_ne_nil innerExplains ?_
      rw [Node.matchTokens_composite] at refused
      cases matched : inner.matchTokens tokens with
      | none => rfl
      | some found =>
        have converted := total found.1 (inner.yields_of_matchTokens matched)
        rw [matched] at refused
        rw [Option.map_eq_none_iff.mp refused] at converted
        cases converted

/-- The furthest of walks that all expect something expects something. -/
theorem furthest_expected (nodes : List Node) (all : allExplain nodes) {tokens : List Token}
    (refused : matchFirst nodes tokens = none) {best : Nat × List Expected} (some_best : best.2 ≠ []) :
    (furthestCandidates nodes tokens best).2 ≠ [] := by
  match nodes with
  | [] => exact some_best
  | node :: rest =>
    obtain ⟨nodeExplains, restExplain⟩ := all
    rw [matchFirst_cons] at refused
    cases matched : node.matchTokens tokens with
    | some found => rw [matched] at refused; cases refused
    | none =>
      rw [matched] at refused
      have found := node.expected_ne_nil nodeExplains matched
      have better : (further best (node.candidates tokens)).2 ≠ [] := by
        rw [further]
        split
        · exact found
        · split
          · exact addAllNew_ne_nil (.inl some_best)
          · exact some_best
      exact furthest_expected rest restExplain refused better

/-- The walk of a sequence that stops expects something. -/
theorem sequence_expected (nodes : List Node) (all : allExplain nodes) {tokens : List Token}
    (refused : matchAll nodes tokens = none) (expected : List Expected) :
    (sequenceCandidates nodes tokens expected).2 ≠ [] := by
  match nodes with
  | [] => cases refused
  | node :: rest =>
    obtain ⟨nodeExplains, restExplain⟩ := all
    rw [matchAll_cons] at refused
    rw [sequenceCandidates]
    cases matched : node.matchTokens tokens with
    | none => exact addAllNew_ne_nil (.inr (node.expected_ne_nil nodeExplains matched))
    | some found =>
      rw [matched] at refused
      have later : matchAll rest (tokens.drop found.2) = none := Option.map_eq_none_iff.mp refused
      by_cases nothing : found.2 = 0
      · rw [nothing, List.drop_zero] at later
        simp only [nothing, if_true]
        exact sequence_expected rest restExplain later _
      · simp only [nothing, if_false]
        exact sequence_expected rest restExplain later []

end

/-! ## The grammar of the console -/

section Console

theorem explains_leaf {kind : NodeKind} {recogniser : Primitive} {convert : Matched → Option Matched} :
    (leaf kind recogniser convert).Explains := .inl rfl

theorem explains_word {kind : NodeKind} {label : String} : (wordNode kind label).Explains := .inl rfl

theorem explains_eoj : eojNode.Explains := by
  refine .inr ⟨?_, explains_leaf, trivial, trivial⟩
  rintro _ ⟨_, rfl, code, _, rfl, codeYields, number, _, rfl, numberYields, rfl⟩
  obtain ⟨code, rfl⟩ := classCode_of_yields codeYields
  rcases numberYields with rfl | ⟨found, -, converted⟩
  · rfl
  · unfold Conversion.eoj
    split
    · rfl
    · rfl
    · next other => exact absurd rfl (other code number)

theorem explains_device : deviceNode.Explains := by
  refine .inr ⟨?_, by simp, ⟨explains_leaf, trivial, trivial⟩, explains_eoj, explains_leaf, explains_leaf, trivial⟩
  rintro found (placed | object | group | alone | never)
  · obtain ⟨_, rfl, address, _, rfl, addressYields, object, _, rfl, objectYields, rfl⟩ := placed
    obtain ⟨address, rfl⟩ := ip_of_yields addressYields
    rcases objectYields with rfl | objectYields
    · rfl
    · obtain ⟨code, number, rfl⟩ := eoj_of_yields objectYields
      rfl
  · obtain ⟨code, number, rfl⟩ := eoj_of_yields object
    rfl
  · obtain ⟨name, rfl⟩ := groupName_of_yields group
    rfl
  · obtain ⟨name, rfl⟩ := deviceAlias_of_yields alone
    rfl
  · exact never.elim

theorem explains_property : propertyNode.Explains := by
  refine .inr ⟨?_, by simp, ⟨explains_leaf, ⟨by simp, explains_leaf, explains_leaf, trivial⟩, trivial⟩,
    explains_leaf, trivial⟩
  rintro found (valued | alone | never)
  · obtain ⟨_, rfl, code, _, rfl, codeYields, value, _, rfl, valueYields, rfl⟩ := valued
    obtain ⟨code, rfl⟩ := epc_of_yields codeYields
    rcases valueYields with bytes | named | never
    · obtain ⟨bytes, rfl⟩ := edt_of_yields bytes
      rfl
    · obtain ⟨name, rfl⟩ := anyName_of_yields named
      rfl
    · exact never.elim
  · obtain ⟨name, rfl⟩ := propertyAlias_of_yields alone
    rfl
  · exact never.elim

theorem explains_members {action : String} : (membersNode action).Explains :=
  ⟨explains_word, explains_leaf, ⟨advances_device, explains_device⟩, trivial⟩

/-- **The grammar of the console explains itself**: nothing is refused without an expectation. -/
theorem explains_commandGrammar : commandGrammar.Explains := by
  have discover : discoverCommand.Explains := ⟨explains_word, trivial⟩
  have devices : devicesCommand.Explains :=
    ⟨⟨by simp, explains_word, explains_word, trivial⟩, trivial, trivial, trivial⟩
  have get : getCommand.Explains :=
    ⟨explains_word, explains_device, ⟨.alt_cons advances_leaf (.alt_cons advances_word .alt_nil),
      by simp, explains_leaf, explains_word, trivial⟩, trivial⟩
  have set : setCommand.Explains :=
    ⟨explains_word, explains_device, ⟨advances_property, explains_property⟩, trivial⟩
  have update : updateCommand.Explains := ⟨explains_word, trivial, trivial, trivial⟩
  have aliases : aliasCommand.Explains := ⟨explains_word, trivial, trivial⟩
  have group : groupCommand.Explains :=
    ⟨explains_word, ⟨by simp, explains_members, explains_members, ⟨explains_word, explains_leaf, trivial⟩,
      ⟨explains_word, trivial, trivial⟩, trivial⟩, trivial⟩
  have debug : debugCommand.Explains := ⟨explains_word, trivial, trivial⟩
  have help : helpCommand.Explains := ⟨explains_word, trivial, trivial⟩
  have quit : quitCommand.Explains := ⟨explains_word, trivial⟩
  exact ⟨by simp, discover, devices, get, set, update, aliases, group, debug, help, quit, trivial⟩

end Console

end DeviceConsole.Grammar
