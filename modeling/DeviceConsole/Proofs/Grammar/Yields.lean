import DeviceConsole.Proofs.Grammar.Lines
import Mathlib.Tactic.ByContra

/-!
# `Proofs.Grammar.Yields` — the shape of a match

What a node can give at all, whatever the tokens are: one of its alternatives, its parts in order, a part or
nothing, some of the same, or what its conversion makes of such a result. A program that takes results apart by
their shape needs this, and nothing of how the tokens were consumed.

* `Node.Yields` — the results that a node can give;
* `Node.yields_of_matchTokens` — every match is one of them;
* `command_of_parseTokens` — an accepted line starts with a word of the command that gave the match.
-/

namespace DeviceConsole.Grammar

/-! ## Results of a node -/

/-- The results that a recogniser can give. -/
def Primitive.Yields : Primitive → Matched → Prop
  | word, result | colonWord, result => ∃ text, result = .word text
  | colon, result => result = .colon

mutual

/-- The results that a node can give. -/
def Node.Yields : Node → Matched → Prop
  | .alt members, result => someYields members result
  | .seq members, result => ∃ parts, result = .seq parts ∧ allYield members parts
  | .optional inner, result => result = .skipped ∨ inner.Yields result
  | .repeated inner, result =>
    ∃ items, items ≠ [] ∧ result = .repeated items ∧ ∀ item ∈ items, inner.Yields item
  | .primitive recogniser, result => recogniser.Yields result
  | .composite _ _ convert inner, result => ∃ found, inner.Yields found ∧ convert found = some result

/-- One of the nodes can give the result. -/
def someYields : List Node → Matched → Prop
  | [], _ => False
  | node :: rest, result => node.Yields result ∨ someYields rest result

/-- The nodes can give the results, one node each. -/
def allYield : List Node → List Matched → Prop
  | [], results => results = []
  | node :: rest, results =>
    ∃ first others, results = first :: others ∧ node.Yields first ∧ allYield rest others

end

/-! ## Matches are results -/

theorem Primitive.yields_of_matchTokens {recogniser : Primitive} {tokens : List Token} {result : Matched}
    {consumed : Nat} (h : recogniser.matchTokens tokens = some (result, consumed)) :
    recogniser.Yields result := by
  unfold matchTokens at h
  split at h
  · next text _ => cases h; exact ⟨text, rfl⟩
  · cases h; exact rfl
  · next text _ => cases h; exact ⟨text, rfl⟩
  · cases h

/-- What holds of every match of the step holds of every match of its repetition. -/
theorem mem_of_matchRepeatedly {step : List Token → Option (Matched × Nat)} {P : Matched → Prop}
    (once : ∀ {tokens result consumed}, step tokens = some (result, consumed) → P result) (rounds : Nat)
    (tokens : List Token) : ∀ item ∈ (matchRepeatedly step rounds tokens).1, P item := by
  induction rounds generalizing tokens with
  | zero => simp [matchRepeatedly]
  | succ rounds ih =>
    rw [matchRepeatedly]
    cases matched : step tokens with
    | none => simp
    | some found =>
      obtain ⟨result, consumed⟩ := found
      by_cases nothing : consumed = 0
      · simp [nothing]
      · simp only [nothing, if_false]
        intro item mem
        rcases List.mem_cons.mp mem with rfl | mem
        · exact once matched
        · exact ih _ item mem

mutual

/-- **Every match is a result of its node.** -/
theorem Node.yields_of_matchTokens (node : Node) {tokens : List Token} {result : Matched} {consumed : Nat}
    (h : node.matchTokens tokens = some (result, consumed)) : node.Yields result := by
  match node with
  | .alt members =>
    rw [Node.matchTokens_alt] at h
    exact someYields_of_matchFirst members h
  | .seq members =>
    rw [Node.matchTokens_seq] at h
    obtain ⟨⟨parts, count⟩, matched, same⟩ := Option.map_eq_some_iff.mp h
    cases same
    exact ⟨parts, rfl, allYield_of_matchAll members matched⟩
  | .optional inner =>
    rw [Node.matchTokens_optional, Option.some.injEq] at h
    cases matched : inner.matchTokens tokens with
    | none =>
      rw [matched] at h
      cases h
      exact .inl rfl
    | some found =>
      rw [matched] at h
      cases h
      exact .inr (inner.yields_of_matchTokens matched)
  | .repeated inner =>
    rw [Node.matchTokens_repeated] at h
    -- the induction on rounds is made once, for any step
    have each : ∀ item ∈ (matchRepeatedly (fun tokens => inner.matchTokens tokens) tokens.length tokens).1,
        inner.Yields item :=
      mem_of_matchRepeatedly (fun matched => inner.yields_of_matchTokens matched) _ _
    generalize matchRepeatedly (fun tokens => inner.matchTokens tokens) tokens.length tokens = found at h each
    obtain ⟨items, count⟩ := found
    simp only at h
    by_cases empty : items.isEmpty
    · rw [if_pos empty] at h
      cases h
    · rw [if_neg empty] at h
      cases h
      exact ⟨items, fun none => empty (List.isEmpty_iff.mpr none), rfl, each⟩
  | .primitive recogniser =>
    rw [Node.matchTokens_primitive] at h
    exact Primitive.yields_of_matchTokens h
  | .composite _ _ convert inner =>
    rw [Node.matchTokens_composite] at h
    cases matched : inner.matchTokens tokens with
    | none =>
      rw [matched] at h
      cases h
    | some found =>
      rw [matched] at h
      obtain ⟨value, converted, same⟩ := Option.map_eq_some_iff.mp h
      cases same
      exact ⟨found.1, inner.yields_of_matchTokens matched, converted⟩

theorem someYields_of_matchFirst (nodes : List Node) {tokens : List Token} {result : Matched} {consumed : Nat}
    (h : matchFirst nodes tokens = some (result, consumed)) : someYields nodes result := by
  match nodes with
  | [] => cases h
  | node :: rest =>
    rw [matchFirst_cons] at h
    cases matched : node.matchTokens tokens with
    | none =>
      rw [matched] at h
      exact .inr (someYields_of_matchFirst rest h)
    | some found =>
      rw [matched] at h
      cases h
      exact .inl (node.yields_of_matchTokens matched)

theorem allYield_of_matchAll (nodes : List Node) {tokens : List Token} {results : List Matched}
    {consumed : Nat} (h : matchAll nodes tokens = some (results, consumed)) : allYield nodes results := by
  match nodes with
  | [] =>
    cases h
    exact rfl
  | node :: rest =>
    rw [matchAll_cons] at h
    cases matched : node.matchTokens tokens with
    | none =>
      rw [matched] at h
      cases h
    | some found =>
      rw [matched] at h
      obtain ⟨⟨others, more⟩, tail, same⟩ := Option.map_eq_some_iff.mp h
      cases same
      exact ⟨found.1, others, rfl, node.yields_of_matchTokens matched, allYield_of_matchAll rest tail⟩

end

/-! ## Results of words -/

section Words

variable {result : Matched}

theorem exists_word {read : String → Option Matched} {found : Matched}
    (h : Conversion.ofWord read found = some result) : ∃ text, read text = some result := by
  cases found with
  | word text => exact ⟨text, h⟩
  | _ => cases h

theorem keyword_of_yields {kind : NodeKind} {label : String} (h : (wordNode kind label).Yields result) :
    result = .keyword kind label := by
  obtain ⟨found, -, converted⟩ := h
  obtain ⟨text, read⟩ := exists_word converted
  exact (Conversion.keyword_of_keyword read).2

theorem epc_of_yields (h : epcNode.Yields result) : ∃ epc, result = .epc epc := by
  obtain ⟨found, -, converted⟩ := h
  obtain ⟨text, read⟩ := exists_word converted
  obtain ⟨epc, -, same⟩ := Option.map_eq_some_iff.mp read
  exact ⟨epc, same.symm⟩

theorem groupName_of_yields (h : groupNameNode.Yields result) : ∃ name, result = .name .groupName name := by
  obtain ⟨found, -, converted⟩ := h
  obtain ⟨text, read⟩ := exists_word converted
  exact ⟨text, Conversion.name_of_groupName read⟩

theorem aliasName_of_yields (h : aliasNameNode.Yields result) : ∃ name, result = .name .aliasName name := by
  obtain ⟨found, -, converted⟩ := h
  obtain ⟨text, read⟩ := exists_word converted
  exact ⟨text, Conversion.name_of_aliasName read⟩

theorem classCode_of_yields (h : (leaf .classCode .word Conversion.classCode).Yields result) :
    ∃ code, result = .classCode code := by
  obtain ⟨found, -, converted⟩ := h
  obtain ⟨text, read⟩ := exists_word converted
  obtain ⟨code, -, same⟩ := Option.map_eq_some_iff.mp read
  exact ⟨code, same.symm⟩

theorem ip_of_yields (h : ipAddressNode.Yields result) : ∃ address, result = .ip address := by
  obtain ⟨found, -, converted⟩ := h
  obtain ⟨text, read⟩ := exists_word converted
  obtain ⟨address, -, same⟩ := Option.map_eq_some_iff.mp read
  exact ⟨address, same.symm⟩

theorem deviceAlias_of_yields {kind : NodeKind}
    (h : (leaf kind .word (Conversion.deviceAlias kind)).Yields result) : ∃ name, result = .name kind name := by
  obtain ⟨found, -, converted⟩ := h
  obtain ⟨text, read⟩ := exists_word converted
  exact ⟨text, Conversion.name_of_deviceAlias read⟩

theorem propertyAlias_of_yields {kind : NodeKind}
    (h : (leaf kind .word (Conversion.propertyAlias kind)).Yields result) : ∃ name, result = .name kind name := by
  obtain ⟨found, -, converted⟩ := h
  obtain ⟨text, read⟩ := exists_word converted
  exact ⟨text, Conversion.name_of_propertyAlias read⟩

theorem anyName_of_yields {kind : NodeKind} {recogniser : Primitive}
    (h : (leaf kind recogniser (Conversion.anyName kind)).Yields result) : ∃ name, result = .name kind name := by
  obtain ⟨found, -, converted⟩ := h
  obtain ⟨text, read⟩ := exists_word converted
  exact ⟨text, Conversion.name_of_anyName read⟩

theorem edt_of_yields {kind : NodeKind} {recogniser : Primitive}
    (h : (leaf kind recogniser Conversion.propertyValue).Yields result) : ∃ bytes, result = .edt bytes := by
  obtain ⟨found, -, converted⟩ := h
  obtain ⟨text, read⟩ := exists_word converted
  obtain ⟨bytes, -, same⟩ := Option.map_eq_some_iff.mp read
  exact ⟨bytes, same.symm⟩

theorem eoj_of_yields (h : eojNode.Yields result) : ∃ code number, result = .eoj code number := by
  obtain ⟨found, -, converted⟩ := h
  exact Conversion.exists_of_eoj converted

end Words

/-! ## Lines -/

theorem exists_of_matchFirst {nodes : List Node} {tokens : List Token} {found : Matched × Nat}
    (h : matchFirst nodes tokens = some found) : ∃ node ∈ nodes, node.matchTokens tokens = some found := by
  induction nodes with
  | nil => cases h
  | cons node rest ih =>
    rw [matchFirst_cons] at h
    cases matched : node.matchTokens tokens with
    | some own =>
      rw [matched] at h
      exact ⟨node, List.mem_cons_self, by rw [matched]; exact h⟩
    | none =>
      rw [matched] at h
      obtain ⟨other, mem, own⟩ := ih h
      exact ⟨other, List.mem_cons_of_mem _ mem, own⟩

/-- **An accepted line belongs to one command**: it starts with a word of the command, and the match is a result
of the command. -/
theorem command_of_parseTokens {tokens : List Token} {matched : Matched}
    (h : parseTokens tokens = .ok matched) :
    ∃ entry ∈ commandTable, entry.2.Yields matched
      ∧ ∃ position text rest, tokens = .word position text :: rest ∧ text ∈ entry.1 := by
  obtain ⟨consumed, found, -⟩ := matchTokens_of_parseTokens h
  rw [commandGrammar_eq, Node.matchTokens_alt] at found
  obtain ⟨node, listed, taken⟩ := exists_of_matchFirst found
  obtain ⟨entry, mem, rfl⟩ := List.mem_map.mp listed
  refine ⟨entry, mem, entry.2.yields_of_matchTokens taken, ?_⟩
  -- any other first token would have been refused
  by_contra other
  have refused : Refuses entry.2 (marks tokens) := by
    refine refuses_command mem fun text own head => other ?_
    obtain ⟨after, eq⟩ := List.head?_eq_some_iff.mp head
    obtain ⟨position, rest, shape, -⟩ := marks_eq_word eq
    exact ⟨position, text, rest, shape, own⟩
  rw [refused tokens rfl] at taken
  cases taken

end DeviceConsole.Grammar
