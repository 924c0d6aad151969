import DeviceConsole.Proofs.Grammar.Diagnostics

/-!
# `Proofs.Grammar.Spacing` — the walk of candidates does not see blanks

Matching reads the marks of a line alone. The walk of candidates also reads columns: alternatives are compared by the
column at which they stop, and the comparison starts at column 0. Two lines with the same marks have other columns, but
in both of them columns ascend with the tokens. So the walks take the same decisions, stop at the tokens of one index
and expect the same.

* `Node.nodup_candidates` — nothing is expected twice;
* `Node.Chooses` — trees without empty alternatives;
* `Node.candidates_congr` — the walks of a node over two lines with the same marks;
* `mismatchOf_congr` — what is said about two such lines.
-/

namespace DeviceConsole.Grammar

/-! ## Nothing is expected twice -/

theorem nodup_leafCandidates (leaf : Node) (tokens : List Token) : (leafCandidates leaf tokens).2.Nodup := by
  unfold leafCandidates
  split
  · exact List.nodup_nil
  · exact List.pairwise_singleton _ _

theorem nodup_further {best found : Nat × List Expected} (h : best.2.Nodup) (h' : found.2.Nodup) :
    (further best found).2.Nodup := by
  unfold further
  split
  · exact h'
  · split
    · exact nodup_addAllNew h
    · exact h

mutual

/-- **Nothing is expected twice.** -/
theorem Node.nodup_candidates (node : Node) (tokens : List Token) : (node.candidates tokens).2.Nodup := by
  match node with
  | .alt members => exact nodup_furthest members tokens List.nodup_nil
  | .seq members => exact nodup_sequence members tokens List.nodup_nil
  | .optional inner => exact inner.nodup_candidates tokens
  | .repeated inner => exact inner.nodup_candidates tokens
  | .primitive recogniser => exact nodup_leafCandidates _ tokens
  | .composite kind label convert inner =>
    rw [Node.candidates]
    split
    · exact nodup_leafCandidates _ tokens
    · exact inner.nodup_candidates tokens

theorem nodup_furthest (nodes : List Node) (tokens : List Token) {best : Nat × List Expected} (h : best.2.Nodup) :
    (furthestCandidates nodes tokens best).2.Nodup := by
  match nodes with
  | [] => exact h
  | node :: rest => exact nodup_furthest rest tokens (nodup_further h (node.nodup_candidates tokens))

theorem nodup_sequence (nodes : List Node) (tokens : List Token) {expected : List Expected} (h : expected.Nodup) :
    (sequenceCandidates nodes tokens expected).2.Nodup := by
  match nodes with
  | [] => exact h
  | node :: rest =>
    rw [sequenceCandidates]
    cases node.matchTokens tokens with
    | none => exact nodup_addAllNew h
    | some found =>
      by_cases nothing : found.2 = 0
      · simp only [nothing, if_true]
        exact nodup_sequence rest tokens (nodup_addAllNew h)
      · simp only [nothing, if_false]
        exact nodup_sequence rest (tokens.drop found.2) List.nodup_nil

end

/-! ## Trees that choose -/

mutual

/-- Every alternation in the tree has a member. -/
def Node.Chooses : Node → Prop
  | .alt members => members ≠ [] ∧ allChoose members
  | .seq members => allChoose members
  | .optional inner => inner.Chooses
  | .repeated inner => inner.Chooses
  | .primitive _ => True
  | .composite _ _ _ inner => inner.Chooses

/-- Each of the trees is such a tree. -/
def allChoose : List Node → Prop
  | [] => True
  | node :: rest => node.Chooses ∧ allChoose rest

end

/-- The grammar of the console has no empty alternation. -/
theorem chooses_commandGrammar : commandGrammar.Chooses := by
  simp [commandGrammar, discoverCommand, devicesCommand, getCommand, setCommand, updateCommand, aliasCommand,
    groupCommand, debugCommand, helpCommand, quitCommand, membersNode, groupByNode, deviceNode, eojNode, propertyNode,
    epcNode, ipAddressNode, groupNameNode, aliasNameNode, commandWord, wordNode, leaf, Node.Chooses, allChoose]

/-! ## Lines with the same marks -/

/-- Two lines, or what is left of them, with the same words and colons and other blanks. -/
structure Respaced (left right : List Token) : Prop where
  same : marks left = marks right
  left : ∃ stop start, Layout stop start left
  right : ∃ stop start, Layout stop start right

/-- The walks over two lines stop at the tokens of one index and expect the same. -/
def SamePlace (left right : List Token) (found other : Nat × List Expected) : Prop :=
  found.2 = other.2 ∧ ∃ index < left.length, found.1 = columnAt left index ∧ other.1 = columnAt right index

section Lines

variable {left right : List Token}

theorem Respaced.length_eq (h : Respaced left right) : left.length = right.length := by
  rw [← length_marks left, h.same, length_marks]

theorem Respaced.drop (h : Respaced left right) {count : Nat} (less : count < left.length) :
    Respaced (left.drop count) (right.drop count) := by
  obtain ⟨stop, start, layout⟩ := h.left
  obtain ⟨stop', start', layout'⟩ := h.right
  exact ⟨marks_drop h.same count, ⟨stop, layout.drop less⟩, ⟨stop', layout'.drop (h.length_eq ▸ less)⟩⟩

/-- Columns tell indices apart, and in their order. -/
theorem Layout.columnAt_lt_iff {stop start : Nat} {tokens : List Token} (h : Layout stop start tokens)
    {first second : Nat} (less : first < tokens.length) (less' : second < tokens.length) :
    columnAt tokens first < columnAt tokens second ↔ first < second := by
  rw [columnAt_of_getElem? (List.getElem?_eq_getElem less), columnAt_of_getElem? (List.getElem?_eq_getElem less')]
  have ascend := List.pairwise_iff_getElem.mp h.pairwise
  constructor
  · intro before
    refine Nat.lt_of_not_le fun le => ?_
    rcases Nat.lt_or_eq_of_le le with lt | rfl
    · have after := ascend second first less' less lt
      omega
    · omega
  · intro lt
    exact ascend first second less less' lt

/-- Of two walks the same one gets further on both lines, or both get equally far. -/
theorem Respaced.further_congr (h : Respaced left right) {best best' found found' : Nat × List Expected}
    (known : SamePlace left right best best') (new : SamePlace left right found found') :
    SamePlace left right (further best found) (further best' found') := by
  obtain ⟨stop, start, layout⟩ := h.left
  obtain ⟨stop', start', layout'⟩ := h.right
  obtain ⟨bestSame, i, iLess, bestLeft, bestRight⟩ := known
  obtain ⟨foundSame, j, jLess, foundLeft, foundRight⟩ := new
  have iLess' : i < right.length := h.length_eq ▸ iLess
  have jLess' : j < right.length := h.length_eq ▸ jLess
  -- the columns of the two lines are compared with the same outcome, since both follow the indices
  have ahead : best.1 < found.1 ↔ best'.1 < found'.1 := by
    rw [bestLeft, foundLeft, bestRight, foundRight, layout.columnAt_lt_iff iLess jLess,
      layout'.columnAt_lt_iff iLess' jLess']
  have behind : found.1 < best.1 ↔ found'.1 < best'.1 := by
    rw [bestLeft, foundLeft, bestRight, foundRight, layout.columnAt_lt_iff jLess iLess,
      layout'.columnAt_lt_iff jLess' iLess']
  have level : found.1 = best.1 ↔ found'.1 = best'.1 := by omega
  unfold further
  by_cases less : best.1 < found.1
  · rw [if_pos less, if_pos (ahead.mp less)]
    exact ⟨foundSame, j, jLess, foundLeft, foundRight⟩
  · rw [if_neg less, if_neg fun less' => less (ahead.mpr less')]
    by_cases equal : found.1 = best.1
    · rw [if_pos equal, if_pos (level.mp equal), bestSame, foundSame]
      exact ⟨rfl, i, iLess, bestLeft, bestRight⟩
    · rw [if_neg equal, if_neg fun equal' => equal (level.mpr equal')]
      exact ⟨bestSame, i, iLess, bestLeft, bestRight⟩

/-- The walk that the comparison of alternatives starts with is never better than a real one. -/
theorem further_start {found : Nat × List Expected} (h : found.2.Nodup) : further (0, []) found = found := by
  obtain ⟨column, expected⟩ := found
  unfold further
  by_cases less : 0 < column
  · exact if_pos less
  · obtain rfl : column = 0 := Nat.eq_zero_of_not_pos less
    simp only [Nat.lt_irrefl, if_false, if_true]
    rw [addAllNew_of_nodup (by simpa using h), List.nil_append]

theorem Respaced.leafCandidates_congr (h : Respaced left right) (leaf : Node) :
    SamePlace left right (leafCandidates leaf left) (leafCandidates leaf right) := by
  obtain ⟨stop, start, layout⟩ := h.left
  have same := leaf.matchTokens_congr h.same
  unfold leafCandidates
  rw [← same]
  cases matched : leaf.matchTokens left with
  | none =>
    exact ⟨rfl, 0, layout.length_pos, rfl, rfl⟩
  | some found => exact ⟨rfl, found.2, layout.consumed_lt matched, rfl, rfl⟩

end Lines

/-! ## Walks over lines with the same marks -/

mutual

/-- **The walks of a node over two lines with the same marks stop at the tokens of one index and expect the same.** -/
theorem Node.candidates_congr (node : Node) (chooses : node.Chooses) {left right : List Token}
    (h : Respaced left right) : SamePlace left right (node.candidates left) (node.candidates right) := by
  match node with
  | .alt members =>
    obtain ⟨some_member, all⟩ := chooses
    match members with
    | [] => exact absurd rfl some_member
    | first :: rest =>
      obtain ⟨firstChooses, restChoose⟩ := all
      show SamePlace left right (furthestCandidates rest left (further (0, []) (first.candidates left)))
        (furthestCandidates rest right (further (0, []) (first.candidates right)))
      rw [further_start (first.nodup_candidates left), further_start (first.nodup_candidates right)]
      exact furthest_congr rest restChoose h (first.candidates_congr firstChooses h)
  | .seq members =>
    obtain ⟨stop, start, layout⟩ := h.left
    have walks := sequence_congr members chooses h []
    have less := layout.stop_lt_length (stopsAt_sequence members left [])
    rw [Node.candidates, Node.candidates, ← walks]
    exact ⟨rfl, _, less, rfl, rfl⟩
  | .optional inner => exact inner.candidates_congr chooses h
  | .repeated inner => exact inner.candidates_congr chooses h
  | .primitive recogniser => exact h.leafCandidates_congr (.primitive recogniser)
  | .composite kind label convert inner =>
    rw [Node.candidates, Node.candidates]
    by_cases isLeaf : inner.isPrimitive = true
    · rw [if_pos isLeaf, if_pos isLeaf]
      exact h.leafCandidates_congr (.composite kind label convert inner)
    · rw [if_neg isLeaf, if_neg isLeaf]
      exact inner.candidates_congr chooses h

theorem furthest_congr (nodes : List Node) (choose : allChoose nodes) {left right : List Token}
    (h : Respaced left right) {best best' : Nat × List Expected} (known : SamePlace left right best best') :
    SamePlace left right (furthestCandidates nodes left best) (furthestCandidates nodes right best') := by
  match nodes with
  | [] => exact known
  | node :: rest =>
    obtain ⟨nodeChooses, restChoose⟩ := choose
    exact furthest_congr rest restChoose h (h.further_congr known (node.candidates_congr nodeChooses h))

/-- A sequence counts tokens, so its walks agree in everything. -/
theorem sequence_congr (nodes : List Node) (choose : allChoose nodes) {left right : List Token}
    (h : Respaced left right) (expected : List Expected) :
    sequenceCandidates nodes left expected = sequenceCandidates nodes right expected := by
  match nodes with
  | [] => rfl
  | node :: rest =>
    obtain ⟨nodeChooses, restChoose⟩ := choose
    obtain ⟨stop, start, layout⟩ := h.left
    have same := node.matchTokens_congr h.same
    obtain ⟨leaves, -⟩ := node.candidates_congr nodeChooses h
    rw [sequenceCandidates, sequenceCandidates, ← same, leaves]
    cases matched : node.matchTokens left with
    | none => rfl
    | some found =>
      by_cases nothing : found.2 = 0
      · simp only [nothing, if_true]
        exact sequence_congr rest restChoose h _
      · simp only [nothing, if_false]
        rw [sequence_congr rest restChoose (h.drop (layout.consumed_lt matched)) []]

end

/-! ## What is said about lines with the same marks -/

theorem respaced_tokenize {line other : String} (same : marks (tokenize line) = marks (tokenize other)) :
    Respaced (tokenize line) (tokenize other) :=
  ⟨same, ⟨_, _, layout_tokenize line⟩, ⟨_, _, layout_tokenize other⟩⟩

/-- The text of a token in a message; the end of the line has none. -/
def Mark.found : Mark → String
  | .word text => text
  | .colon => ":"
  | .stop => ""

theorem found_mark (token : Token) : token.mark.found = if token.isEnd then "" else token.text := by
  cases token with
  | word position text => rfl
  | colon position => rfl
  | endOfInput position blanks => rfl

/-- **What is said about two lines with the same marks** differs in the column alone, which is that of the token of one
index. -/
theorem mismatchOf_congr {left right : List Token} (h : Respaced left right) :
    ∃ (index : Nat) (first second : Token) (found : String) (expected : List String),
      left[index]? = some first ∧ right[index]? = some second
      ∧ mismatchOf left = ⟨first.position, found, expected⟩ ∧ mismatchOf right = ⟨second.position, found, expected⟩ := by
  obtain ⟨stop, start, layout⟩ := h.left
  obtain ⟨stop', start', layout'⟩ := h.right
  obtain ⟨leaves, index, less, walk, walk'⟩ := commandGrammar.candidates_congr chooses_commandGrammar h
  have less' : index < right.length := h.length_eq ▸ less
  have stands := List.getElem?_eq_getElem less
  have stands' := List.getElem?_eq_getElem less'
  have points := mismatchOf_pointsAt layout stands walk
  have points' := mismatchOf_pointsAt layout' stands' walk'
  have named : (mismatchOf right).found = (mismatchOf left).found := by
    have both : (marks left)[index]? = (marks right)[index]? := by rw [h.same]
    rw [marks, marks, List.getElem?_map, List.getElem?_map, stands, stands', Option.map_some, Option.map_some,
      Option.some.injEq] at both
    rw [points.found, points'.found, ← found_mark, ← found_mark, both]
  have expected : (mismatchOf right).expected = (mismatchOf left).expected := by
    rw [expected_mismatchOf, expected_mismatchOf, leaves]
  refine ⟨index, left[index], right[index], (mismatchOf left).found, (mismatchOf left).expected, stands, stands', ?_, ?_⟩
  · rw [← points.position]
  · rw [← points'.position, ← named, ← expected]

end DeviceConsole.Grammar
