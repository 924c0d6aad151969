import DeviceConsole.Proofs.Grammar.Origins
import DeviceConsole.Proofs.Grammar.Spacing

/-!
# `Proofs.Grammar.Waits` — where the walk of candidates waits

The walk of candidates collects what is expected in lists that are merged, replaced and cleared on the way: a sequence
forgets what it could have taken once it goes on, alternatives keep the lists of the furthest walks, and the column of
a part of a sequence is dropped with the comparison that it was made for. `Node.Waits` says without lists which leaves
are left: those that the walk comes to at the place where it stops, and that refuse what is there.

The lists hold the expectations of these leaves and no others. Hence each entry is that of a recogniser or of a
composite over one, never of a combinator. The column is that of a token, provided the line is a real one and every
alternation has a member, since the comparison of alternatives starts with a column of no walk.

* `AskedAt`, `sequence_of_stopsAt` — the members of a sequence at the place where its walk stops;
* `mem_sequence_iff`, `mem_furthest_iff` — what is left of the lists of the members;
* `Node.Waits`, `Node.mem_candidates_iff` — the leaves that are expected, exactly;
* `expected_iff_waits` — with the column, and without repetition.
-/

namespace DeviceConsole.Grammar

variable {tokens : List Token} {nodes : List Node} {node leaf : Node} {expected : Expected}

/-! ## Members of a sequence -/

/-- The members in front of a node take so many tokens, so that the node is asked about what is left of them. -/
def AskedAt (nodes : List Node) (tokens : List Token) (count : Nat) (node : Node) : Prop :=
  ∃ front back results, nodes = front ++ node :: back ∧ matchAll front tokens = some (results, count)

theorem AskedAt.mem {count : Nat} (h : AskedAt nodes tokens count node) : node ∈ nodes := by
  obtain ⟨front, back, results, rfl, -⟩ := h
  exact List.mem_append_right _ List.mem_cons_self

theorem not_askedAt_nil {count : Nat} : ¬ AskedAt [] tokens count node := by
  rintro ⟨front, back, results, shape, -⟩
  exact List.append_ne_nil_of_right_ne_nil front (List.cons_ne_nil node back) shape.symm

/-- The first member is asked about all tokens, and the others behind those that it takes. -/
theorem askedAt_cons {first : Node} {rest : List Node} {count : Nat} :
    AskedAt (first :: rest) tokens count node
      ↔ node = first ∧ count = 0
        ∨ ∃ result consumed more, first.matchTokens tokens = some (result, consumed)
          ∧ AskedAt rest (tokens.drop consumed) more node ∧ count = consumed + more := by
  constructor
  · rintro ⟨front, back, results, shape, all⟩
    cases front with
    | nil =>
      cases shape
      cases all
      exact .inl ⟨rfl, rfl⟩
    | cons own others =>
      cases shape
      rw [matchAll_cons] at all
      cases matched : first.matchTokens tokens with
      | none => rw [matched] at all; cases all
      | some found =>
        obtain ⟨result, consumed⟩ := found
        rw [matched] at all
        obtain ⟨⟨later, more⟩, tail, same⟩ := Option.map_eq_some_iff.mp all
        cases same
        exact .inr ⟨result, consumed, more, rfl, ⟨others, back, later, rfl, tail⟩, rfl⟩
  · rintro (⟨rfl, rfl⟩ | ⟨result, consumed, more, matched, ⟨front, back, results, rfl, all⟩, rfl⟩)
    · exact ⟨[], rest, [], rfl, rfl⟩
    · refine ⟨first :: front, back, result :: results, rfl, ?_⟩
      rw [matchAll_cons, matched]
      simp only [all, Option.map_some]

/-- A sequence stops at one place, which is that of its walk. -/
theorem sequence_of_stopsAt {count : Nat} (h : StopsAt nodes tokens count) (before : List Expected) :
    (sequenceCandidates nodes tokens before).1 = count := by
  obtain ⟨front, back, results, rfl, all, refused⟩ := h
  induction front generalizing tokens results count before with
  | nil =>
    cases all
    cases back with
    | nil => rfl
    | cons next rest => exact sequence_zero (refused next rfl) before
  | cons first rest ih =>
    rw [matchAll_cons] at all
    rw [List.cons_append, sequenceCandidates]
    cases matched : first.matchTokens tokens with
    | none => rw [matched] at all; cases all
    | some found =>
      obtain ⟨result, consumed⟩ := found
      rw [matched] at all
      obtain ⟨⟨later, more⟩, tail, same⟩ := Option.map_eq_some_iff.mp all
      cases same
      rw [← List.drop_drop] at refused
      by_cases nothing : consumed = 0
      · subst nothing
        rw [List.drop_zero] at tail refused
        simp only [if_true, Nat.zero_add]
        exact ih _ _ tail refused
      · simp only [nothing, if_false]
        rw [ih _ _ tail refused]

/-! ## What is left of the lists -/

/-- **A sequence expects what its members expect at the place where it stops.** What was expected before is still
expected as long as nothing is passed. -/
theorem mem_sequence_iff {before : List Expected} :
    expected ∈ (sequenceCandidates nodes tokens before).2
      ↔ (sequenceCandidates nodes tokens before).1 = 0 ∧ expected ∈ before
        ∨ ∃ node, AskedAt nodes tokens (sequenceCandidates nodes tokens before).1 node
          ∧ expected ∈ (node.candidates (tokens.drop (sequenceCandidates nodes tokens before).1)).2 := by
  induction nodes generalizing tokens before with
  | nil => simp [sequenceCandidates, not_askedAt_nil]
  | cons first rest ih =>
    rw [sequenceCandidates]
    cases matched : first.matchTokens tokens with
    | none => simp [askedAt_cons, matched, mem_addAllNew]
    | some found =>
      obtain ⟨result, consumed⟩ := found
      by_cases nothing : consumed = 0
      -- the list of a member that takes nothing is kept, and it is asked about the place where it stands
      · subst nothing
        have asked {count : Nat} {node : Node} : AskedAt (first :: rest) tokens count node
            ↔ node = first ∧ count = 0 ∨ AskedAt rest tokens count node := by
          simp [askedAt_cons, matched]
        simp only [if_true]
        rw [ih]
        constructor
        · rintro (⟨zero, mem⟩ | ⟨node, later, mem⟩)
          · rcases mem_addAllNew.mp mem with known | own
            · exact .inl ⟨zero, known⟩
            · exact .inr ⟨first, asked.mpr (.inl ⟨rfl, zero⟩), by rwa [zero, List.drop_zero]⟩
          · exact .inr ⟨node, asked.mpr (.inr later), mem⟩
        · rintro (⟨zero, known⟩ | ⟨node, here, mem⟩)
          · exact .inl ⟨zero, mem_addAllNew.mpr (.inl known)⟩
          · rcases asked.mp here with ⟨rfl, zero⟩ | later
            · rw [zero, List.drop_zero] at mem
              exact .inl ⟨zero, mem_addAllNew.mpr (.inr mem)⟩
            · exact .inr ⟨node, later, mem⟩
      -- a member that takes a token clears the list, and nothing in front of it is asked at the last place
      · have asked {more : Nat} {node : Node} : AskedAt (first :: rest) tokens (consumed + more) node
            ↔ AskedAt rest (tokens.drop consumed) more node := by
          simp [askedAt_cons, matched, nothing]
        simp only [nothing, if_false]
        rw [ih]
        simp [asked, nothing]

/-- Of two walks those count that get as far as the further one. -/
theorem mem_further_iff {best found : Nat × List Expected} :
    expected ∈ (further best found).2
      ↔ best.1 = (further best found).1 ∧ expected ∈ best.2
        ∨ found.1 = (further best found).1 ∧ expected ∈ found.2 := by
  unfold further
  by_cases ahead : best.1 < found.1
  · simp [ahead, Nat.ne_of_lt ahead]
  · by_cases level : found.1 = best.1
    · simp [level, mem_addAllNew]
    · simp [ahead, level]

/-- **Alternatives expect what their furthest walks expect.** -/
theorem mem_furthest_iff {best : Nat × List Expected} :
    expected ∈ (furthestCandidates nodes tokens best).2
      ↔ best.1 = (furthestCandidates nodes tokens best).1 ∧ expected ∈ best.2
        ∨ ∃ node ∈ nodes, (node.candidates tokens).1 = (furthestCandidates nodes tokens best).1
          ∧ expected ∈ (node.candidates tokens).2 := by
  induction nodes generalizing best with
  | nil => simp [furthestCandidates]
  | cons node rest ih =>
    rw [furthestCandidates, ih, mem_further_iff]
    -- a walk that gets to the last column is also the further one of the two at its turn
    have atMost := (furthest_position rest tokens (further best (node.candidates tokens))).1
    have turn := further_position best (node.candidates tokens)
    constructor
    · rintro (⟨last, ⟨level, mem⟩ | ⟨level, mem⟩⟩ | ⟨other, listed, level, mem⟩)
      · exact .inl ⟨level.trans last, mem⟩
      · exact .inr ⟨node, List.mem_cons_self, level.trans last, mem⟩
      · exact .inr ⟨other, List.mem_cons_of_mem _ listed, level, mem⟩
    · rintro (⟨last, mem⟩ | ⟨other, listed, last, mem⟩)
      · exact .inl ⟨by omega, .inl ⟨by omega, mem⟩⟩
      · rcases List.mem_cons.mp listed with rfl | later
        · exact .inl ⟨by omega, .inr ⟨by omega, mem⟩⟩
        · exact .inr ⟨other, later, last, mem⟩

/-! ## Leaves that wait -/

/-- The walk of candidates of a node over tokens comes to a leaf at the place where it stops, and the leaf refuses the
rest of the tokens there. Of several alternatives the furthest are walked. A sequence is walked at its last place,
where the members in front of the one that refuses may have taken nothing. -/
inductive Node.Waits : Node → List Token → Node → List Token → Prop
  | leaf {leaf : Node} {tokens : List Token} :
      leaf.isLeaf = true → leaf.matchTokens tokens = none → Waits leaf tokens leaf tokens
  | alt {members : List Node} {node leaf : Node} {tokens rest : List Token} :
      node ∈ members → (∀ other ∈ members, (other.candidates tokens).1 ≤ (node.candidates tokens).1) →
      node.Waits tokens leaf rest → Waits (.alt members) tokens leaf rest
  | seq {members : List Node} {node leaf : Node} {tokens rest : List Token} {count : Nat} :
      StopsAt members tokens count → AskedAt members tokens count node →
      node.Waits (tokens.drop count) leaf rest → Waits (.seq members) tokens leaf rest
  | optional {inner leaf : Node} {tokens rest : List Token} :
      inner.Waits tokens leaf rest → Waits (.optional inner) tokens leaf rest
  | repeated {inner leaf : Node} {tokens rest : List Token} :
      inner.Waits tokens leaf rest → Waits (.repeated inner) tokens leaf rest
  | composite {kind : NodeKind} {label : Option String} {convert : Matched → Option Matched} {inner leaf : Node}
      {tokens rest : List Token} :
      inner.isPrimitive = false → inner.Waits tokens leaf rest →
      Waits (.composite kind label convert inner) tokens leaf rest

theorem mem_leavesOfAll (mem : node ∈ nodes) (own : leaf ∈ node.leaves) : leaf ∈ leavesOfAll nodes := by
  induction nodes with
  | nil => cases mem
  | cons first rest ih =>
    rcases List.mem_cons.mp mem with rfl | later
    · exact List.mem_append_left _ own
    · exact List.mem_append_right _ (ih later)

/-- Each leaf that waits is a leaf of the tree, and it refuses what is left of the tokens. -/
theorem Node.Waits.refuses {rest : List Token} (h : node.Waits tokens leaf rest) :
    leaf ∈ node.leaves ∧ leaf.isLeaf = true ∧ rest <:+ tokens ∧ leaf.matchTokens rest = none := by
  induction h with
  | @leaf leaf tokens isLeaf refused =>
    refine ⟨?_, isLeaf, List.suffix_rfl, refused⟩
    cases leaf with
    | primitive recogniser => exact List.mem_singleton_self _
    | composite kind label convert inner =>
      rw [Node.leaves]
      exact if_pos isLeaf ▸ List.mem_singleton_self _
    | _ => cases isLeaf
  | alt mem _ _ ih => exact ⟨mem_leavesOfAll mem ih.1, ih.2⟩
  | seq _ asked _ ih =>
    obtain ⟨own, isLeaf, suffix, refused⟩ := ih
    exact ⟨mem_leavesOfAll asked.mem own, isLeaf, suffix.trans (List.drop_suffix _ _), refused⟩
  | optional _ ih => exact ih
  | repeated _ ih => exact ih
  | composite combinator _ ih =>
    rw [Node.leaves, if_neg (Bool.eq_false_iff.mp combinator)]
    exact ih

section Inversion

variable {inner : Node} {members : List Node} {rest : List Token}

/-- A leaf is not walked into: it waits itself, or nothing does. -/
theorem Node.waits_iff_of_isLeaf (isLeaf : node.isLeaf = true) :
    node.Waits tokens leaf rest ↔ leaf = node ∧ rest = tokens ∧ node.matchTokens tokens = none := by
  constructor
  · intro h
    cases h with
    | leaf _ refused => exact ⟨rfl, rfl, refused⟩
    | composite combinator _ => exact absurd isLeaf (Bool.eq_false_iff.mp combinator)
    | _ => cases isLeaf
  · rintro ⟨rfl, rfl, refused⟩
    exact .leaf isLeaf refused

theorem Node.waits_alt : (Node.alt members).Waits tokens leaf rest
    ↔ ∃ node ∈ members, (∀ other ∈ members, (other.candidates tokens).1 ≤ (node.candidates tokens).1)
      ∧ node.Waits tokens leaf rest := by
  constructor
  · intro h
    cases h with
    | leaf isLeaf => cases isLeaf
    | alt mem most waits => exact ⟨_, mem, most, waits⟩
  · rintro ⟨node, mem, most, waits⟩
    exact .alt mem most waits

/-- A sequence waits at one place, which is that of its walk. -/
theorem Node.waits_seq : (Node.seq members).Waits tokens leaf rest
    ↔ ∃ node, AskedAt members tokens (sequenceCandidates members tokens []).1 node
      ∧ node.Waits (tokens.drop (sequenceCandidates members tokens []).1) leaf rest := by
  constructor
  · intro h
    cases h with
    | leaf isLeaf => cases isLeaf
    | seq stops asked waits =>
      rw [sequence_of_stopsAt stops]
      exact ⟨_, asked, waits⟩
  · rintro ⟨node, asked, waits⟩
    exact .seq (stopsAt_sequence members tokens []) asked waits

theorem Node.waits_optional : (Node.optional inner).Waits tokens leaf rest ↔ inner.Waits tokens leaf rest := by
  refine ⟨fun h => ?_, .optional⟩
  cases h with
  | leaf isLeaf => cases isLeaf
  | optional waits => exact waits

theorem Node.waits_repeated : (Node.repeated inner).Waits tokens leaf rest ↔ inner.Waits tokens leaf rest := by
  refine ⟨fun h => ?_, .repeated⟩
  cases h with
  | leaf isLeaf => cases isLeaf
  | repeated waits => exact waits

theorem Node.waits_composite {kind : NodeKind} {label : Option String} {convert : Matched → Option Matched}
    (combinator : inner.isPrimitive = false) :
    (Node.composite kind label convert inner).Waits tokens leaf rest ↔ inner.Waits tokens leaf rest := by
  refine ⟨fun h => ?_, .composite combinator⟩
  cases h with
  | leaf isLeaf => exact absurd isLeaf (Bool.eq_false_iff.mp combinator)
  | composite _ waits => exact waits

end Inversion

/-- The expectation is that of a leaf that waits. -/
def Node.Awaits (node : Node) (tokens : List Token) (expected : Expected) : Prop :=
  ∃ leaf rest, node.Waits tokens leaf rest ∧ expected = leaf.expectation

theorem mem_leafCandidates_iff (isLeaf : node.isLeaf = true) :
    expected ∈ (leafCandidates node tokens).2 ↔ node.Awaits tokens expected := by
  simp only [Node.Awaits, Node.waits_iff_of_isLeaf isLeaf]
  unfold leafCandidates
  cases matched : node.matchTokens tokens with
  | none => simp [Node.expectation]
  | some found => simp

mutual

/-- **What is expected are the leaves that wait**, all of them and nothing else. -/
theorem Node.mem_candidates_iff (node : Node) {tokens : List Token} {expected : Expected} :
    expected ∈ (node.candidates tokens).2 ↔ node.Awaits tokens expected := by
  match node with
  | .alt members =>
    obtain ⟨-, furthest, one⟩ := furthest_position members tokens (0, [])
    rw [Node.candidates, mem_furthest_iff]
    simp only [Node.Awaits, Node.waits_alt]
    constructor
    · rintro (⟨-, none⟩ | ⟨node, mem, last, its⟩)
      · cases none
      · obtain ⟨leaf, rest, waits, same⟩ := (mem_candidatesOfAll_iff members node mem).mp its
        exact ⟨leaf, rest, ⟨node, mem, fun other listed => last ▸ furthest other listed, waits⟩, same⟩
    · rintro ⟨leaf, rest, ⟨node, mem, most, waits⟩, same⟩
      refine .inr ⟨node, mem, ?_, (mem_candidatesOfAll_iff members node mem).mpr ⟨leaf, rest, waits, same⟩⟩
      have atMost := furthest node mem
      rcases one with start | ⟨other, listed, level⟩
      · omega
      · exact Nat.le_antisymm atMost (level ▸ most other listed)
  | .seq members =>
    rw [Node.candidates]
    simp only [Node.Awaits, Node.waits_seq, mem_sequence_iff, List.not_mem_nil, and_false, false_or]
    constructor
    · rintro ⟨node, asked, its⟩
      obtain ⟨leaf, rest, waits, same⟩ := (mem_candidatesOfAll_iff members node asked.mem).mp its
      exact ⟨leaf, rest, ⟨node, asked, waits⟩, same⟩
    · rintro ⟨leaf, rest, ⟨node, asked, waits⟩, same⟩
      exact ⟨node, asked, (mem_candidatesOfAll_iff members node asked.mem).mpr ⟨leaf, rest, waits, same⟩⟩
  | .optional inner =>
    simp only [Node.Awaits, Node.waits_optional]
    exact inner.mem_candidates_iff
  | .repeated inner =>
    simp only [Node.Awaits, Node.waits_repeated]
    exact inner.mem_candidates_iff
  | .primitive recogniser => exact mem_leafCandidates_iff rfl
  | .composite kind label convert inner =>
    rw [Node.candidates]
    cases isLeaf : inner.isPrimitive with
    | true => exact mem_leafCandidates_iff isLeaf
    | false =>
      simp only [Node.Awaits, Node.waits_composite isLeaf]
      exact inner.mem_candidates_iff

theorem mem_candidatesOfAll_iff (nodes : List Node) : ∀ node ∈ nodes, ∀ {tokens : List Token} {expected : Expected},
    expected ∈ (node.candidates tokens).2 ↔ node.Awaits tokens expected := by
  intro node mem tokens expected
  match nodes with
  | first :: rest =>
    rcases List.mem_cons.mp mem with same | later
    · exact same ▸ first.mem_candidates_iff
    · exact mem_candidatesOfAll_iff rest node later

end

/-! ## Candidates of a line -/

/-- The column at which the walk over a line stops is that of a token. -/
theorem Node.exists_token_of_candidates {stop start : Nat} (node : Node) (chooses : node.Chooses)
    (h : Layout stop start tokens) : ∃ token ∈ tokens, (node.candidates tokens).1 = token.position := by
  obtain ⟨-, index, less, walk, -⟩ :=
    node.candidates_congr chooses (⟨rfl, ⟨stop, start, h⟩, ⟨stop, start, h⟩⟩ : Respaced tokens tokens)
  exact ⟨tokens[index], List.getElem_mem less, walk.trans (columnAt_of_getElem? (List.getElem?_eq_getElem less))⟩

/-- **Candidates are leaves that wait, at a token of the line.** For every tree and every list of tokens: nothing is
expected twice. What is expected are the kinds and labels of the leaves that wait, all of them and nothing else; each
is a leaf of the tree, a recogniser or a composite over one, and it refuses the tokens from some place of the list on.
Over the tokens of a line the column is that of one of them, if every alternation in the tree has a member. -/
theorem expected_iff_waits (node : Node) (tokens : List Token) :
    (node.candidates tokens).2.Nodup
    ∧ (∀ expected, expected ∈ (node.candidates tokens).2
      ↔ ∃ leaf rest, node.Waits tokens leaf rest ∧ expected = leaf.expectation)
    ∧ (∀ leaf rest, node.Waits tokens leaf rest →
      leaf ∈ node.leaves ∧ leaf.isLeaf = true ∧ rest <:+ tokens ∧ leaf.matchTokens rest = none)
    ∧ (node.Chooses → ∀ line, tokens = tokenize line →
      ∃ token ∈ tokens, (node.candidates tokens).1 = token.position) := by
  refine ⟨node.nodup_candidates tokens, fun _ => node.mem_candidates_iff, fun _ _ waits => waits.refuses, ?_⟩
  rintro chooses line rfl
  exact node.exists_token_of_candidates chooses (layout_tokenize line)

/-- Behind a device the walk waits for an EPC, at the end of the line. -/
theorem expected_iff_waits_get :
    commandGrammar.Chooses
    ∧ (∃ leaf rest, commandGrammar.Waits (tokenize "get ac ") leaf rest ∧ ⟨.epc, none⟩ = leaf.expectation
      ∧ leaf ∈ commandGrammar.leaves ∧ leaf.matchTokens rest = none)
    ∧ ∃ token ∈ tokenize "get ac ", (commandGrammar.candidates (tokenize "get ac ")).1 = token.position := by
  obtain ⟨-, waiting, leaves, column⟩ := expected_iff_waits commandGrammar (tokenize "get ac ")
  refine ⟨chooses_commandGrammar, ?_, column chooses_commandGrammar "get ac " rfl⟩
  obtain ⟨leaf, rest, waits, same⟩ := (waiting ⟨.epc, none⟩).mp (by decide +kernel)
  obtain ⟨listed, -, -, refused⟩ := leaves leaf rest waits
  exact ⟨leaf, rest, waits, same, listed, refused⟩

/-- Without a member in an alternation the column may be that of no token: it is where the comparison starts. -/
example : ((Node.alt []).candidates (tokenize " x")).1 = 0 ∧ (tokenize " x").map Token.position = [1, 2] := ⟨rfl, rfl⟩

end DeviceConsole.Grammar
