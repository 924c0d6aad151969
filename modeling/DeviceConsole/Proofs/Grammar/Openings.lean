import DeviceConsole.Proofs.Grammar.Expectations

/-!
# `Proofs.Grammar.Openings` — what a line can start with is expected

Suggestions for an empty line come from a walk over the end of the line alone, where nothing is there to be matched.
The match of a line takes another way through the tree: it stops at the first alternative that matches and passes over
optional members. Still no beginning is missing from the suggestions, because a member that can be passed over in
front of some tokens can be passed over at the end of the line, provided that no combined result is refused.

* `Node.shares`, `Split` — the leaves that a match goes through, and the tokens that each of them takes;
* `Node.split_of_matchTokens` — every match is split up between its leaves;
* `Node.Keeps`, `keeps_commandGrammar` — trees that refuse no combined result;
* `Node.skips_at_end` — what takes nothing can be passed over at the end of the line;
* `Node.first_share` — the leaf that takes the first token is expected at the end of the line;
* `first_leaf_expected` — **suggestions are complete where a node is entered afresh**.
-/

namespace DeviceConsole.Grammar

variable {tokens : List Token} {result : Matched} {consumed : Nat}

/-! ## The leaves of a match -/

/-- A leaf, and the number of tokens that it takes in a match. -/
structure Share where
  leaf : Node
  count : Nat

/-- The share as it would be suggested. -/
def Share.expected (share : Share) : Expected := ⟨share.leaf.kind, share.leaf.label⟩

/-- The share of a leaf that is all of the node. -/
def leafShares (leaf : Node) (tokens : List Token) : List Share :=
  match leaf.matchTokens tokens with
  | none => []
  | some (_, count) => [⟨leaf, count⟩]

/-- The shares of the rounds of a repetition. -/
def sharesRepeatedly (step : List Token → Option (Matched × Nat)) (shares : List Token → List Share) :
    Nat → List Token → List Share
  | 0, _ => []
  | rounds + 1, tokens =>
    match step tokens with
    | none => []
    | some (_, count) =>
      if count = 0 then [] else shares tokens ++ sharesRepeatedly step shares rounds (tokens.drop count)

mutual

/-- The leaves that the match of a node goes through, in order; a composite over a recogniser is one leaf. -/
def Node.shares : Node → List Token → List Share
  | .alt members, tokens => sharesOfFirst members tokens
  | .seq members, tokens => sharesOfAll members tokens
  | .optional inner, tokens => if (inner.matchTokens tokens).isSome then inner.shares tokens else []
  | .repeated inner, tokens =>
    sharesRepeatedly (fun tokens => inner.matchTokens tokens) (fun tokens => inner.shares tokens) tokens.length tokens
  | .primitive recogniser, tokens => leafShares (.primitive recogniser) tokens
  | .composite kind label convert inner, tokens =>
    if inner.isPrimitive then leafShares (.composite kind label convert inner) tokens else inner.shares tokens

/-- The shares of the first node that matches. -/
def sharesOfFirst : List Node → List Token → List Share
  | [], _ => []
  | node :: rest, tokens =>
    if (node.matchTokens tokens).isSome then node.shares tokens else sharesOfFirst rest tokens

/-- The shares of all nodes, one behind the other. -/
def sharesOfAll : List Node → List Token → List Share
  | [], _ => []
  | node :: rest, tokens =>
    match node.matchTokens tokens with
    | none => []
    | some (_, count) => node.shares tokens ++ sharesOfAll rest (tokens.drop count)

end

/-- The shares stand in front of the tokens, one behind the other: each is that of a leaf, which matches where it
stands and takes its tokens. Together they take so many. -/
inductive Split : List Token → List Share → Nat → Prop
  | nil {tokens : List Token} : Split tokens [] 0
  | cons {tokens : List Token} {leaf : Node} {result : Matched} {count more : Nat} {rest : List Share} :
      leaf.isLeaf = true →
      leaf.matchTokens tokens = some (result, count) → 0 < count → Split (tokens.drop count) rest more →
      Split tokens (⟨leaf, count⟩ :: rest) (count + more)

theorem Split.append {first second : List Share} {more : Nat} (h : Split tokens first consumed)
    (behind : Split (tokens.drop consumed) second more) : Split tokens (first ++ second) (consumed + more) := by
  induction h with
  | nil => simpa using behind
  | cons isLeaf matched some_token _ ih =>
    rw [← List.drop_drop] at behind
    rw [Nat.add_assoc]
    exact .cons isLeaf matched some_token (ih behind)

/-- Who takes no token has no share. -/
theorem Split.eq_nil {shares : List Share} (h : Split tokens shares 0) : shares = [] := by
  generalize none : 0 = total at h
  cases h with
  | nil => rfl
  | cons _ _ some_token _ => omega

/-- Who takes a token has a first share. -/
theorem Split.exists_cons {shares : List Share} (h : Split tokens shares consumed) (some_token : 0 < consumed) :
    ∃ share rest, shares = share :: rest := by
  cases h with
  | nil => omega
  | cons => exact ⟨_, _, rfl⟩

/-- A match of a leaf takes a token. -/
theorem consumed_pos_of_leaf {leaf : Node} (isLeaf : leaf.isLeaf = true)
    (h : leaf.matchTokens tokens = some (result, consumed)) : 0 < consumed := by
  have primitive : ∀ (recogniser : Primitive) {result}, recogniser.matchTokens tokens = some (result, consumed) →
      0 < consumed := by
    intro recogniser result matched
    unfold Primitive.matchTokens at matched
    split at matched <;> cases matched <;> simp
  cases leaf with
  | primitive recogniser => exact primitive recogniser h
  | composite kind label convert inner =>
    cases inner with
    | primitive recogniser =>
      rw [Node.matchTokens_composite, Node.matchTokens_primitive] at h
      cases matched : recogniser.matchTokens tokens with
      | none => rw [matched] at h; cases h
      | some found =>
        rw [matched] at h
        obtain ⟨_, -, same⟩ := Option.map_eq_some_iff.mp h
        cases same
        exact primitive recogniser matched
    | _ => cases isLeaf
  | _ => cases isLeaf

theorem split_of_leaf {leaf : Node} (isLeaf : leaf.isLeaf = true)
    (h : leaf.matchTokens tokens = some (result, consumed)) : Split tokens (leafShares leaf tokens) consumed := by
  rw [leafShares, h]
  exact .cons isLeaf h (consumed_pos_of_leaf isLeaf h) .nil

/-- If every round is split up, all of them are. -/
theorem split_of_matchRepeatedly {step : List Token → Option (Matched × Nat)} {shares : List Token → List Share}
    (once : ∀ {tokens result consumed}, step tokens = some (result, consumed) → Split tokens (shares tokens) consumed)
    (rounds : Nat) (tokens : List Token) :
    Split tokens (sharesRepeatedly step shares rounds tokens) (matchRepeatedly step rounds tokens).2 := by
  induction rounds generalizing tokens with
  | zero => exact .nil
  | succ rounds ih =>
    rw [sharesRepeatedly, matchRepeatedly]
    cases matched : step tokens with
    | none => exact .nil
    | some found =>
      obtain ⟨result, count⟩ := found
      by_cases nothing : count = 0
      · simp only [nothing, if_true]
        exact .nil
      · simp only [nothing, if_false]
        exact (once matched).append (ih _)

/-- A composite takes what its inner node takes, and its conversion accepts the result. -/
theorem inner_of_composite {kind : NodeKind} {label : Option String} {convert : Matched → Option Matched}
    {inner : Node} (h : (Node.composite kind label convert inner).matchTokens tokens = some (result, consumed)) :
    ∃ found, inner.matchTokens tokens = some (found, consumed) ∧ convert found = some result := by
  rw [Node.matchTokens_composite] at h
  cases matched : inner.matchTokens tokens with
  | none => rw [matched] at h; cases h
  | some found =>
    rw [matched] at h
    obtain ⟨value, converted, same⟩ := Option.map_eq_some_iff.mp h
    cases same
    exact ⟨found.1, rfl, converted⟩

/-- A repetition takes what its rounds take, and there is a round. -/
theorem rounds_of_repeated {inner : Node} (h : (Node.repeated inner).matchTokens tokens = some (result, consumed)) :
    (matchRepeatedly (fun tokens => inner.matchTokens tokens) tokens.length tokens).2 = consumed
    ∧ ∃ first count, inner.matchTokens tokens = some (first, count) ∧ 0 < count ∧ tokens ≠ [] := by
  rw [Node.matchTokens_repeated] at h
  cases tokens with
  | nil => cases h
  | cons token rest =>
    rw [List.length_cons, matchRepeatedly] at h ⊢
    cases matched : inner.matchTokens (token :: rest) with
    | none => rw [matched] at h; cases h
    | some found =>
      obtain ⟨first, count⟩ := found
      rw [matched] at h
      by_cases nothing : count = 0
      · simp [nothing] at h
      · simp only [nothing, if_false, List.isEmpty_cons, Bool.false_eq_true] at h ⊢
        cases h
        exact ⟨rfl, first, count, rfl, by omega, by simp⟩

mutual

/-- **Every match is split up between leaves**: they match one behind the other and take what the node takes. -/
theorem Node.split_of_matchTokens (node : Node) {tokens : List Token} {result : Matched} {consumed : Nat}
    (h : node.matchTokens tokens = some (result, consumed)) : Split tokens (node.shares tokens) consumed := by
  match node with
  | .alt members =>
    rw [Node.matchTokens_alt] at h
    exact split_of_matchFirst members h
  | .seq members =>
    rw [Node.matchTokens_seq] at h
    obtain ⟨⟨parts, count⟩, matched, same⟩ := Option.map_eq_some_iff.mp h
    cases same
    exact split_of_matchAll members matched
  | .optional inner =>
    rw [Node.matchTokens_optional, Option.some.injEq] at h
    rw [Node.shares]
    cases matched : inner.matchTokens tokens with
    | none =>
      rw [matched] at h
      cases h
      exact .nil
    | some found =>
      rw [matched] at h
      cases h
      exact inner.split_of_matchTokens matched
  | .repeated inner =>
    rw [← (rounds_of_repeated h).1, Node.shares]
    exact split_of_matchRepeatedly (fun matched => inner.split_of_matchTokens matched) _ _
  | .primitive recogniser => exact split_of_leaf rfl h
  | .composite kind label convert inner =>
    rw [Node.shares]
    by_cases isLeaf : inner.isPrimitive = true
    · rw [if_pos isLeaf]
      exact split_of_leaf isLeaf h
    · rw [if_neg isLeaf]
      obtain ⟨found, matched, -⟩ := inner_of_composite h
      exact inner.split_of_matchTokens matched

theorem split_of_matchFirst (nodes : List Node) {tokens : List Token} {result : Matched} {consumed : Nat}
    (h : matchFirst nodes tokens = some (result, consumed)) : Split tokens (sharesOfFirst nodes tokens) consumed := by
  match nodes with
  | [] => cases h
  | node :: rest =>
    rw [matchFirst_cons] at h
    rw [sharesOfFirst]
    cases matched : node.matchTokens tokens with
    | none =>
      rw [matched] at h
      exact split_of_matchFirst rest h
    | some found =>
      rw [matched] at h
      cases h
      exact node.split_of_matchTokens matched

theorem split_of_matchAll (nodes : List Node) {tokens : List Token} {results : List Matched} {consumed : Nat}
    (h : matchAll nodes tokens = some (results, consumed)) : Split tokens (sharesOfAll nodes tokens) consumed := by
  match nodes with
  | [] =>
    cases h
    exact .nil
  | node :: rest =>
    rw [matchAll_cons] at h
    rw [sharesOfAll]
    cases matched : node.matchTokens tokens with
    | none => rw [matched] at h; cases h
    | some found =>
      rw [matched] at h
      obtain ⟨⟨others, more⟩, tail, same⟩ := Option.map_eq_some_iff.mp h
      cases same
      exact (node.split_of_matchTokens matched).append (split_of_matchAll rest tail)

end

/-! ## Trees that refuse no combined result -/

/-- Whether the node is a recogniser, maybe within composites: its result is that of single tokens. -/
def Node.overPrimitive : Node → Bool
  | .primitive _ => true
  | .composite _ _ _ inner => inner.overPrimitive
  | _ => false

mutual

/-- Conversions refuse nothing but the results of recognisers. -/
def Node.Keeps : Node → Prop
  | .alt members => allKeep members
  | .seq members => allKeep members
  | .optional inner => inner.Keeps
  | .repeated inner => inner.Keeps
  | .primitive _ => True
  | .composite _ _ convert inner =>
    inner.Keeps ∧ (inner.overPrimitive = true
      ∨ ∀ tokens found consumed, inner.matchTokens tokens = some (found, consumed) → (convert found).isSome = true)

/-- Each of the nodes refuses no combined result. -/
def allKeep : List Node → Prop
  | [] => True
  | node :: rest => node.Keeps ∧ allKeep rest

end

/-- A match of a recogniser takes a token, whatever composites stand around it. -/
theorem Node.consumed_pos (node : Node) (primitive : node.overPrimitive = true) {tokens : List Token} {result : Matched}
    {consumed : Nat} (h : node.matchTokens tokens = some (result, consumed)) : 0 < consumed := by
  match node with
  | .primitive recogniser => exact consumed_pos_of_leaf rfl h
  | .composite _ _ _ inner =>
    obtain ⟨found, matched, -⟩ := inner_of_composite h
    exact inner.consumed_pos primitive matched
  | .alt _ | .seq _ | .optional _ | .repeated _ => cases primitive

/-! ## Passing over at the end of the line -/

section AtEnd

variable {position : Nat} {blanks : String}

/-- At the end of the line nothing is taken. -/
theorem consumed_at_end {node : Node} (h : node.matchTokens [.endOfInput position blanks] = some (result, consumed)) :
    consumed = 0 := by
  by_contra some_token
  have first : [Token.endOfInput position blanks][0]? = some (.endOfInput position blanks) := rfl
  have notEnd := isEnd_of_matchTokens h (Nat.pos_of_ne_zero some_token) first
  cases notEnd

/-- The node can be passed over at the end of the line. -/
def Node.Skips (node : Node) (position : Nat) (blanks : String) : Prop :=
  ∃ result, node.matchTokens [.endOfInput position blanks] = some (result, 0)

theorem Node.Skips.of_isSome {node : Node} (h : (node.matchTokens [.endOfInput position blanks]).isSome = true) :
    node.Skips position blanks := by
  obtain ⟨⟨result, consumed⟩, matched⟩ := Option.isSome_iff_exists.mp h
  obtain rfl := consumed_at_end matched
  exact ⟨result, matched⟩

mutual

/-- **What takes nothing in front of some tokens can be passed over at the end of the line.** -/
theorem Node.skips_at_end (node : Node) (keeps : node.Keeps) {tokens : List Token} {result : Matched}
    (h : node.matchTokens tokens = some (result, 0)) (position : Nat) (blanks : String) :
    node.Skips position blanks := by
  match node with
  | .alt members => exact .of_isSome (first_skips members keeps h position blanks)
  | .seq members =>
    rw [Node.matchTokens_seq] at h
    obtain ⟨⟨parts, count⟩, matched, same⟩ := Option.map_eq_some_iff.mp h
    cases same
    obtain ⟨results, passed⟩ := all_skip members keeps matched position blanks
    exact ⟨.seq results, by rw [Node.matchTokens_seq, passed]; rfl⟩
  | .optional inner => exact .of_isSome rfl
  | .repeated inner =>
    obtain ⟨total, first, count, matched, some_token, some_round⟩ := rounds_of_repeated h
    obtain ⟨token, rest, rfl⟩ := List.exists_cons_of_ne_nil some_round
    rw [List.length_cons, matchRepeatedly, matched] at total
    simp only [Nat.pos_iff_ne_zero.mp some_token, if_false] at total
    omega
  | .primitive recogniser => exact absurd (consumed_pos_of_leaf rfl h) (Nat.lt_irrefl 0)
  | .composite kind label convert inner =>
    obtain ⟨innerKeeps, total⟩ := keeps
    obtain ⟨found, matched, -⟩ := inner_of_composite h
    have total := total.resolve_left fun primitive => Nat.lt_irrefl 0 (inner.consumed_pos primitive matched)
    obtain ⟨passed, atEnd⟩ := inner.skips_at_end innerKeeps matched position blanks
    refine .of_isSome ?_
    rw [Node.matchTokens_composite, atEnd]
    simpa using total _ _ _ atEnd

theorem first_skips (nodes : List Node) (keep : allKeep nodes) {tokens : List Token} {result : Matched}
    (h : matchFirst nodes tokens = some (result, 0)) (position : Nat) (blanks : String) :
    (matchFirst nodes [.endOfInput position blanks]).isSome = true := by
  match nodes with
  | [] => cases h
  | node :: rest =>
    rw [matchFirst_cons] at h ⊢
    -- an alternative in front may match here though it refuses the tokens, which is as good
    cases atEnd : node.matchTokens [.endOfInput position blanks] with
    | some found => rfl
    | none =>
      cases matched : node.matchTokens tokens with
      | none =>
        rw [matched] at h
        exact first_skips rest keep.2 h position blanks
      | some found =>
        rw [matched] at h
        cases h
        obtain ⟨passed, same⟩ := node.skips_at_end keep.1 matched position blanks
        rw [atEnd] at same
        cases same

theorem all_skip (nodes : List Node) (keep : allKeep nodes) {tokens : List Token} {results : List Matched}
    (h : matchAll nodes tokens = some (results, 0)) (position : Nat) (blanks : String) :
    ∃ others, matchAll nodes [.endOfInput position blanks] = some (others, 0) := by
  match nodes with
  | [] => exact ⟨[], rfl⟩
  | node :: rest =>
    rw [matchAll_cons] at h
    cases matched : node.matchTokens tokens with
    | none => rw [matched] at h; cases h
    | some found =>
      rw [matched] at h
      obtain ⟨⟨others, more⟩, tail, same⟩ := Option.map_eq_some_iff.mp h
      obtain ⟨first, consumed⟩ := found
      obtain ⟨-, none⟩ := Prod.mk.inj same
      obtain ⟨rfl, rfl⟩ : consumed = 0 ∧ more = 0 := by omega
      obtain ⟨passed, atEnd⟩ := node.skips_at_end keep.1 matched position blanks
      obtain ⟨later, restAtEnd⟩ := all_skip rest keep.2 tail position blanks
      refine ⟨passed :: later, ?_⟩
      rw [matchAll_cons, atEnd]
      simp only [List.drop_zero, restAtEnd, Option.map_some, Nat.add_zero]

end

/-! ## Walks over the end of the line -/

/-- A walk over the end of the line stops there, or it is the empty one. -/
def StaysAt (position : Nat) (walk : Nat × List Expected) : Prop := walk.1 = position ∨ walk = (0, [])

/-- Of walks over the end of the line nothing is lost. -/
theorem mem_further {best found : Nat × List Expected} (bestStays : StaysAt position best)
    (foundStays : StaysAt position found) :
    StaysAt position (further best found)
    ∧ ∀ leaf, leaf ∈ (further best found).2 ↔ leaf ∈ best.2 ∨ leaf ∈ found.2 := by
  rw [further]
  split
  · next less =>
    -- a walk that is behind another one is the empty one
    have empty : best = (0, []) := bestStays.resolve_left fun here => by
      rcases foundStays with there | rfl
      · omega
      · exact absurd less (Nat.not_lt_zero _)
    exact ⟨foundStays, by simp [empty]⟩
  · next notLess =>
    split
    · next same =>
      refine ⟨?_, fun leaf => mem_addAllNew⟩
      rcases bestStays with here | rfl
      · exact .inl here
      · rcases foundStays with there | rfl
        · exact .inl (same ▸ there)
        · exact .inr rfl
    · next other =>
      have empty : found = (0, []) := foundStays.resolve_left fun there => by
        rcases bestStays with here | rfl
        · exact other (there.trans here.symm)
        · exact notLess (Nat.pos_of_ne_zero other)
      exact ⟨bestStays, by simp [empty]⟩

theorem mem_furthest {nodes : List Node} {best : Nat × List Expected} {tokens : List Token}
    (each : ∀ node ∈ nodes, StaysAt position (node.candidates tokens)) (bestStays : StaysAt position best) :
    StaysAt position (furthestCandidates nodes tokens best)
    ∧ ∀ leaf, leaf ∈ (furthestCandidates nodes tokens best).2
      ↔ leaf ∈ best.2 ∨ ∃ node ∈ nodes, leaf ∈ (node.candidates tokens).2 := by
  induction nodes generalizing best with
  | nil => exact ⟨bestStays, by simp [furthestCandidates]⟩
  | cons node rest ih =>
    obtain ⟨stays, mem⟩ := mem_further bestStays (each node List.mem_cons_self)
    obtain ⟨allStay, all⟩ := ih (fun other listed => each other (List.mem_cons_of_mem _ listed)) stays
    rw [furthestCandidates]
    refine ⟨allStay, fun leaf => ?_⟩
    rw [all, mem, or_assoc]
    simp only [List.mem_cons, or_and_right, exists_or, exists_eq_left]

theorem stays_of_leaf {leaf : Node} (isLeaf : leaf.isLeaf = true) :
    leaf.matchTokens [.endOfInput position blanks] = none
    ∧ leafCandidates leaf [.endOfInput position blanks] = (position, [⟨leaf.kind, leaf.label⟩]) := by
  have refused : leaf.matchTokens [.endOfInput position blanks] = none := by
    rw [Option.eq_none_iff_forall_ne_some]
    rintro ⟨result, consumed⟩ matched
    exact Nat.ne_of_gt (consumed_pos_of_leaf isLeaf matched) (consumed_at_end matched)
  refine ⟨refused, ?_⟩
  rw [leafCandidates, refused]
  rfl

/-- A sequence passes nothing at the end of the line. -/
theorem sequence_at_end (nodes : List Node) (expected : List Expected) :
    (sequenceCandidates nodes [.endOfInput position blanks] expected).1 = 0 := by
  induction nodes generalizing expected with
  | nil => rfl
  | cons node rest ih =>
    rw [sequenceCandidates]
    cases matched : node.matchTokens [.endOfInput position blanks] with
    | none => rfl
    | some found =>
      obtain ⟨result, consumed⟩ := found
      obtain rfl := consumed_at_end matched
      simp only [if_true]
      exact ih _

mutual

/-- Every walk over the end of the line stays there. -/
theorem Node.stays_at_end (node : Node) (position : Nat) (blanks : String) :
    StaysAt position (node.candidates [.endOfInput position blanks]) := by
  match node with
  | .alt members =>
    rw [Node.candidates]
    exact (mem_furthest (all_stay members position blanks) (.inr rfl)).1
  | .seq members =>
    rw [Node.candidates]
    simp only [sequence_at_end]
    exact .inl rfl
  | .optional inner | .repeated inner =>
    rw [Node.candidates]
    exact inner.stays_at_end position blanks
  | .primitive recogniser =>
    rw [Node.candidates, (stays_of_leaf rfl).2]
    exact .inl rfl
  | .composite kind label convert inner =>
    rw [Node.candidates]
    by_cases isLeaf : inner.isPrimitive = true
    · have leaf : (Node.composite kind label convert inner).isLeaf = true := isLeaf
      rw [if_pos isLeaf, (stays_of_leaf leaf).2]
      exact .inl rfl
    · rw [if_neg isLeaf]
      exact inner.stays_at_end position blanks

theorem all_stay (nodes : List Node) (position : Nat) (blanks : String) :
    ∀ node ∈ nodes, StaysAt position (node.candidates [.endOfInput position blanks]) := by
  match nodes with
  | [] => simp
  | node :: rest =>
    intro other mem
    rcases List.mem_cons.mp mem with same | later
    · rw [same]
      exact node.stays_at_end position blanks
    · exact all_stay rest position blanks other later

end

/-- What was expected before a walk over the end of the line is expected behind it. -/
theorem mem_sequence_at_end {leaf : Expected} (nodes : List Node) {expected : List Expected} (mem : leaf ∈ expected) :
    leaf ∈ (sequenceCandidates nodes [.endOfInput position blanks] expected).2 := by
  induction nodes generalizing expected with
  | nil => exact mem
  | cons node rest ih =>
    rw [sequenceCandidates]
    cases matched : node.matchTokens [.endOfInput position blanks] with
    | none => exact mem_addAllNew.mpr (.inl mem)
    | some found =>
      obtain ⟨result, consumed⟩ := found
      obtain rfl := consumed_at_end matched
      simp only [if_true]
      exact ih (mem_addAllNew.mpr (.inl mem))

/-- A sequence expects at the end of the line what its first member expects there. -/
theorem mem_sequence_head {leaf : Expected} {node : Node} (nodes : List Node) (expected : List Expected)
    (mem : leaf ∈ (node.candidates [.endOfInput position blanks]).2) :
    leaf ∈ (sequenceCandidates (node :: nodes) [.endOfInput position blanks] expected).2 := by
  rw [sequenceCandidates]
  cases matched : node.matchTokens [.endOfInput position blanks] with
  | none => exact mem_addAllNew.mpr (.inr mem)
  | some found =>
    obtain ⟨result, consumed⟩ := found
    obtain rfl := consumed_at_end matched
    simp only [if_true]
    exact mem_sequence_at_end nodes (mem_addAllNew.mpr (.inr mem))

/-! ## The first leaf -/

theorem first_leaf_share {leaf : Node} (isLeaf : leaf.isLeaf = true)
    (h : leaf.matchTokens tokens = some (result, consumed)) :
    ∃ share rest, leafShares leaf tokens = share :: rest
      ∧ share.expected ∈ (leafCandidates leaf [.endOfInput position blanks]).2 := by
  rw [leafShares, h, (stays_of_leaf isLeaf).2]
  exact ⟨_, _, rfl, List.mem_singleton_self _⟩

mutual

/-- **The leaf that takes the first token of a match is expected at the end of the line.** -/
theorem Node.first_share (node : Node) (keeps : node.Keeps) {tokens : List Token} {result : Matched} {consumed : Nat}
    (h : node.matchTokens tokens = some (result, consumed)) (some_token : 0 < consumed) (position : Nat)
    (blanks : String) :
    ∃ share rest, node.shares tokens = share :: rest
      ∧ share.expected ∈ (node.candidates [.endOfInput position blanks]).2 := by
  match node with
  | .alt members =>
    rw [Node.matchTokens_alt] at h
    obtain ⟨share, rest, shares, member, listed, mem⟩ := first_share_of_first members keeps h some_token position blanks
    rw [Node.candidates]
    exact ⟨share, rest, shares,
      ((mem_furthest (all_stay members position blanks) (.inr rfl)).2 _).mpr (.inr ⟨member, listed, mem⟩)⟩
  | .seq members =>
    rw [Node.matchTokens_seq] at h
    obtain ⟨⟨parts, count⟩, matched, same⟩ := Option.map_eq_some_iff.mp h
    cases same
    obtain ⟨share, rest, shares, mem⟩ := first_share_of_all members keeps matched some_token position blanks
    rw [Node.candidates]
    exact ⟨share, rest, shares, mem []⟩
  | .optional inner =>
    rw [Node.matchTokens_optional, Option.some.injEq] at h
    cases matched : inner.matchTokens tokens with
    | none =>
      rw [matched] at h
      cases h
      omega
    | some found =>
      rw [matched] at h
      cases h
      rw [Node.shares, Node.candidates, matched]
      exact inner.first_share keeps matched some_token position blanks
  | .repeated inner =>
    obtain ⟨-, first, count, matched, taken, some_round⟩ := rounds_of_repeated h
    obtain ⟨share, rest, shares, mem⟩ := inner.first_share keeps matched taken position blanks
    obtain ⟨token, others, rfl⟩ := List.exists_cons_of_ne_nil some_round
    rw [Node.shares, Node.candidates, List.length_cons, sharesRepeatedly, matched]
    simp only [Nat.pos_iff_ne_zero.mp taken, if_false, shares, List.cons_append]
    exact ⟨share, _, rfl, mem⟩
  | .primitive recogniser => exact first_leaf_share rfl h
  | .composite kind label convert inner =>
    rw [Node.shares, Node.candidates]
    by_cases isLeaf : inner.isPrimitive = true
    · rw [if_pos isLeaf, if_pos isLeaf]
      exact first_leaf_share isLeaf h
    · rw [if_neg isLeaf, if_neg isLeaf]
      obtain ⟨found, matched, -⟩ := inner_of_composite h
      exact inner.first_share keeps.1 matched some_token position blanks

theorem first_share_of_first (nodes : List Node) (keep : allKeep nodes) {tokens : List Token} {result : Matched}
    {consumed : Nat} (h : matchFirst nodes tokens = some (result, consumed)) (some_token : 0 < consumed)
    (position : Nat) (blanks : String) :
    ∃ share rest, sharesOfFirst nodes tokens = share :: rest
      ∧ ∃ node ∈ nodes, share.expected ∈ (node.candidates [.endOfInput position blanks]).2 := by
  match nodes with
  | [] => cases h
  | node :: others =>
    rw [matchFirst_cons] at h
    rw [sharesOfFirst]
    cases matched : node.matchTokens tokens with
    | none =>
      rw [matched] at h
      obtain ⟨share, rest, shares, member, listed, mem⟩ :=
        first_share_of_first others keep.2 h some_token position blanks
      exact ⟨share, rest, shares, member, List.mem_cons_of_mem _ listed, mem⟩
    | some found =>
      rw [matched] at h
      cases h
      obtain ⟨share, rest, shares, mem⟩ := node.first_share keep.1 matched some_token position blanks
      exact ⟨share, rest, shares, node, List.mem_cons_self, mem⟩

theorem first_share_of_all (nodes : List Node) (keep : allKeep nodes) {tokens : List Token} {results : List Matched}
    {consumed : Nat} (h : matchAll nodes tokens = some (results, consumed)) (some_token : 0 < consumed)
    (position : Nat) (blanks : String) :
    ∃ share rest, sharesOfAll nodes tokens = share :: rest
      ∧ ∀ expected, share.expected ∈ (sequenceCandidates nodes [.endOfInput position blanks] expected).2 := by
  match nodes with
  | [] =>
    cases h
    omega
  | node :: others =>
    rw [matchAll_cons] at h
    rw [sharesOfAll]
    cases matched : node.matchTokens tokens with
    | none => rw [matched] at h; cases h
    | some found =>
      obtain ⟨first, count⟩ := found
      rw [matched] at h
      obtain ⟨⟨later, more⟩, tail, same⟩ := Option.map_eq_some_iff.mp h
      cases same
      simp only
      -- a member that takes nothing has no share and is passed over at the end of the line
      rcases Nat.eq_zero_or_pos count with rfl | taken
      · obtain ⟨passed, atEnd⟩ := node.skips_at_end keep.1 matched position blanks
        obtain ⟨share, rest, shares, mem⟩ :=
          first_share_of_all others keep.2 tail (by omega) position blanks
        refine ⟨share, rest, by rw [(node.split_of_matchTokens matched).eq_nil, shares]; rfl, fun expected => ?_⟩
        rw [sequenceCandidates, atEnd]
        simp only [if_true]
        exact mem _
      · obtain ⟨share, rest, shares, mem⟩ := node.first_share keep.1 matched taken position blanks
        exact ⟨share, _, by rw [shares]; rfl, fun expected => mem_sequence_head others expected mem⟩

end

/-- **A sequence whose members took all that is typed expects what its next member expects**, whatever stands behind
this member. -/
theorem mem_sequence_entered {leaf : Expected} {node : Node} (front behind : List Node) {typed : List Token}
    {results : List Matched} (matched : matchAll front (typed ++ [.endOfInput position blanks])
      = some (results, typed.length)) (expected : List Expected)
    (mem : leaf ∈ (node.candidates [.endOfInput position blanks]).2) :
    leaf ∈ (sequenceCandidates (front ++ node :: behind) (typed ++ [.endOfInput position blanks]) expected).2 := by
  induction front generalizing typed results expected with
  | nil =>
    obtain ⟨-, none⟩ := Prod.mk.inj (Option.some.inj matched)
    obtain rfl := List.length_eq_zero_iff.mp none.symm
    exact mem_sequence_head behind expected mem
  | cons first rest ih =>
    rw [matchAll_cons] at matched
    rw [List.cons_append, sequenceCandidates]
    cases taken : first.matchTokens (typed ++ [.endOfInput position blanks]) with
    | none => rw [taken] at matched; cases matched
    | some found =>
      obtain ⟨result, count⟩ := found
      rw [taken] at matched
      obtain ⟨⟨others, more⟩, tail, same⟩ := Option.map_eq_some_iff.mp matched
      obtain ⟨-, total⟩ := Prod.mk.inj same
      have enough : count ≤ typed.length := by omega
      rw [List.drop_append_of_le_length enough] at tail
      have left : more = (typed.drop count).length := by
        rw [List.length_drop]
        omega
      rw [left] at tail
      by_cases nothing : count = 0
      · subst nothing
        simp only [if_true]
        exact ih tail _
      · simp only [nothing, if_false]
        rw [List.drop_append_of_le_length enough]
        exact ih tail []

end AtEnd

/-! ## The grammar of the console -/

section Console

/-- A composite whose conversion accepts everything that its inner node can give refuses nothing. -/
theorem keeps_of_yields {kind : NodeKind} {label : Option String} {convert : Matched → Option Matched} {inner : Node}
    (keeps : inner.Keeps) (total : ∀ found, inner.Yields found → (convert found).isSome = true) :
    (Node.composite kind label convert inner).Keeps :=
  ⟨keeps, .inr fun _ _ _ matched => total _ (inner.yields_of_matchTokens matched)⟩

theorem Node.Keeps.optional {inner : Node} (h : inner.Keeps) : (Node.optional inner).Keeps := h

theorem Node.Keeps.repeated {inner : Node} (h : inner.Keeps) : (Node.repeated inner).Keeps := h

theorem keeps_leaf {kind : NodeKind} {recogniser : Primitive} {convert : Matched → Option Matched} :
    (leaf kind recogniser convert).Keeps := ⟨trivial, .inl rfl⟩

theorem keeps_word {kind : NodeKind} {label : String} : (wordNode kind label).Keeps := ⟨trivial, .inl rfl⟩

theorem keeps_eoj : eojNode.Keeps :=
  keeps_of_yields ⟨keeps_leaf, keeps_leaf.optional, trivial⟩ (explains_eoj.resolve_left Bool.false_ne_true).1

theorem keeps_device : deviceNode.Keeps :=
  keeps_of_yields ⟨⟨keeps_leaf, keeps_eoj.optional, trivial⟩, keeps_eoj, keeps_leaf, keeps_leaf, trivial⟩
    (explains_device.resolve_left Bool.false_ne_true).1

theorem keeps_property : propertyNode.Keeps :=
  keeps_of_yields ⟨⟨keeps_leaf, ⟨keeps_leaf, keeps_leaf, trivial⟩, trivial⟩, keeps_leaf, trivial⟩
    (explains_property.resolve_left Bool.false_ne_true).1

theorem keeps_groupBy : groupByNode.Keeps := by
  refine keeps_of_yields ⟨keeps_word, keeps_leaf, trivial⟩ ?_
  rintro _ ⟨_, rfl, _, _, rfl, -, code, _, rfl, codeYields, rfl⟩
  obtain ⟨code, rfl⟩ := epc_of_yields codeYields
  rfl

theorem keeps_members {action : String} : (membersNode action).Keeps :=
  ⟨keeps_word, keeps_leaf, keeps_device.repeated, trivial⟩

/-- **The grammar of the console refuses no combined result.** -/
theorem keeps_commandGrammar : commandGrammar.Keeps := by
  have discover : discoverCommand.Keeps := ⟨keeps_word, trivial⟩
  have devices : devicesCommand.Keeps :=
    ⟨⟨keeps_word, keeps_word, trivial⟩, keeps_device.optional,
      .optional (.repeated ⟨keeps_word, keeps_word, keeps_groupBy, keeps_property, keeps_leaf, trivial⟩), trivial⟩
  have get : getCommand.Keeps := ⟨keeps_word, keeps_device, .repeated ⟨keeps_leaf, keeps_word, trivial⟩, trivial⟩
  have set : setCommand.Keeps := ⟨keeps_word, keeps_device, keeps_property.repeated, trivial⟩
  have update : updateCommand.Keeps :=
    ⟨keeps_word, keeps_device.optional, .optional (.repeated ⟨keeps_word, keeps_word, keeps_word, trivial⟩), trivial⟩
  have bound : (Node.seq [deviceNode, .optional (.repeated propertyNode)]).Keeps :=
    ⟨keeps_device, keeps_property.repeated.optional, trivial⟩
  have aliases : aliasCommand.Keeps :=
    ⟨keeps_word, .optional ⟨⟨keeps_word, keeps_leaf, trivial⟩, ⟨keeps_leaf, bound.optional, trivial⟩, trivial⟩, trivial⟩
  have group : groupCommand.Keeps :=
    ⟨keeps_word, ⟨keeps_members, keeps_members, ⟨keeps_word, keeps_leaf, trivial⟩,
      ⟨keeps_word, keeps_leaf.optional, trivial⟩, trivial⟩, trivial⟩
  have debug : debugCommand.Keeps := ⟨keeps_word, .optional ⟨keeps_word, keeps_word, trivial⟩, trivial⟩
  have help : helpCommand.Keeps := ⟨keeps_word, keeps_leaf.optional, trivial⟩
  have quit : quitCommand.Keeps := ⟨keeps_word, trivial⟩
  exact ⟨discover, devices, get, set, update, aliases, group, debug, help, quit, trivial⟩

end Console

/-! ## Suggestions are complete -/

/-- **Suggestions are complete where a node is entered afresh.** Whatever a node takes first of any tokens, in a tree
that refuses no combined result, is expected where there is nothing but the end of the line, and also behind the
members in front of the node in a sequence, if they took all that is typed. The grammar of the console is such a
tree. -/
theorem first_leaf_expected :
    commandGrammar.Keeps
    ∧ ∀ node : Node, node.Keeps → ∀ tokens result consumed,
      node.matchTokens tokens = some (result, consumed) → 0 < consumed →
      ∃ share rest, node.shares tokens = share :: rest ∧ Split tokens (share :: rest) consumed
        ∧ ∀ position blanks,
          share.expected ∈ (node.candidates [.endOfInput position blanks]).2
          ∧ ∀ front behind typed results,
            matchAll front (typed ++ [.endOfInput position blanks]) = some (results, typed.length) →
            share.expected
              ∈ ((Node.seq (front ++ node :: behind)).candidates (typed ++ [.endOfInput position blanks])).2 := by
  refine ⟨keeps_commandGrammar, fun node keeps tokens result consumed matched some_token => ?_⟩
  have split := node.split_of_matchTokens matched
  obtain ⟨share, rest, shares⟩ := split.exists_cons some_token
  rw [shares] at split
  refine ⟨share, rest, shares, split, fun position blanks => ?_⟩
  have expected : share.expected ∈ (node.candidates [.endOfInput position blanks]).2 := by
    obtain ⟨first, others, same, mem⟩ := node.first_share keeps matched some_token position blanks
    rw [shares] at same
    obtain ⟨rfl, -⟩ := List.cons.inj same
    exact mem
  refine ⟨expected, fun front behind typed results all => ?_⟩
  rw [Node.candidates]
  exact mem_sequence_entered front behind all [] expected

/-- An empty line suggests `update`, which starts a line, and behind `update` a group is suggested. -/
theorem first_leaf_expected_update :
    (∃ share rest, commandGrammar.shares (tokenize "update @lamps -force") = share :: rest
      ∧ share.expected = ⟨.command, some "update"⟩
      ∧ share.expected ∈ (commandGrammar.candidates (tokenize "")).2)
    ∧ ⟨.groupName, none⟩ ∈ (updateCommand.candidates (tokenize "update ")).2 := by
  obtain ⟨keeps, complete⟩ := first_leaf_expected
  constructor
  · obtain ⟨share, rest, shares, -, expected⟩ :=
      complete commandGrammar keeps (tokenize "update @lamps -force") _ 3 rfl (by decide)
    refine ⟨share, rest, shares, ?_, (expected 0 "").1⟩
    obtain ⟨rfl, -⟩ := List.cons.inj shares
    rfl
  · have device : (Node.optional deviceNode).Keeps := keeps_device
    obtain ⟨share, rest, shares, -, expected⟩ :=
      complete (.optional deviceNode) device (tokenize "@lamps") _ 1 rfl (by decide)
    obtain ⟨rfl, -⟩ := List.cons.inj shares
    exact (expected 7 " ").2 [commandWord "update"] [.optional (.repeated (.alt [wordNode .updateOption "-force",
      wordNode .updateOption "-f", wordNode .updateOption "--force"]))] [.word 0 "update"] _ rfl

end DeviceConsole.Grammar
