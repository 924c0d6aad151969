import DeviceConsole.Proofs.Grammar.Openings
import DeviceConsole.Proofs.Grammar.Origins

/-!
# `Proofs.Grammar.Runs` — matching comes to an end, inside the line

A sequence and a repetition go along one list of tokens with a place in it. They ask each member about the slice of
the list from that place on, and a repetition does so again and again, with no bound on the rounds but that each has
to take a token. `Node.Runs` says what matching does in these terms: a run exists only if every slice starts inside
the list and every repetition ends after finitely many rounds. `Node.Walks` says the same of the walk of candidates.

Every node has exactly one run over every list, whether the list is that of a line or not. Three facts about a match
carry this: it takes no more tokens than there are, a round of a repetition takes one at least, and no token is taken
that marks the end of a line. The last one also shows that nothing behind such a token is ever looked at.

* `Slice`, `Rounds` — a part of the list, and the rounds of a repetition;
* `Node.Runs`, `Node.runs_iff` — the runs of matching, and that they are what `Node.matchTokens` gives;
* `Node.Walks`, `Node.walks_iff` — the same for `Node.candidates`;
* `beforeEnd`, `Node.matchTokens_beforeEnd` — the tokens in front of the first end of a line decide;
* `matching_is_bounded` — all of it.
-/

namespace DeviceConsole.Grammar

/-! ## Slices and rounds -/

/-- The tokens from a place on. The place may be that behind the last token, and none further. -/
structure Slice (tokens : List Token) (start : Nat) (slice : List Token) : Prop where
  inside : start ≤ tokens.length
  eq : slice = tokens.drop start

theorem slice_iff {tokens slice : List Token} {start : Nat} (inside : start ≤ tokens.length) :
    Slice tokens start slice ↔ slice = tokens.drop start :=
  ⟨fun here => here.eq, fun same => ⟨inside, same⟩⟩

/-- The rounds of a repetition along a list of tokens, from a place to a place, each with the number of tokens that
it takes. The repetition ends where the inner step refuses or takes nothing. -/
inductive Rounds (step : List Token → Option (Matched × Nat) → Prop) (tokens : List Token) :
    Nat → List (Matched × Nat) → Nat → Prop
  | refused {start : Nat} {slice : List Token} :
      Slice tokens start slice → step slice none → Rounds step tokens start [] start
  | idle {start : Nat} {slice : List Token} {result : Matched} :
      Slice tokens start slice → step slice (some (result, 0)) → Rounds step tokens start [] start
  | round {start stop consumed : Nat} {slice : List Token} {result : Matched} {rounds : List (Matched × Nat)} :
      Slice tokens start slice → step slice (some (result, consumed)) → 0 < consumed →
      Rounds step tokens (start + consumed) rounds stop →
      Rounds step tokens start ((result, consumed) :: rounds) stop

section Rounds

variable {step : List Token → Option (Matched × Nat)} {tokens : List Token} {start stop : Nat}
  {rounds : List (Matched × Nat)}

/-- Each round takes a token at least, so there are no more rounds than tokens that they take. -/
theorem Rounds.counts {step : List Token → Option (Matched × Nat) → Prop}
    (h : Rounds step tokens start rounds stop) :
    start + rounds.length ≤ stop ∧ ∀ round ∈ rounds, 1 ≤ round.2 := by
  induction h with
  | refused _ _ => exact ⟨Nat.le_refl _, by simp⟩
  | idle _ _ => exact ⟨Nat.le_refl _, by simp⟩
  | @round start stop consumed slice result rounds _ _ some_token _ ih =>
    obtain ⟨reached, each⟩ := ih
    refine ⟨?_, List.forall_mem_cons.mpr ⟨some_token, each⟩⟩
    rw [List.length_cons]
    omega

/-- A step that gives one answer leaves the repetition no choice. -/
theorem Rounds.unique {others : List (Matched × Nat)} {last : Nat}
    (h : Rounds (fun slice found => found = step slice) tokens start rounds stop)
    (h' : Rounds (fun slice found => found = step slice) tokens start others last) :
    rounds = others ∧ stop = last := by
  induction h generalizing others last with
  | refused here refuses =>
    cases h' with
    | refused _ _ => exact ⟨rfl, rfl⟩
    | idle _ _ => exact ⟨rfl, rfl⟩
    | round there takes _ _ => rw [there.eq, ← here.eq, ← refuses] at takes; cases takes
  | idle here idles =>
    cases h' with
    | refused _ _ => exact ⟨rfl, rfl⟩
    | idle _ _ => exact ⟨rfl, rfl⟩
    | round there takes some_token _ =>
      rw [there.eq, ← here.eq, ← idles] at takes
      cases takes
      exact absurd some_token (Nat.lt_irrefl 0)
  | round here takes some_token _ ih =>
    cases h' with
    | refused there refuses => rw [there.eq, ← here.eq, ← takes] at refuses; cases refuses
    | idle there idles =>
      rw [there.eq, ← here.eq, ← takes] at idles
      cases idles
      exact absurd some_token (Nat.lt_irrefl 0)
    | round there again _ later =>
      rw [there.eq, ← here.eq, ← takes] at again
      cases again
      obtain ⟨rfl, rfl⟩ := ih later
      exact ⟨rfl, rfl⟩

/-- **A repetition ends**: if no step takes more tokens than there are, the rounds that are counted by the length of
the list are all the rounds there are. -/
theorem exists_rounds (fits : ∀ {slice result consumed}, step slice = some (result, consumed) →
      consumed ≤ slice.length) (bound : Nat) (inside : start ≤ tokens.length)
    (enough : tokens.length ≤ start + bound) :
    ∃ rounds, Rounds (fun slice found => found = step slice) tokens start rounds
        (start + (matchRepeatedly step bound (tokens.drop start)).2)
      ∧ (matchRepeatedly step bound (tokens.drop start)).1 = rounds.map Prod.fst := by
  have here : Slice tokens start (tokens.drop start) := ⟨inside, rfl⟩
  induction bound generalizing start with
  | zero =>
    refine ⟨[], ?_, rfl⟩
    -- at the end of the list a match can take nothing
    cases matched : step (tokens.drop start) with
    | none => exact .refused here matched.symm
    | some found =>
      obtain ⟨result, consumed⟩ := found
      have nothing := fits matched
      rw [List.length_drop] at nothing
      obtain rfl : consumed = 0 := by omega
      exact .idle here matched.symm
  | succ bound ih =>
    rw [matchRepeatedly]
    cases matched : step (tokens.drop start) with
    | none => exact ⟨[], .refused here matched.symm, rfl⟩
    | some found =>
      obtain ⟨result, consumed⟩ := found
      by_cases nothing : consumed = 0
      · subst nothing
        exact ⟨[], .idle here matched.symm, rfl⟩
      · have taken := fits matched
        rw [List.length_drop] at taken
        obtain ⟨rounds, later, results⟩ :=
          @ih (start + consumed) (by omega) (by omega) ⟨by omega, rfl⟩
        simp only [nothing, if_false]
        rw [List.drop_drop, ← Nat.add_assoc]
        refine ⟨(result, consumed) :: rounds, .round here matched.symm (by omega) later, ?_⟩
        rw [List.map_cons, results]

end Rounds

/-! ## Runs of matching -/

mutual

/-- What matching of a node over tokens comes to: nothing, or a result and the number of tokens that it takes. -/
def Node.Runs : Node → List Token → Option (Matched × Nat) → Prop
  | .alt members, tokens, found => firstRuns members tokens found
  | .seq members, tokens, found =>
    ∃ own, allRun members tokens 0 own ∧ found = own.map fun (results, stop) => (.seq results, stop)
  | .optional inner, tokens, found => ∃ own, inner.Runs tokens own ∧ found = some (own.getD (.skipped, 0))
  | .repeated inner, tokens, found =>
    ∃ rounds stop, Rounds (fun slice own => inner.Runs slice own) tokens 0 rounds stop
      ∧ found = if rounds.isEmpty then none else some (.repeated (rounds.map Prod.fst), stop)
  | .primitive recogniser, tokens, found => found = recogniser.matchTokens tokens
  | .composite _ _ convert inner, tokens, found =>
    ∃ own, inner.Runs tokens own
      ∧ found = own.bind fun (result, consumed) => (convert result).map (·, consumed)

/-- The nodes are tried in order, until one matches. -/
def firstRuns : List Node → List Token → Option (Matched × Nat) → Prop
  | [], _, found => found = none
  | node :: rest, tokens, found =>
    ∃ own, node.Runs tokens own ∧ (own = none ∧ firstRuns rest tokens found ∨ own ≠ none ∧ found = own)

/-- The nodes go along the tokens from a place on, until one refuses: nothing, or the results and the place where
they stop. -/
def allRun : List Node → List Token → Nat → Option (List Matched × Nat) → Prop
  | [], _, start, found => found = some ([], start)
  | node :: rest, tokens, start, found =>
    ∃ slice own, Slice tokens start slice ∧ node.Runs slice own
      ∧ (own = none ∧ found = none
        ∨ ∃ result consumed others, own = some (result, consumed) ∧ allRun rest tokens (start + consumed) others
          ∧ found = others.map fun (results, stop) => (result :: results, stop))

end

section Runs

variable {tokens : List Token}

/-- No match takes more tokens than there are. -/
theorem consumed_le_length {node : Node} {result : Matched} {consumed : Nat}
    (h : node.matchTokens tokens = some (result, consumed)) : consumed ≤ tokens.length :=
  (node.took_of_matchTokens h).1

/-- A repetition of matches that run as they are computed asks its computed matches. -/
theorem rounds_congr {inner : Node} (runs : ∀ slice found, inner.Runs slice found ↔ found = inner.matchTokens slice) :
    Rounds (fun slice found => inner.Runs slice found) tokens
      = Rounds (fun slice found => found = inner.matchTokens slice) tokens := by
  simp only [runs]

/-- So it runs as it is computed. -/
theorem rounds_iff {inner : Node} (runs : ∀ slice found, inner.Runs slice found ↔ found = inner.matchTokens slice)
    {found : Option (Matched × Nat)} :
    (Node.repeated inner).Runs tokens found ↔ found = (Node.repeated inner).matchTokens tokens := by
  obtain ⟨rounds, all, results⟩ :=
    @exists_rounds inner.matchTokens tokens 0 consumed_le_length tokens.length (Nat.zero_le _) (by omega)
  rw [List.drop_zero] at all results
  rw [Node.Runs, rounds_congr runs, Node.matchTokens_repeated]
  simp only [results, List.isEmpty_map]
  rw [Nat.zero_add] at all
  constructor
  · rintro ⟨own, stop, others, rfl⟩
    obtain ⟨rfl, rfl⟩ := all.unique others
    rfl
  · rintro rfl
    exact ⟨rounds, _, all, rfl⟩

mutual

/-- **Every node has one run over every list**, and it comes to what is computed. -/
theorem Node.runs_iff (node : Node) (tokens : List Token) (found : Option (Matched × Nat)) :
    node.Runs tokens found ↔ found = node.matchTokens tokens := by
  match node with
  | .alt members => exact firstRuns_iff members tokens found
  | .seq members =>
    rw [Node.Runs, Node.matchTokens_seq]
    simp only [allRun_iff members (Nat.zero_le tokens.length), exists_eq_left, List.drop_zero, Nat.zero_add,
      Option.map_map]
    rfl
  | .optional inner =>
    rw [Node.Runs, Node.matchTokens_optional]
    simp only [inner.runs_iff, exists_eq_left]
  | .repeated inner => exact rounds_iff fun slice own => inner.runs_iff slice own
  | .primitive recogniser => exact Iff.rfl
  | .composite kind label convert inner =>
    rw [Node.Runs, Node.matchTokens_composite]
    simp only [inner.runs_iff, exists_eq_left]
    cases inner.matchTokens tokens <;> rfl

theorem firstRuns_iff (nodes : List Node) (tokens : List Token) (found : Option (Matched × Nat)) :
    firstRuns nodes tokens found ↔ found = matchFirst nodes tokens := by
  match nodes with
  | [] => exact Iff.rfl
  | node :: rest =>
    rw [firstRuns, matchFirst_cons]
    simp only [node.runs_iff, exists_eq_left, firstRuns_iff rest]
    cases node.matchTokens tokens <;> simp

theorem allRun_iff (nodes : List Node) {tokens : List Token} {start : Nat} (inside : start ≤ tokens.length)
    {found : Option (List Matched × Nat)} :
    allRun nodes tokens start found
      ↔ found = (matchAll nodes (tokens.drop start)).map fun (results, count) => (results, start + count) := by
  match nodes with
  | [] => exact Iff.rfl
  | node :: rest =>
    rw [allRun, matchAll_cons]
    simp only [slice_iff inside, node.runs_iff, exists_and_left, exists_eq_left]
    cases matched : node.matchTokens (tokens.drop start) with
    | none => simp
    | some own =>
      obtain ⟨result, consumed⟩ := own
      have taken := consumed_le_length matched
      rw [List.length_drop] at taken
      have later : start + consumed ≤ tokens.length := by omega
      simp [allRun_iff rest later, Option.map_map, Function.comp_def, Nat.add_assoc]

end

end Runs

/-! ## Runs of the walk of candidates -/

/-- A leaf that is reached matches, and the walk stops behind it, or it refuses and expects itself. -/
def leafWalks (leaf : Node) (tokens : List Token) (reached : Nat × List Expected) : Prop :=
  (∃ result consumed, leaf.Runs tokens (some (result, consumed)) ∧ reached = (columnAt tokens consumed, []))
  ∨ leaf.Runs tokens none ∧ reached = (columnAt tokens 0, [leaf.expectation])

mutual

/-- What the walk of candidates of a node over tokens comes to: a column, and what is expected there. -/
def Node.Walks : Node → List Token → Nat × List Expected → Prop
  | .alt members, tokens, reached => furthestWalks members tokens (0, []) reached
  | .seq members, tokens, reached =>
    ∃ index expected, sequenceWalks members tokens 0 [] (index, expected)
      ∧ reached = (columnAt tokens index, expected)
  | .optional inner, tokens, reached => inner.Walks tokens reached
  | .repeated inner, tokens, reached => inner.Walks tokens reached
  | .primitive recogniser, tokens, reached => leafWalks (.primitive recogniser) tokens reached
  | .composite kind label convert inner, tokens, reached =>
    inner.isPrimitive = true ∧ leafWalks (.composite kind label convert inner) tokens reached
    ∨ inner.isPrimitive = false ∧ inner.Walks tokens reached

/-- All the nodes are walked, and the furthest walk counts. -/
def furthestWalks : List Node → List Token → Nat × List Expected → Nat × List Expected → Prop
  | [], _, best, reached => reached = best
  | node :: rest, tokens, best, reached =>
    ∃ walk, node.Walks tokens walk ∧ furthestWalks rest tokens (further best walk) reached

/-- The nodes are matched along the tokens from a place on, until one refuses; a node that refuses or takes nothing is
walked as well. -/
def sequenceWalks : List Node → List Token → Nat → List Expected → Nat × List Expected → Prop
  | [], _, start, expected, reached => reached = (start, expected)
  | node :: rest, tokens, start, expected, reached =>
    ∃ slice found, Slice tokens start slice ∧ node.Runs slice found
      ∧ ((∃ walk, found = none ∧ node.Walks slice walk ∧ reached = (start, addAllNew expected walk.2))
        ∨ (∃ result walk, found = some (result, 0) ∧ node.Walks slice walk
          ∧ sequenceWalks rest tokens start (addAllNew expected walk.2) reached)
        ∨ ∃ result consumed, found = some (result, consumed) ∧ 0 < consumed
          ∧ sequenceWalks rest tokens (start + consumed) [] reached)

end

theorem leafWalks_iff {leaf : Node} {tokens : List Token} {reached : Nat × List Expected} :
    leafWalks leaf tokens reached ↔ reached = leafCandidates leaf tokens := by
  rw [leafWalks, leafCandidates]
  simp only [Node.runs_iff]
  cases leaf.matchTokens tokens with
  | none => simp [Node.expectation]
  | some found => obtain ⟨result, consumed⟩ := found; simp

mutual

/-- **Every node has one walk over every list**, and it comes to what is computed. -/
theorem Node.walks_iff (node : Node) (tokens : List Token) (reached : Nat × List Expected) :
    node.Walks tokens reached ↔ reached = node.candidates tokens := by
  match node with
  | .alt members => exact furthestWalks_iff members tokens (0, []) reached
  | .seq members =>
    rw [Node.Walks, Node.candidates]
    simp only [sequenceWalks_iff members (Nat.zero_le tokens.length), List.drop_zero, Nat.zero_add]
    exact ⟨fun ⟨_, _, same, atColumn⟩ => by cases same; exact atColumn, fun atColumn => ⟨_, _, rfl, atColumn⟩⟩
  | .optional inner => exact inner.walks_iff tokens reached
  | .repeated inner => exact inner.walks_iff tokens reached
  | .primitive recogniser => exact leafWalks_iff
  | .composite kind label convert inner =>
    rw [Node.Walks, Node.candidates, leafWalks_iff, inner.walks_iff]
    cases inner.isPrimitive <;> simp

theorem furthestWalks_iff (nodes : List Node) (tokens : List Token) (best reached : Nat × List Expected) :
    furthestWalks nodes tokens best reached ↔ reached = furthestCandidates nodes tokens best := by
  match nodes with
  | [] => exact Iff.rfl
  | node :: rest =>
    rw [furthestWalks, furthestCandidates]
    simp only [node.walks_iff, exists_eq_left, furthestWalks_iff rest]

theorem sequenceWalks_iff (nodes : List Node) {tokens : List Token} {start : Nat} (inside : start ≤ tokens.length)
    {expected : List Expected} {reached : Nat × List Expected} :
    sequenceWalks nodes tokens start expected reached
      ↔ reached = (start + (sequenceCandidates nodes (tokens.drop start) expected).1,
          (sequenceCandidates nodes (tokens.drop start) expected).2) := by
  match nodes with
  | [] => exact Iff.rfl
  | node :: rest =>
    rw [sequenceWalks, sequenceCandidates]
    simp only [slice_iff inside, node.runs_iff, node.walks_iff, exists_and_left, exists_eq_left]
    cases matched : node.matchTokens (tokens.drop start) with
    | none => simp
    | some own =>
      obtain ⟨result, consumed⟩ := own
      have taken := consumed_le_length matched
      rw [List.length_drop] at taken
      have later : start + consumed ≤ tokens.length := by omega
      by_cases nothing : consumed = 0
      · subst nothing
        simp [sequenceWalks_iff rest inside]
      · simp [nothing, Nat.pos_of_ne_zero nothing, sequenceWalks_iff rest later, Nat.add_assoc]

end

/-! ## The end of the line -/

/-- The tokens in front of the first one that marks the end of a line. -/
def beforeEnd (tokens : List Token) : List Token := tokens.takeWhile fun token => !token.isEnd

section BeforeEnd

variable {tokens : List Token}

/-- A match takes no token that marks the end of a line. -/
theorem isEnd_of_taken {node : Node} {result : Matched} {consumed : Nat}
    (h : node.matchTokens tokens = some (result, consumed)) {token : Token} (taken : token ∈ tokens.take consumed) :
    token.isEnd = false := by
  obtain ⟨index, less, stands⟩ := List.mem_take_iff_getElem.mp taken
  exact isEnd_of_matchTokens h (by omega) (stands ▸ List.getElem?_eq_getElem _)

/-- So it takes nothing but tokens in front of the first one. -/
theorem consumed_le_beforeEnd {node : Node} {result : Matched} {consumed : Nat}
    (h : node.matchTokens tokens = some (result, consumed)) : consumed ≤ (beforeEnd tokens).length := by
  have noEnd : ∀ token ∈ tokens.take consumed, (!token.isEnd) = true := fun token taken =>
    (Bool.not_eq_true' _).mpr (isEnd_of_taken h taken)
  have front := @List.takeWhile_append_of_pos _ _ _ (tokens.drop consumed) noEnd
  rw [List.take_append_drop] at front
  have taken := consumed_le_length h
  rw [beforeEnd, front, List.length_append, List.length_take]
  omega

theorem drop_beforeEnd {count : Nat} (inside : count ≤ (beforeEnd tokens).length) :
    (beforeEnd tokens).drop count = beforeEnd (tokens.drop count) := by
  induction tokens generalizing count with
  | nil => simp [beforeEnd]
  | cons token rest ih =>
    cases count with
    | zero => rfl
    | succ count =>
      cases isEnd : token.isEnd with
      | true => simp [beforeEnd, isEnd] at inside
      | false =>
        have shape : beforeEnd (token :: rest) = token :: beforeEnd rest := by simp [beforeEnd, isEnd]
        rw [shape, List.length_cons] at inside
        rw [shape, List.drop_succ_cons, List.drop_succ_cons]
        exact ih (Nat.le_of_succ_le_succ inside)

theorem Primitive.matchTokens_beforeEnd (recogniser : Primitive) (tokens : List Token) :
    recogniser.matchTokens (beforeEnd tokens) = recogniser.matchTokens tokens := by
  rcases recogniser with _ | _ | _ <;>
    rcases tokens with _ | ⟨_ | _ | _, _ | ⟨_ | _ | _, rest⟩⟩ <;> rfl

/-- Rounds that do not look behind the end of a line are the same without what is there. -/
theorem Rounds.beforeEnd {step : List Token → Option (Matched × Nat)}
    (sees : ∀ slice, step (Grammar.beforeEnd slice) = step slice)
    (stays : ∀ {slice result consumed}, step slice = some (result, consumed) →
      consumed ≤ (Grammar.beforeEnd slice).length) {start stop : Nat} {rounds : List (Matched × Nat)}
    (h : Rounds (fun slice found => found = step slice) tokens start rounds stop)
    (inside : start ≤ (Grammar.beforeEnd tokens).length) :
    Rounds (fun slice found => found = step slice) (Grammar.beforeEnd tokens) start rounds stop := by
  have here : ∀ {slice}, Slice tokens start slice →
      Slice (Grammar.beforeEnd tokens) start (Grammar.beforeEnd slice) := by
    rintro slice ⟨-, rfl⟩
    exact ⟨inside, (drop_beforeEnd inside).symm⟩
  induction h with
  | refused slice refuses => exact .refused (here slice) (by rw [sees]; exact refuses)
  | idle slice idles => exact .idle (here slice) (by rw [sees]; exact idles)
  | @round start stop consumed slice result rounds at_ takes some_token _ ih =>
    have taken := stays takes.symm
    have place := here at_
    rw [place.eq, List.length_drop] at taken
    have later : start + consumed ≤ (Grammar.beforeEnd tokens).length := by omega
    refine .round place (by rw [sees]; exact takes) some_token (ih later ?_)
    rintro slice ⟨-, rfl⟩
    exact ⟨later, (drop_beforeEnd later).symm⟩

mutual

/-- **Nothing behind the first end of a line is looked at.** -/
theorem Node.matchTokens_beforeEnd (node : Node) (tokens : List Token) :
    node.matchTokens (beforeEnd tokens) = node.matchTokens tokens := by
  match node with
  | .alt members => exact matchFirst_beforeEnd members tokens
  | .seq members => rw [Node.matchTokens_seq, Node.matchTokens_seq, matchAll_beforeEnd members tokens]
  | .optional inner => rw [Node.matchTokens_optional, Node.matchTokens_optional, inner.matchTokens_beforeEnd]
  | .repeated inner =>
    obtain ⟨rounds, stop, all, found⟩ := ((Node.repeated inner).runs_iff tokens _).mpr rfl
    refine (((Node.repeated inner).runs_iff (beforeEnd tokens) _).mp ⟨rounds, stop, ?_, found⟩).symm
    rw [rounds_congr inner.runs_iff] at all ⊢
    exact all.beforeEnd inner.matchTokens_beforeEnd consumed_le_beforeEnd (Nat.zero_le _)
  | .primitive recogniser => exact recogniser.matchTokens_beforeEnd tokens
  | .composite kind label convert inner =>
    rw [Node.matchTokens_composite, Node.matchTokens_composite, inner.matchTokens_beforeEnd]

theorem matchFirst_beforeEnd (nodes : List Node) (tokens : List Token) :
    matchFirst nodes (beforeEnd tokens) = matchFirst nodes tokens := by
  match nodes with
  | [] => rfl
  | node :: rest => rw [matchFirst_cons, matchFirst_cons, node.matchTokens_beforeEnd, matchFirst_beforeEnd rest]

theorem matchAll_beforeEnd (nodes : List Node) (tokens : List Token) :
    matchAll nodes (beforeEnd tokens) = matchAll nodes tokens := by
  match nodes with
  | [] => rfl
  | node :: rest =>
    rw [matchAll_cons, matchAll_cons, node.matchTokens_beforeEnd]
    cases matched : node.matchTokens tokens with
    | none => rfl
    | some found =>
      have behind := matchAll_beforeEnd rest (tokens.drop found.2)
      rw [← drop_beforeEnd (consumed_le_beforeEnd matched)] at behind
      simp only [behind]

end

end BeforeEnd

/-! ## Bounds -/

/-- A repetition that matches has rounds, and no more of them than tokens that it takes. -/
theorem rounds_of_match {inner : Node} {tokens : List Token} {result : Matched} {consumed : Nat}
    (h : (Node.repeated inner).matchTokens tokens = some (result, consumed)) :
    ∃ rounds, Rounds (fun slice found => found = inner.matchTokens slice) tokens 0 rounds consumed
      ∧ result = .repeated (rounds.map Prod.fst) ∧ (∀ round ∈ rounds, 1 ≤ round.2)
      ∧ 1 ≤ rounds.length ∧ rounds.length ≤ consumed := by
  obtain ⟨rounds, stop, all, found⟩ := ((Node.repeated inner).runs_iff tokens _).mpr h.symm
  rw [rounds_congr inner.runs_iff] at all
  by_cases none : rounds.isEmpty = true
  · rw [if_pos none] at found
    cases found
  · rw [if_neg none] at found
    cases found
    have some_round : rounds ≠ [] := fun empty => none (List.isEmpty_iff.mpr empty)
    obtain ⟨fewer, each⟩ := all.counts
    exact ⟨rounds, all, rfl, each, List.length_pos_iff.mpr some_round, by omega⟩

/-- **Matching is bounded and stays inside the line.** For every tree and every list of tokens, whether it is that of a
line or not: matching and the walk of candidates have exactly one run each, in which every repetition ends and every
slice starts inside the list, and it comes to what they compute. A match takes no more tokens than there are, and none
that marks the end of a line. A repetition that matches has one round at least, each round takes a token at least, and
so there are no more rounds than tokens taken. And lists with the same marks in front of the first end of a line, or
without any, are matched alike. -/
theorem matching_is_bounded (node : Node) (tokens : List Token) :
    (∀ found, node.Runs tokens found ↔ found = node.matchTokens tokens)
    ∧ (∀ reached, node.Walks tokens reached ↔ reached = node.candidates tokens)
    ∧ (∀ result consumed, node.matchTokens tokens = some (result, consumed) →
      consumed ≤ tokens.length ∧ (∀ token ∈ tokens.take consumed, token.isEnd = false)
      ∧ ∀ inner, node = .repeated inner →
        ∃ rounds, Rounds (fun slice found => found = inner.matchTokens slice) tokens 0 rounds consumed
          ∧ result = .repeated (rounds.map Prod.fst) ∧ (∀ round ∈ rounds, 1 ≤ round.2)
          ∧ 1 ≤ rounds.length ∧ rounds.length ≤ consumed)
    ∧ ∀ other, marks (beforeEnd other) = marks (beforeEnd tokens) →
      node.matchTokens other = node.matchTokens tokens := by
  refine ⟨node.runs_iff tokens, node.walks_iff tokens, ?_, ?_⟩
  · intro result consumed matched
    refine ⟨consumed_le_length matched, fun token taken => isEnd_of_taken matched taken, ?_⟩
    rintro inner rfl
    exact rounds_of_match matched
  · intro other same
    rw [← node.matchTokens_beforeEnd other, node.matchTokens_congr same, node.matchTokens_beforeEnd]

/-- A repetition stops in front of an end of the line in the middle of the list; what is behind it does not count. -/
example : (Node.repeated (.primitive .word)).matchTokens [.word 0 "a", .endOfInput 1 "", .word 2 "b"]
    = some (.repeated [.word "a"], 1) := rfl

end DeviceConsole.Grammar
