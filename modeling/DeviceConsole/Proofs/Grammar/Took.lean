import DeviceConsole.Proofs.Grammar.Columns
import DeviceConsole.Proofs.Grammar.Takes

/-!
# `Proofs.Grammar.Took` — which marks a match is made of

The tree of a grammar describes lines without saying how they are found: a sequence took what its members took, one
behind the other, a repetition what its rounds took. Ordered choice and greed decide which description of a line a
match gives, but whatever it gives is one of these, and so the words of a line can be looked up in the result.

* `Node.Took` — the marks that can stand for a result of a node;
* `Node.took_of_matchTokens` — every match took such marks;
* `Node.Took.no_stop` — and the end of the line is never among them;
* `took_word`, `took_colonWord`, `took_keyword` — what a word took;
* `Node.Advances` — nodes that never take nothing;
* `front_of_parseTokens` — an accepted line is taken up to its end.
-/

namespace DeviceConsole.Grammar

/-! ## Marks of a result -/

/-- The marks that a recogniser takes for a result. -/
def Primitive.Took : Primitive → List Mark → Matched → Prop
  | word, taken, result => ∃ text, taken = [.word text] ∧ result = .word text
  | colon, taken, result => taken = [.colon] ∧ result = .colon
  | colonWord, taken, result => ∃ text, taken = [.colon, .word text] ∧ result = .word text

mutual

/-- The marks that can stand for a result of a node. -/
def Node.Took : Node → List Mark → Matched → Prop
  | .alt members, taken, result => someTook members taken result
  | .seq members, taken, result => ∃ parts, result = .seq parts ∧ allTook members taken parts
  | .optional inner, taken, result => taken = [] ∧ result = .skipped ∨ inner.Took taken result
  | .repeated inner, taken, result =>
    ∃ rounds : List (List Mark × Matched), taken = rounds.flatMap Prod.fst
      ∧ result = .repeated (rounds.map Prod.snd) ∧ ∀ round ∈ rounds, inner.Took round.1 round.2
  | .primitive recogniser, taken, result => recogniser.Took taken result
  | .composite _ _ convert inner, taken, result => ∃ found, inner.Took taken found ∧ convert found = some result

/-- One of the nodes took the marks. -/
def someTook : List Node → List Mark → Matched → Prop
  | [], _, _ => False
  | node :: rest, taken, result => node.Took taken result ∨ someTook rest taken result

/-- The nodes took the marks, one behind the other. -/
def allTook : List Node → List Mark → List Matched → Prop
  | [], taken, results => taken = [] ∧ results = []
  | node :: rest, taken, results =>
    ∃ front first back others, taken = front ++ back ∧ results = first :: others ∧ node.Took front first
      ∧ allTook rest back others

end

/-! ## Every match took marks -/

section Matches

variable {tokens : List Token} {result : Matched} {results : List Matched} {consumed : Nat}

/-- A match that took a number of tokens, and what it took. -/
def TookFront (took : List Mark → Matched → Prop) (tokens : List Token) (result : Matched) (consumed : Nat) : Prop :=
  consumed ≤ tokens.length ∧ took (marks (tokens.take consumed)) result

theorem Primitive.took_of_matchTokens {recogniser : Primitive}
    (h : recogniser.matchTokens tokens = some (result, consumed)) :
    TookFront recogniser.Took tokens result consumed := by
  unfold matchTokens at h
  split at h
  · next position text rest =>
    cases h
    exact ⟨by simp, text, rfl, rfl⟩
  · cases h
    exact ⟨by simp, rfl, rfl⟩
  · next position start text rest =>
    cases h
    exact ⟨by simp, text, rfl, rfl⟩
  · cases h

/-- The tokens of two walks, one behind the other. -/
theorem marks_take_add (tokens : List Token) (first second : Nat) :
    marks (tokens.take (first + second)) = marks (tokens.take first) ++ marks ((tokens.drop first).take second) := by
  unfold marks
  rw [List.take_add, List.map_append]

/-- What holds of one round holds of all rounds, one behind the other. -/
theorem took_of_matchRepeatedly {step : List Token → Option (Matched × Nat)} {took : List Mark → Matched → Prop}
    (once : ∀ {tokens result consumed}, step tokens = some (result, consumed) →
      TookFront took tokens result consumed) (rounds : Nat) (tokens : List Token) :
    ∃ items : List (List Mark × Matched), (matchRepeatedly step rounds tokens).1 = items.map Prod.snd
      ∧ (matchRepeatedly step rounds tokens).2 ≤ tokens.length
      ∧ marks (tokens.take (matchRepeatedly step rounds tokens).2) = items.flatMap Prod.fst
      ∧ ∀ item ∈ items, took item.1 item.2 := by
  induction rounds generalizing tokens with
  | zero => exact ⟨[], rfl, Nat.zero_le _, rfl, by simp⟩
  | succ rounds ih =>
    rw [matchRepeatedly]
    cases matched : step tokens with
    | none => exact ⟨[], rfl, Nat.zero_le _, rfl, by simp⟩
    | some found =>
      obtain ⟨result, consumed⟩ := found
      by_cases nothing : consumed = 0
      · simp only [nothing, if_true]
        exact ⟨[], rfl, Nat.zero_le _, rfl, by simp⟩
      · simp only [nothing, if_false]
        obtain ⟨enough, first⟩ := once matched
        obtain ⟨items, results, fits, taken, each⟩ := ih (tokens.drop consumed)
        rw [List.length_drop] at fits
        refine ⟨(marks (tokens.take consumed), result) :: items, by rw [results]; rfl, by omega, ?_, ?_⟩
        · rw [marks_take_add, taken, List.flatMap_cons]
        · intro item mem
          rcases List.mem_cons.mp mem with rfl | later
          · exact first
          · exact each item later

mutual

/-- **Every match took marks that stand for its result.** -/
theorem Node.took_of_matchTokens (node : Node) {tokens : List Token} {result : Matched} {consumed : Nat}
    (h : node.matchTokens tokens = some (result, consumed)) : TookFront node.Took tokens result consumed := by
  match node with
  | .alt members =>
    rw [Node.matchTokens_alt] at h
    exact someTook_of_matchFirst members h
  | .seq members =>
    rw [Node.matchTokens_seq] at h
    obtain ⟨⟨parts, count⟩, matched, same⟩ := Option.map_eq_some_iff.mp h
    cases same
    obtain ⟨enough, took⟩ := allTook_of_matchAll members matched
    exact ⟨enough, parts, rfl, took⟩
  | .optional inner =>
    rw [Node.matchTokens_optional, Option.some.injEq] at h
    cases matched : inner.matchTokens tokens with
    | none =>
      rw [matched] at h
      cases h
      exact ⟨Nat.zero_le _, .inl ⟨rfl, rfl⟩⟩
    | some found =>
      rw [matched] at h
      cases h
      obtain ⟨enough, took⟩ := inner.took_of_matchTokens matched
      exact ⟨enough, .inr took⟩
  | .repeated inner =>
    rw [Node.matchTokens_repeated] at h
    obtain ⟨items, results, enough, taken, each⟩ :=
      took_of_matchRepeatedly (fun matched => inner.took_of_matchTokens matched) tokens.length tokens
    generalize matchRepeatedly (fun tokens => inner.matchTokens tokens) tokens.length tokens = found
      at h results enough taken
    obtain ⟨own, count⟩ := found
    simp only at h results enough taken
    by_cases empty : own.isEmpty
    · rw [if_pos empty] at h
      cases h
    · rw [if_neg empty] at h
      cases h
      exact ⟨enough, items, taken, by rw [results], each⟩
  | .primitive recogniser =>
    rw [Node.matchTokens_primitive] at h
    exact Primitive.took_of_matchTokens h
  | .composite _ _ convert inner =>
    rw [Node.matchTokens_composite] at h
    cases matched : inner.matchTokens tokens with
    | none =>
      rw [matched] at h
      cases h
    | some found =>
      rw [matched] at h
      obtain ⟨value, converted, same⟩ := Option.map_eq_some_iff.mp h
      cases same
      obtain ⟨enough, took⟩ := inner.took_of_matchTokens matched
      exact ⟨enough, found.1, took, converted⟩

theorem someTook_of_matchFirst (nodes : List Node) {tokens : List Token} {result : Matched} {consumed : Nat}
    (h : matchFirst nodes tokens = some (result, consumed)) :
    TookFront (someTook nodes) tokens result consumed := by
  match nodes with
  | [] => cases h
  | node :: rest =>
    rw [matchFirst_cons] at h
    cases matched : node.matchTokens tokens with
    | none =>
      rw [matched] at h
      obtain ⟨enough, took⟩ := someTook_of_matchFirst rest h
      exact ⟨enough, .inr took⟩
    | some found =>
      rw [matched] at h
      cases h
      obtain ⟨enough, took⟩ := node.took_of_matchTokens matched
      exact ⟨enough, .inl took⟩

theorem allTook_of_matchAll (nodes : List Node) {tokens : List Token} {results : List Matched} {consumed : Nat}
    (h : matchAll nodes tokens = some (results, consumed)) :
    consumed ≤ tokens.length ∧ allTook nodes (marks (tokens.take consumed)) results := by
  match nodes with
  | [] =>
    cases h
    exact ⟨Nat.zero_le _, rfl, rfl⟩
  | node :: rest =>
    rw [matchAll_cons] at h
    cases matched : node.matchTokens tokens with
    | none =>
      rw [matched] at h
      cases h
    | some found =>
      rw [matched] at h
      obtain ⟨⟨others, more⟩, tail, same⟩ := Option.map_eq_some_iff.mp h
      cases same
      obtain ⟨enough, took⟩ := node.took_of_matchTokens matched
      obtain ⟨fits, tookRest⟩ := allTook_of_matchAll rest tail
      rw [List.length_drop] at fits
      refine ⟨by omega, _, found.1, _, others, marks_take_add .., rfl, took, tookRest⟩

end

end Matches

/-! ## The end of the line -/

theorem Primitive.Took.no_stop {recogniser : Primitive} {taken : List Mark} {result : Matched}
    (h : recogniser.Took taken result) : .stop ∉ taken := by
  cases recogniser with
  | word =>
    obtain ⟨text, rfl, -⟩ := h
    simp
  | colon =>
    obtain ⟨rfl, -⟩ := h
    simp
  | colonWord =>
    obtain ⟨text, rfl, -⟩ := h
    simp

mutual

/-- **No match takes the end of the line.** -/
theorem Node.Took.no_stop {node : Node} {taken : List Mark} {result : Matched} (h : node.Took taken result) :
    .stop ∉ taken := by
  match node with
  | .alt members => exact @someTook.no_stop members _ _ h
  | .seq members =>
    obtain ⟨parts, -, took⟩ := h
    exact allTook.no_stop took
  | .optional inner =>
    rcases h with ⟨rfl, -⟩ | took
    · simp
    · exact took.no_stop
  | .repeated inner =>
    obtain ⟨rounds, rfl, -, each⟩ := h
    intro mem
    obtain ⟨round, inRounds, inRound⟩ := List.mem_flatMap.mp mem
    exact (each round inRounds).no_stop inRound
  | .primitive recogniser => exact @Primitive.Took.no_stop recogniser _ _ h
  | .composite _ _ convert inner =>
    obtain ⟨found, took, -⟩ := h
    exact took.no_stop

theorem someTook.no_stop {nodes : List Node} {taken : List Mark} {result : Matched}
    (h : someTook nodes taken result) : .stop ∉ taken := by
  match nodes with
  | [] => exact h.elim
  | node :: rest =>
    rcases h with took | others
    · exact took.no_stop
    · exact someTook.no_stop others

theorem allTook.no_stop {nodes : List Node} {taken : List Mark} {results : List Matched}
    (h : allTook nodes taken results) : .stop ∉ taken := by
  match nodes with
  | [] =>
    obtain ⟨rfl, -⟩ := h
    simp
  | node :: rest =>
    obtain ⟨front, first, back, others, rfl, -, took, tookRest⟩ := h
    intro mem
    rcases List.mem_append.mp mem with inFront | inBack
    · exact took.no_stop inFront
    · exact allTook.no_stop tookRest inBack

end

/-- A match took tokens none of which is the end of the line. -/
theorem isEnd_of_matchTokens {node : Node} {tokens : List Token} {result : Matched} {consumed : Nat}
    (h : node.matchTokens tokens = some (result, consumed)) {index : Nat} (less : index < consumed) {token : Token}
    (stands : tokens[index]? = some token) : token.isEnd = false := by
  obtain ⟨-, took⟩ := node.took_of_matchTokens h
  have mem : token ∈ tokens.take consumed := by
    refine List.mem_of_getElem? (i := index) ?_
    rw [List.getElem?_take, if_pos less, stands]
  cases token with
  | word position text => rfl
  | colon position => rfl
  | endOfInput position blanks => exact absurd (List.mem_map_of_mem mem) took.no_stop

/-! ## Marks of a word -/

section Words

variable {kind : NodeKind} {label : Option String} {convert : Matched → Option Matched} {taken : List Mark}
  {result : Matched}

theorem took_word (h : (Node.composite kind label convert (.primitive .word)).Took taken result) :
    ∃ text, taken = [.word text] ∧ convert (.word text) = some result := by
  obtain ⟨_, ⟨text, rfl, rfl⟩, converted⟩ := h
  exact ⟨text, rfl, converted⟩

theorem took_colonWord (h : (Node.composite kind label convert (.primitive .colonWord)).Took taken result) :
    ∃ text, taken = [.colon, .word text] ∧ convert (.word text) = some result := by
  obtain ⟨_, ⟨text, rfl, rfl⟩, converted⟩ := h
  exact ⟨text, rfl, converted⟩

theorem took_keyword {label : String} (h : (wordNode kind label).Took taken result) :
    taken = [.word label] ∧ result = .keyword kind label := by
  obtain ⟨text, rfl, converted⟩ := took_word h
  obtain ⟨rfl, same⟩ := Conversion.keyword_of_keyword converted
  exact ⟨rfl, same⟩

theorem took_groupName (h : groupNameNode.Took taken result) :
    ∃ name, taken = [.word name] ∧ result = .name .groupName name := by
  obtain ⟨text, rfl, converted⟩ := took_word h
  exact ⟨text, rfl, Conversion.name_of_groupName converted⟩

theorem took_aliasName (h : aliasNameNode.Took taken result) :
    ∃ name, taken = [.word name] ∧ result = .name .aliasName name := by
  obtain ⟨text, rfl, converted⟩ := took_word h
  exact ⟨text, rfl, Conversion.name_of_aliasName converted⟩

end Words

/-! ## Something or nothing -/

/-- Whatever the node takes, it is not nothing. -/
def Node.Advances (node : Node) : Prop := ∀ taken result, node.Took taken result → taken ≠ []

section Advances

variable {inner first : Node} {rest nodes : List Node} {kind : NodeKind} {label : Option String}
  {convert : Matched → Option Matched} {recogniser : Primitive}

theorem Node.Advances.primitive : (Node.primitive recogniser).Advances := by
  intro taken result took
  cases recogniser with
  | word =>
    obtain ⟨text, rfl, -⟩ := took
    simp
  | colon =>
    obtain ⟨rfl, -⟩ := took
    simp
  | colonWord =>
    obtain ⟨text, rfl, -⟩ := took
    simp

theorem Node.Advances.composite (h : inner.Advances) : (Node.composite kind label convert inner).Advances := by
  rintro taken result ⟨found, took, -⟩
  exact h taken found took

theorem Node.Advances.seq (h : first.Advances) : (Node.seq (first :: rest)).Advances := by
  rintro taken result ⟨_, -, front, one, back, _, rfl, -, took, -⟩ nothing
  exact h front one took (List.append_eq_nil_iff.mp nothing).1

theorem Node.Advances.alt_nil : (Node.alt []).Advances := fun _ _ took => took.elim

theorem Node.Advances.alt_cons (h : first.Advances) (others : (Node.alt nodes).Advances) :
    (Node.alt (first :: nodes)).Advances := by
  rintro taken result (took | took)
  · exact h taken result took
  · exact others taken result took

/-- A node that never takes nothing takes a token whenever it matches. -/
theorem Node.Advances.consumed_ne_zero (h : inner.Advances) {tokens : List Token} {result : Matched} {consumed : Nat}
    (matched : inner.matchTokens tokens = some (result, consumed)) : consumed ≠ 0 := by
  rintro rfl
  obtain ⟨-, took⟩ := inner.took_of_matchTokens matched
  exact h _ _ took rfl

theorem advances_leaf : (leaf kind recogniser convert).Advances := .composite .primitive

theorem advances_word {text : String} : (wordNode kind text).Advances := .composite .primitive

theorem advances_device : deviceNode.Advances :=
  .composite (.alt_cons (.seq advances_leaf) (.alt_cons (.composite (.seq advances_leaf))
    (.alt_cons advances_leaf (.alt_cons advances_leaf .alt_nil))))

theorem advances_property : propertyNode.Advances :=
  .composite (.alt_cons (.seq advances_leaf) (.alt_cons advances_leaf .alt_nil))

end Advances

/-! ## Accepted lines -/

/-- A match stops at the latest in front of the end of the line. -/
theorem consumed_le_of_matchTokens {node : Node} {front : List Token} {stop : Nat} {blanks : String}
    {result : Matched} {consumed : Nat}
    (h : node.matchTokens (front ++ [.endOfInput stop blanks]) = some (result, consumed)) :
    consumed ≤ front.length := by
  refine Nat.le_of_not_lt fun more => ?_
  have stands : (front ++ [Token.endOfInput stop blanks])[front.length]? = some (.endOfInput stop blanks) := by
    simp
  have noEnd := isEnd_of_matchTokens h more stands
  cases noEnd

/-- A match behind which the line ends took all of the line. -/
theorem consumed_eq_of_ends {node : Node} {front : List Token} {stop : Nat} {blanks : String}
    (noEnd : ∀ token ∈ front, token.isEnd = false) {result : Matched} {consumed : Nat}
    (h : node.matchTokens (front ++ [.endOfInput stop blanks]) = some (result, consumed))
    (ends : (front ++ [Token.endOfInput stop blanks])[consumed]?.all Token.isEnd = true) :
    consumed = front.length := by
  refine Nat.le_antisymm (consumed_le_of_matchTokens h) (Nat.le_of_not_lt fun less => ?_)
  rw [List.getElem?_append_left less, List.getElem?_eq_getElem less] at ends
  have goesOn := noEnd _ (List.getElem_mem less)
  simp [goesOn] at ends

/-- **An accepted line is taken up to its end**: all its marks but the last one stand for the match, by the whole
grammar and by every node that matches the line in the same way. -/
theorem front_of_parseTokens {node : Node} {line : String} {matched : Matched}
    (same : commandGrammar.matchTokens (tokenize line) = node.matchTokens (tokenize line))
    (h : parseTokens (tokenize line) = .ok matched) :
    ∃ taken, marks (tokenize line) = taken ++ [.stop] ∧ node.Took taken matched := by
  obtain ⟨consumed, found, ends⟩ := matchTokens_of_parseTokens h
  obtain ⟨front, blanks, shape, noEnd⟩ := (layout_tokenize line).eq_append
  rw [same] at found
  rw [shape] at found ends ⊢
  have whole := consumed_eq_of_ends noEnd found ends
  obtain ⟨-, took⟩ := node.took_of_matchTokens found
  rw [whole, List.take_left] at took
  refine ⟨marks front, ?_, took⟩
  unfold marks
  rw [List.map_append]
  rfl

end DeviceConsole.Grammar
