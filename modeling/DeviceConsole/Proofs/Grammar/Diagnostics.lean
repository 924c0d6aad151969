import DeviceConsole.Proofs.Grammar.Expectations
import Mathlib.Data.List.Pairwise

/-!
# `Proofs.Grammar.Diagnostics` — where a line goes wrong

A line that is refused is walked through once more, by other rules than those of the matching: alternatives are
compared by how far they get, and a sequence is followed up to its first member that does not match. Since the first
word of a line decides between the commands, the walk of its command gets furthest, and it stops where the matching
stopped.

* `StopsAt`, `stopsAt_sequence` — how far the walk of a sequence gets;
* `position_of_typed`, `position_of_untyped` — the column at which the walk of the grammar stops;
* `parseTokens_diagnoses` — what is said about a line that is refused.
-/

namespace DeviceConsole.Grammar

variable {tokens : List Token} {nodes : List Node}

/-! ## The walk of a sequence -/

/-- The first of the nodes match one after the other and take so many tokens, and the next one, if there is one,
refuses. -/
def StopsAt (nodes : List Node) (tokens : List Token) (count : Nat) : Prop :=
  ∃ front back results, nodes = front ++ back ∧ matchAll front tokens = some (results, count)
    ∧ ∀ next ∈ back.head?, next.matchTokens (tokens.drop count) = none

/-- **The walk of a sequence stops at the first member that refuses.** -/
theorem stopsAt_sequence (nodes : List Node) (tokens : List Token) (expected : List Expected) :
    StopsAt nodes tokens (sequenceCandidates nodes tokens expected).1 := by
  induction nodes generalizing tokens expected with
  | nil => exact ⟨[], [], [], rfl, rfl, by simp⟩
  | cons node rest ih =>
    rw [sequenceCandidates]
    cases matched : node.matchTokens tokens with
    | none => exact ⟨[], node :: rest, [], rfl, rfl, by simpa using matched⟩
    | some found =>
      obtain ⟨result, consumed⟩ := found
      by_cases nothing : consumed = 0
      -- a member that takes nothing adds to what is expected, and the walk goes on from the same token
      · subst nothing
        obtain ⟨front, back, results, rfl, all, refused⟩ := ih tokens (addAllNew expected (node.candidates tokens).2)
        refine ⟨node :: front, back, result :: results, rfl, ?_, refused⟩
        rw [matchAll_cons, matched]
        simp only [List.drop_zero, all, Option.map_some, Nat.zero_add, if_true]
      · obtain ⟨front, back, results, rfl, all, refused⟩ := ih (tokens.drop consumed) []
        simp only [nothing, if_false]
        refine ⟨node :: front, back, result :: results, rfl, ?_, fun next mem => ?_⟩
        · rw [matchAll_cons, matched]
          simp only [all, Option.map_some]
        · rw [← List.drop_drop]
          exact refused next mem

/-- The walk of a sequence that matches takes what the match takes. -/
theorem sequence_of_matchAll {results : List Matched} {consumed : Nat}
    (h : matchAll nodes tokens = some (results, consumed)) (expected : List Expected) :
    (sequenceCandidates nodes tokens expected).1 = consumed := by
  induction nodes generalizing tokens results consumed expected with
  | nil =>
    cases h
    rfl
  | cons node rest ih =>
    rw [matchAll_cons] at h
    rw [sequenceCandidates]
    cases matched : node.matchTokens tokens with
    | none => rw [matched] at h; cases h
    | some found =>
      obtain ⟨result, count⟩ := found
      rw [matched] at h
      obtain ⟨⟨others, more⟩, tail, same⟩ := Option.map_eq_some_iff.mp h
      cases same
      by_cases nothing : count = 0
      · subst nothing
        rw [List.drop_zero] at tail
        simp only [if_true, Nat.zero_add]
        exact ih tail _
      · simp only [nothing, if_false]
        rw [ih tail]

/-- A walk whose first member refuses has passed nothing. -/
theorem sequence_zero {node : Node} (refused : node.matchTokens tokens = none) (expected : List Expected) :
    (sequenceCandidates (node :: nodes) tokens expected).1 = 0 := by
  rw [sequenceCandidates, refused]

/-! ## The furthest of several walks -/

theorem further_position (best found : Nat × List Expected) : (further best found).1 = max best.1 found.1 := by
  unfold further
  split
  · omega
  · split
    · show best.1 = _
      omega
    · omega

/-- The furthest walk is one of the walks, and none of them gets further. -/
theorem furthest_position (nodes : List Node) (tokens : List Token) (best : Nat × List Expected) :
    best.1 ≤ (furthestCandidates nodes tokens best).1
    ∧ (∀ node ∈ nodes, (node.candidates tokens).1 ≤ (furthestCandidates nodes tokens best).1)
    ∧ ((furthestCandidates nodes tokens best).1 = best.1
      ∨ ∃ node ∈ nodes, (furthestCandidates nodes tokens best).1 = (node.candidates tokens).1) := by
  induction nodes generalizing best with
  | nil => exact ⟨Nat.le_refl _, by simp, .inl rfl⟩
  | cons node rest ih =>
    obtain ⟨atLeast, each, one⟩ := ih (further best (node.candidates tokens))
    rw [further_position] at atLeast one
    rw [furthestCandidates]
    refine ⟨by omega, ?_, ?_⟩
    · intro other mem
      rcases List.mem_cons.mp mem with rfl | later
      · omega
      · exact each other later
    · rcases one with same | ⟨other, later, same⟩
      · rcases Nat.le_total (node.candidates tokens).1 best.1 with _ | _
        · exact .inl (by omega)
        · exact .inr ⟨node, List.mem_cons_self, by omega⟩
      · exact .inr ⟨other, List.mem_cons_of_mem _ later, same⟩

/-! ## The walk of the grammar -/

section Walk

variable {start stop : Nat} {entry : List String × Node} {members : List Node} {text : String} {after : List Mark}

theorem columnAt_of_getElem? {index : Nat} {token : Token} (stands : tokens[index]? = some token) :
    columnAt tokens index = token.position := by
  rw [columnAt, stands]

/-- Columns ascend with the tokens. -/
theorem Layout.columnAt_mono (h : Layout stop start tokens) {first second : Nat} (le : first ≤ second)
    (less : second < tokens.length) : columnAt tokens first ≤ columnAt tokens second := by
  have bound : first < tokens.length := Nat.lt_of_le_of_lt le less
  rw [columnAt_of_getElem? (List.getElem?_eq_getElem bound), columnAt_of_getElem? (List.getElem?_eq_getElem less)]
  rcases Nat.lt_or_eq_of_le le with lt | rfl
  · exact Nat.le_of_lt (List.pairwise_iff_getElem.mp h.pairwise first second bound less lt)
  · exact Nat.le_refl _

/-- The walk of a command that the line does not start with ends where it starts. -/
theorem position_of_command (mem : entry ∈ commandTable)
    (other : ∀ text ∈ entry.1, (marks tokens).head? ≠ some (.word text)) :
    (entry.2.candidates tokens).1 = columnAt tokens 0 := by
  obtain ⟨first, rest, shape, -, refuses⟩ := command_head mem
  rw [shape, Node.candidates]
  show columnAt tokens (sequenceCandidates (first :: rest) tokens []).1 = _
  rw [sequence_zero (refuses _ other tokens rfl)]

/-- A match leaves the end of the line. -/
theorem Layout.consumed_lt (h : Layout stop start tokens) {node : Node} {result : Matched} {consumed : Nat}
    (matched : node.matchTokens tokens = some (result, consumed)) : consumed < tokens.length := by
  obtain ⟨front, blanks, rfl, -⟩ := h.eq_append
  have bound := consumed_le_of_matchTokens matched
  rw [List.length_append, List.length_singleton]
  omega

/-- A walk does not pass the end of the line. -/
theorem Layout.stop_lt_length (h : Layout stop start tokens) {count : Nat} (stops : StopsAt members tokens count) :
    count < tokens.length := by
  obtain ⟨taken, rest, results, -, all, -⟩ := stops
  have matched : (Node.seq taken).matchTokens tokens = some (.seq results, count) := by
    rw [Node.matchTokens_seq, all]
    rfl
  exact h.consumed_lt matched

/-- No word starts two commands. -/
theorem eq_of_key {other : List String × Node} (mem : entry ∈ commandTable) (listed : other ∈ commandTable)
    (key : text ∈ entry.1) (own : text ∈ other.1) : other = entry := by
  have apart : commandTable.Pairwise fun a b => ∀ word ∈ a.1, word ∉ b.1 := by decide
  have symmetric : Std.Symm fun a b : List String × Node => ∀ word ∈ a.1, word ∉ b.1 :=
    ⟨fun a b h word inB inA => h word inA inB⟩
  by_contra ne
  exact apart.forall mem listed (Ne.symm ne) text key own

/-- **If the line starts with no command word, the walk of the grammar ends where it starts.** -/
theorem position_of_untyped
    (untyped : ∀ entry ∈ commandTable, ∀ text ∈ entry.1, (marks tokens).head? ≠ some (.word text)) :
    (commandGrammar.candidates tokens).1 = columnAt tokens 0 := by
  obtain ⟨-, each, one⟩ := furthest_position (commandTable.map Prod.snd) tokens (0, [])
  rw [commandGrammar_eq, Node.candidates]
  have discover : (["discover"], discoverCommand) ∈ commandTable := by simp [commandTable]
  have least := each discoverCommand (List.mem_map_of_mem discover)
  rw [position_of_command discover (untyped _ discover)] at least
  rcases one with same | ⟨node, mem, same⟩
  · omega
  · obtain ⟨entry, listed, rfl⟩ := List.mem_map.mp mem
    rw [same, position_of_command listed (untyped entry listed)]

/-- **If the line starts with a command word, the walk of the grammar ends where the walk of this command ends.** -/
theorem position_of_typed (h : Layout stop start tokens) (mem : entry ∈ commandTable) (shape : entry.2 = .seq members)
    (key : text ∈ entry.1) (marked : (marks tokens).head? = some (.word text)) :
    (commandGrammar.candidates tokens).1 = columnAt tokens (sequenceCandidates members tokens []).1 := by
  have own : (entry.2.candidates tokens).1 = columnAt tokens (sequenceCandidates members tokens []).1 := by
    rw [shape, Node.candidates]
  have behind : columnAt tokens 0 ≤ columnAt tokens (sequenceCandidates members tokens []).1 :=
    h.columnAt_mono (Nat.zero_le _) (h.stop_lt_length (stopsAt_sequence members tokens []))
  obtain ⟨-, each, one⟩ := furthest_position (commandTable.map Prod.snd) tokens (0, [])
  rw [commandGrammar_eq, Node.candidates]
  have atLeast := each entry.2 (List.mem_map_of_mem mem)
  rw [own] at atLeast
  rcases one with same | ⟨node, mapped, same⟩
  · omega
  · obtain ⟨other, listed, rfl⟩ := List.mem_map.mp mapped
    by_cases keyed : text ∈ other.1
    · rw [same, eq_of_key mem listed key keyed, own]
    -- the walk of another command is not in front of this one
    · have stays : (other.2.candidates tokens).1 = columnAt tokens 0 := by
        refine position_of_command listed fun word its head => keyed ?_
        rw [marked, Option.some.injEq, Mark.word.injEq] at head
        rwa [head]
      omega

end Walk

/-! ## What is said about a line -/

/-- **The mismatch points at a token**: it gives the column and the text of this token, and no text at the end of the
line alone. -/
structure Mismatch.PointsAt (mismatch : Mismatch) (tokens : List Token) (index : Nat) (token : Token) : Prop where
  stands : tokens[index]? = some token
  position : mismatch.position = token.position
  found : mismatch.found = if token.isEnd then "" else token.text
  empty : mismatch.found = "" ↔ token.isEnd = true

/-- The index at which a line goes wrong: the members of its command match the tokens in front of it and the next one
refuses the token, or the line starts with no command word at all. -/
structure WrongAt (tokens : List Token) (index : Nat) : Prop where
  typed : ∀ entry ∈ commandTable, ∀ text ∈ entry.1, (marks tokens).head? = some (.word text) →
    ∃ members, entry.2 = .seq members ∧ StopsAt members tokens index
  untyped : (∀ entry ∈ commandTable, ∀ text ∈ entry.1, (marks tokens).head? ≠ some (.word text)) → index = 0
  matched : ∀ result consumed, commandGrammar.matchTokens tokens = some (result, consumed) → index = consumed

/-- **Every line has a token at which it goes wrong, or ends**: there the walk of the grammar stops. -/
theorem exists_wrongAt {start stop : Nat} (h : Layout stop start tokens) :
    ∃ index token, tokens[index]? = some token ∧ WrongAt tokens index
      ∧ (commandGrammar.candidates tokens).1 = columnAt tokens index := by
  by_cases typed : ∃ entry ∈ commandTable, ∃ text ∈ entry.1, (marks tokens).head? = some (.word text)
  · obtain ⟨entry, mem, text, key, head⟩ := typed
    obtain ⟨first, rest, shape, -, -⟩ := command_head mem
    obtain ⟨after, marked⟩ := List.head?_eq_some_iff.mp head
    have stops := stopsAt_sequence (first :: rest) tokens []
    refine ⟨_, _, List.getElem?_eq_getElem (h.stop_lt_length stops), ⟨?_, ?_, ?_⟩,
      position_of_typed h mem shape key head⟩
    · intro other listed word own its
      rw [head, Option.some.injEq, Mark.word.injEq] at its
      rw [eq_of_key mem listed key (its ▸ own)]
      exact ⟨first :: rest, shape, stops⟩
    · intro untyped
      exact absurd head (untyped entry mem text key)
    · intro result consumed matched
      rw [matchTokens_commandGrammar mem key marked, shape, Node.matchTokens_seq] at matched
      obtain ⟨⟨results, count⟩, all, same⟩ := Option.map_eq_some_iff.mp matched
      cases same
      exact sequence_of_matchAll all []
  -- without a command word every walk stops at the first token, and no command matches
  · have untyped : ∀ entry ∈ commandTable, ∀ text ∈ entry.1, (marks tokens).head? ≠ some (.word text) :=
      fun entry mem text key head => typed ⟨entry, mem, text, key, head⟩
    have some_token : 0 < tokens.length := h.length_pos
    refine ⟨0, tokens[0], List.getElem?_eq_getElem some_token, ⟨?_, fun _ => rfl, ?_⟩, position_of_untyped untyped⟩
    · exact fun entry mem text key head => absurd head (untyped entry mem text key)
    · intro result consumed matched
      have refused : matchFirst (commandTable.map Prod.snd) tokens = none := by
        refine matchFirst_eq_none fun node listed => ?_
        obtain ⟨entry, mem, rfl⟩ := List.mem_map.mp listed
        exact refuses_command mem (untyped entry mem) tokens rfl
      rw [commandGrammar_eq, Node.matchTokens_alt, refused] at matched
      cases matched

theorem mismatchOf_pointsAt {start stop : Nat} (h : Layout stop start tokens) {index : Nat} {token : Token}
    (stands : tokens[index]? = some token)
    (walk : (commandGrammar.candidates tokens).1 = columnAt tokens index) :
    (mismatchOf tokens).PointsAt tokens index token := by
  rw [columnAt_of_getElem? stands] at walk
  have found : (mismatchOf tokens).found = if token.isEnd then "" else token.text := by
    show ((tokens.find? fun other => decide ((commandGrammar.candidates tokens).1 ≤ other.position)
      && !other.isEnd).map Token.text).getD "" = _
    rw [walk, h.find?_column stands]
    cases token.isEnd <;> rfl
  refine ⟨stands, walk, found, ?_⟩
  rw [found]
  cases isEnd : token.isEnd with
  | true => simp
  | false => simpa using h.text_ne_empty (List.mem_of_getElem? stands) isEnd

/-- Names are expected wherever leaves are, and none of them twice. -/
theorem expected_mismatchOf : (mismatchOf tokens).expected
    = addAllNew [] ((commandGrammar.candidates tokens).2.map Expected.toText) := rfl

theorem mismatch_of_parseTokens {mismatch : Mismatch} (h : parseTokens tokens = .error mismatch) :
    mismatch = mismatchOf tokens := by
  unfold parseTokens at h
  split at h
  · split at h
    · cases h
    · cases h
      rfl
  · cases h
    rfl

/-- **What is said about a line points at a real place.** The walk of an accepted line stops behind its last character.
Of a line that is refused the mismatch points at the token at which it goes wrong, which is the first token left over
if a command matched the tokens in front of it; something is expected if no command matched at all; and no name is
expected twice. -/
theorem parseTokens_diagnoses (line : String) :
    (∀ matched, parseTokens (tokenize line) = .ok matched →
      (commandGrammar.candidates (tokenize line)).1 = line.length)
    ∧ ∀ mismatch, parseTokens (tokenize line) = .error mismatch →
      (∃ index token, mismatch.PointsAt (tokenize line) index token ∧ WrongAt (tokenize line) index)
      ∧ (commandGrammar.matchTokens (tokenize line) = none → mismatch.expected ≠ [])
      ∧ mismatch.expected.Nodup := by
  have layout := layout_tokenize line
  obtain ⟨index, token, stands, wrong, walk⟩ := exists_wrongAt layout
  refine ⟨fun matched accepted => ?_, fun mismatch refused => ?_⟩
  · obtain ⟨consumed, found, ends⟩ := matchTokens_of_parseTokens accepted
    obtain rfl := wrong.matched _ _ found
    rw [walk]
    obtain ⟨front, blanks, shape, noEnd⟩ := layout.eq_append
    rw [shape] at found ends ⊢
    rw [consumed_eq_of_ends noEnd found ends, columnAt, List.getElem?_append_right (Nat.le_refl _), Nat.sub_self]
    rfl
  · obtain rfl := mismatch_of_parseTokens refused
    refine ⟨⟨index, token, mismatchOf_pointsAt layout stands walk, wrong⟩, fun unmatched => ?_, ?_⟩
    · have some_leaf := commandGrammar.expected_ne_nil explains_commandGrammar unmatched
      rw [expected_mismatchOf]
      exact addAllNew_ne_nil (.inr fun none => some_leaf (List.map_eq_nil_iff.mp none))
    · rw [expected_mismatchOf]
      exact nodup_addAllNew List.nodup_nil

/-- Behind a whole command nothing is expected, and the word that is left over is named; in front of a missing word
the end of the line is. -/
theorem parseTokens_diagnoses_left :
    (commandGrammar.candidates (tokenize "quit")).1 = 4
    ∧ parseTokens (tokenize "quit now") = .error ⟨5, "now", []⟩
    ∧ Mismatch.PointsAt ⟨5, "now", []⟩ (tokenize "quit now") 1 (.word 5 "now")
    ∧ parseTokens (tokenize "get ac ") = .error ⟨7, "", ["EPC", "-skip-validation"]⟩
    ∧ ∃ index token, Mismatch.PointsAt ⟨7, "", ["EPC", "-skip-validation"]⟩ (tokenize "get ac ") index token
      ∧ WrongAt (tokenize "get ac ") index := by
  have accepted : parseTokens (tokenize "quit") = .ok (.seq [.keyword .command "quit"]) := rfl
  have ended := (parseTokens_diagnoses "quit").1 _ accepted
  have left : parseTokens (tokenize "quit now") = .error ⟨5, "now", []⟩ := rfl
  obtain ⟨⟨index, token, points, wrong⟩, -⟩ := (parseTokens_diagnoses "quit now").2 _ left
  obtain rfl : index = 1 := wrong.matched (.seq [.keyword .command "quit"]) 1 rfl
  obtain rfl : token = .word 5 "now" := (Option.some.inj points.stands).symm
  have missing : parseTokens (tokenize "get ac ") = .error ⟨7, "", ["EPC", "-skip-validation"]⟩ := rfl
  exact ⟨ended, left, points, missing, ((parseTokens_diagnoses "get ac ").2 _ missing).1⟩

end DeviceConsole.Grammar
