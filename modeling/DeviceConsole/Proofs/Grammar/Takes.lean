import DeviceConsole.Grammar.Commands
import DeviceConsole.Proofs.Grammar.Marks

/-!
# `Proofs.Grammar.Takes` — rules for matching marks

`Takes node before result after`: in front of the marks `before` the node matches with `result` and leaves
`after`. `Refuses node before`: it does not match there. Ordered choice and greedy repetition make the two
inseparable, so every node has its rules for both, and the match of a line is put together from the rules of the
nodes it runs through.

* `TakesAll`, `Takes.seq` — sequences, one member after the other;
* `Takes.alt_head`, `Takes.alt_tail` — the first alternative, or the others once it refuses;
* `TakesMany`, `Takes.repeated` — repetitions, up to the marks that the inner node refuses;
* `parseTokens_of_takes`, `parseTokens_of_left` — whole lines;
* `Node.matchTokens_congr`, `parseTokens_congr` — blanks make no difference.
-/

namespace DeviceConsole.Grammar

/-! ## Outcomes of a match -/

/-- The node matches in front of the marks and leaves others. -/
def Takes (node : Node) (before : List Mark) (result : Matched) (after : List Mark) : Prop :=
  ∀ tokens, marks tokens = before →
    ∃ consumed, node.matchTokens tokens = some (result, consumed) ∧ marks (tokens.drop consumed) = after

/-- The node does not match in front of the marks. -/
def Refuses (node : Node) (before : List Mark) : Prop :=
  ∀ tokens, marks tokens = before → node.matchTokens tokens = none

/-- The nodes match one after the other. -/
def TakesAll (nodes : List Node) (before : List Mark) (results : List Matched) (after : List Mark) :
    Prop :=
  ∀ tokens, marks tokens = before →
    ∃ consumed, matchAll nodes tokens = some (results, consumed) ∧ marks (tokens.drop consumed) = after

/-- The node matches again and again, until it refuses; every match takes a mark. -/
inductive TakesMany (inner : Node) : List Mark → List Matched → List Mark → Prop
  | done {after} : Refuses inner after → TakesMany inner after [] after
  | more {before middle after result results} : Takes inner before result middle →
      middle.length < before.length → TakesMany inner middle results after →
      TakesMany inner before (result :: results) after

variable {node inner : Node} {nodes : List Node} {before middle after : List Mark}
  {result : Matched} {results : List Matched}

/-! ## Recognisers -/

theorem marks_eq_word {tokens : List Token} {text : String} (h : marks tokens = .word text :: after) :
    ∃ position rest, tokens = .word position text :: rest ∧ marks rest = after := by
  cases tokens with
  | nil => simp [marks] at h
  | cons token rest =>
    obtain ⟨head, tail⟩ := List.cons.inj h
    cases token with
    | word position own => injection head with same; exact ⟨position, rest, by rw [same], tail⟩
    | colon position => simp [Token.mark] at head
    | endOfInput position blanks => simp [Token.mark] at head

theorem marks_eq_colon {tokens : List Token} (h : marks tokens = .colon :: after) :
    ∃ position rest, tokens = .colon position :: rest ∧ marks rest = after := by
  cases tokens with
  | nil => simp [marks] at h
  | cons token rest =>
    obtain ⟨head, tail⟩ := List.cons.inj h
    cases token with
    | word position own => simp [Token.mark] at head
    | colon position => exact ⟨position, rest, rfl, tail⟩
    | endOfInput position blanks => simp [Token.mark] at head

theorem Takes.word {text : String} : Takes (.primitive .word) (.word text :: after) (.word text) after := by
  intro tokens h
  obtain ⟨position, rest, rfl, tail⟩ := marks_eq_word h
  exact ⟨1, rfl, tail⟩

theorem Takes.colonWord {text : String} :
    Takes (.primitive .colonWord) (.colon :: .word text :: after) (.word text) after := by
  intro tokens h
  obtain ⟨position, rest, rfl, tail⟩ := marks_eq_colon h
  obtain ⟨start, more, rfl, left⟩ := marks_eq_word tail
  exact ⟨2, rfl, left⟩

theorem Refuses.word (h : ∀ text, before.head? ≠ some (.word text)) : Refuses (.primitive .word) before := by
  rintro (_ | ⟨token, rest⟩) rfl
  · rfl
  · cases token with
    | word position own => exact absurd rfl (h own)
    | colon position => rfl
    | endOfInput position blanks => rfl

theorem Refuses.colonWord (h : before.head? ≠ some .colon) : Refuses (.primitive .colonWord) before := by
  rintro (_ | ⟨token, rest⟩) rfl
  · rfl
  · cases token with
    | word position own => rfl
    | colon position => exact absurd rfl h
    | endOfInput position blanks => rfl

/-! ## Sequences -/

theorem TakesAll.nil : TakesAll [] before [] before :=
  fun _ h => ⟨0, rfl, h⟩

theorem TakesAll.cons (first : Takes node before result middle)
    (others : TakesAll nodes middle results after) :
    TakesAll (node :: nodes) before (result :: results) after := by
  intro tokens h
  obtain ⟨consumed, matched, left⟩ := first tokens h
  obtain ⟨more, rest, left⟩ := others _ left
  refine ⟨consumed + more, ?_, by rw [← List.drop_drop]; exact left⟩
  rw [matchAll_cons, matched]
  simp only [rest, Option.map_some]

/-- What the first node takes comes first, and the others match behind it. -/
theorem matchAll_of_takes (first : Takes node before result middle) {tokens : List Token}
    (eq : marks tokens = before) {found : List Matched} {consumed : Nat}
    (h : matchAll (node :: nodes) tokens = some (found, consumed)) :
    ∃ rest others more, found = result :: others ∧ marks rest = middle ∧ matchAll nodes rest = some (others, more) := by
  obtain ⟨count, matched, left⟩ := first tokens eq
  rw [matchAll_cons, matched] at h
  obtain ⟨⟨others, more⟩, tail, same⟩ := Option.map_eq_some_iff.mp h
  cases same
  exact ⟨_, others, more, rfl, left, tail⟩

theorem Takes.seq (h : TakesAll nodes before results after) :
    Takes (.seq nodes) before (.seq results) after := by
  intro tokens eq
  obtain ⟨consumed, matched, left⟩ := h tokens eq
  exact ⟨consumed, by rw [Node.matchTokens_seq, matched]; rfl, left⟩

theorem Refuses.seq_head (h : Refuses node before) : Refuses (.seq (node :: nodes)) before := by
  intro tokens eq
  rw [Node.matchTokens_seq, matchAll_cons, h tokens eq]
  rfl

theorem Refuses.seq_tail (first : Takes node before result middle) (others : Refuses (.seq nodes) middle) :
    Refuses (.seq (node :: nodes)) before := by
  intro tokens eq
  obtain ⟨consumed, matched, left⟩ := first tokens eq
  have rest := others _ left
  rw [Node.matchTokens_seq, Option.map_eq_none_iff] at rest
  rw [Node.matchTokens_seq, matchAll_cons, matched]
  simp only [rest, Option.map_none]

/-! ## Alternatives -/

theorem Takes.alt_head (h : Takes node before result after) :
    Takes (.alt (node :: nodes)) before result after := by
  intro tokens eq
  obtain ⟨consumed, matched, left⟩ := h tokens eq
  exact ⟨consumed, by rw [Node.matchTokens_alt, matchFirst_cons, matched], left⟩

theorem Takes.alt_tail (first : Refuses node before) (others : Takes (.alt nodes) before result after) :
    Takes (.alt (node :: nodes)) before result after := by
  intro tokens eq
  obtain ⟨consumed, matched, left⟩ := others tokens eq
  rw [Node.matchTokens_alt] at matched
  exact ⟨consumed, by rw [Node.matchTokens_alt, matchFirst_cons, first tokens eq]; exact matched, left⟩

theorem Refuses.alt_nil : Refuses (.alt []) before := fun _ _ => rfl

theorem Refuses.alt_cons (first : Refuses node before) (others : Refuses (.alt nodes) before) :
    Refuses (.alt (node :: nodes)) before := by
  intro tokens eq
  have rest := others tokens eq
  rw [Node.matchTokens_alt] at rest
  rw [Node.matchTokens_alt, matchFirst_cons, first tokens eq]
  exact rest

/-! ## Optional parts -/

theorem Takes.optional (h : Takes inner before result after) : Takes (.optional inner) before result after := by
  intro tokens eq
  obtain ⟨consumed, matched, left⟩ := h tokens eq
  exact ⟨consumed, by rw [Node.matchTokens_optional, matched]; rfl, left⟩

theorem Takes.skip (h : Refuses inner before) : Takes (.optional inner) before .skipped before := by
  intro tokens eq
  exact ⟨0, by rw [Node.matchTokens_optional, h tokens eq]; rfl, eq⟩

/-! ## Composites -/

section Composites

variable {kind : NodeKind} {label : Option String} {convert : Matched → Option Matched}
  {value : Matched}

theorem Takes.composite (h : Takes inner before result after) (ok : convert result = some value) :
    Takes (.composite kind label convert inner) before value after := by
  intro tokens eq
  obtain ⟨consumed, matched, left⟩ := h tokens eq
  refine ⟨consumed, ?_, left⟩
  rw [Node.matchTokens_composite, matched]
  simp only [ok, Option.map_some]

theorem Refuses.composite (h : Refuses inner before) :
    Refuses (.composite kind label convert inner) before := by
  intro tokens eq
  rw [Node.matchTokens_composite, h tokens eq]

/-- The inner node matches, but the conversion refuses the result. -/
theorem Refuses.converted (h : Takes inner before result after) (refused : convert result = none) :
    Refuses (.composite kind label convert inner) before := by
  intro tokens eq
  obtain ⟨consumed, matched, -⟩ := h tokens eq
  rw [Node.matchTokens_composite, matched]
  simp only [refused, Option.map_none]

end Composites

/-! ## Repetitions -/

theorem length_marks (tokens : List Token) : (marks tokens).length = tokens.length := List.length_map ..

/-- The rounds of a repetition follow `TakesMany`: there are enough of them, since every one takes a mark. -/
theorem matchRepeatedly_of_takesMany (h : TakesMany inner before results after) :
    ∀ {rounds : Nat} {tokens : List Token}, tokens.length ≤ rounds → marks tokens = before →
      ∃ consumed, matchRepeatedly (fun tokens => inner.matchTokens tokens) rounds tokens
          = (results, consumed) ∧ marks (tokens.drop consumed) = after := by
  induction h with
  | done refuses =>
    intro rounds tokens _ eq
    refine ⟨0, ?_, eq⟩
    cases rounds with
    | zero => rfl
    | succ rounds => rw [matchRepeatedly, refuses tokens eq]
  | @more before middle after result results first shorter _ ih =>
    intro rounds tokens enough eq
    obtain ⟨consumed, matched, left⟩ := first tokens eq
    -- a round takes a mark, so one round less is enough for what is left
    have fewer : tokens.length - consumed < tokens.length := by
      have dropped := length_marks (tokens.drop consumed)
      rw [left, List.length_drop] at dropped
      rw [← eq, length_marks] at shorter
      omega
    obtain ⟨rounds, rfl⟩ : ∃ fewer, rounds = fewer + 1 := ⟨rounds - 1, by omega⟩
    have enough : (tokens.drop consumed).length ≤ rounds := by rw [List.length_drop]; omega
    obtain ⟨more, others, left⟩ := ih enough left
    refine ⟨consumed + more, ?_, by rw [← List.drop_drop]; exact left⟩
    rw [matchRepeatedly, matched]
    simp only [others]
    rw [if_neg (by omega)]

theorem Takes.repeated (h : TakesMany inner before results after) (ne : results ≠ []) :
    Takes (.repeated inner) before (.repeated results) after := by
  intro tokens eq
  obtain ⟨consumed, matched, left⟩ := matchRepeatedly_of_takesMany h (Nat.le_refl _) eq
  refine ⟨consumed, ?_, left⟩
  rw [Node.matchTokens_repeated, matched]
  simp only [List.isEmpty_iff, if_neg ne]

theorem Refuses.repeated (h : Refuses inner before) : Refuses (.repeated inner) before := by
  intro tokens eq
  obtain ⟨consumed, matched, -⟩ := matchRepeatedly_of_takesMany (.done h) (Nat.le_refl _) eq
  rw [Node.matchTokens_repeated, matched]
  rfl

/-- Items that are each taken in front of the items after them are taken as a repetition. -/
theorem TakesMany.of_items {α : Type} {items : List α} {front : α → List Mark} {value : α → Matched}
    (takes : ∀ item later, item :: later <:+ items →
      Takes inner (front item ++ (later.flatMap front ++ after)) (value item) (later.flatMap front ++ after))
    (some_mark : ∀ item ∈ items, front item ≠ []) (stop : Refuses inner after) :
    TakesMany inner (items.flatMap front ++ after) (items.map value) after := by
  induction items with
  | nil => exact .done stop
  | cons item rest ih =>
    have shorter : 0 < (front item).length := List.length_pos_iff.mpr (some_mark item List.mem_cons_self)
    rw [List.flatMap_cons, List.append_assoc, List.map_cons]
    have fewer : (rest.flatMap front ++ after).length
        < (front item ++ (rest.flatMap front ++ after)).length := by
      simp only [List.length_append]; omega
    refine .more (takes item rest (List.suffix_refl _)) fewer (ih ?_ ?_)
    · exact fun other later h => takes other later (h.trans (List.suffix_cons item rest))
    · exact fun other mem => some_mark other (List.mem_cons_of_mem _ mem)

/-! ## Whole lines -/

/-- A line that is taken up to its end is in the language. -/
theorem parseTokens_of_takes {tokens : List Token} (h : Takes commandGrammar (marks tokens) result [.stop]) :
    parseTokens tokens = .ok result := by
  obtain ⟨consumed, matched, left⟩ := h tokens rfl
  -- what is left starts with the end of the line
  have ends : tokens[consumed]?.all Token.isEnd = true := by
    rw [← List.head?_drop]
    cases eq : tokens.drop consumed with
    | nil => rfl
    | cons token rest =>
      rw [eq] at left
      cases token with
      | word position own => simp [marks, Token.mark] at left
      | colon position => simp [marks, Token.mark] at left
      | endOfInput position blanks => rfl
  rw [parseTokens, matched]
  simp only [ends, if_true]

/-- An accepted line is matched, and the line ends behind the match. -/
theorem matchTokens_of_parseTokens {tokens : List Token} (h : parseTokens tokens = .ok result) :
    ∃ consumed, commandGrammar.matchTokens tokens = some (result, consumed)
      ∧ tokens[consumed]?.all Token.isEnd = true := by
  unfold parseTokens at h
  split at h
  · next own consumed found =>
    split at h
    · next ends =>
      cases h
      exact ⟨consumed, found, ends⟩
    · cases h
  · cases h

/-- A line of which something is left is not in the language. -/
theorem parseTokens_of_left {tokens : List Token} {mark : Mark} (ne : mark ≠ .stop)
    (h : Takes commandGrammar (marks tokens) result (mark :: after)) :
    parseTokens tokens = .error (mismatchOf tokens) := by
  obtain ⟨consumed, matched, left⟩ := h tokens rfl
  -- what is left starts with another token
  have goesOn : tokens[consumed]?.all Token.isEnd = false := by
    rw [← List.head?_drop]
    cases eq : tokens.drop consumed with
    | nil => simp [eq, marks] at left
    | cons token rest =>
      rw [eq] at left
      obtain ⟨head, -⟩ := List.cons.inj left
      cases token with
      | word position own => rfl
      | colon position => rfl
      | endOfInput position blanks => exact absurd head.symm ne
  rw [parseTokens, matched]
  simp only [goesOn, Bool.false_eq_true, if_false]

/-! ## Blanks -/

theorem marks_drop {left right : List Token} (same : marks left = marks right) (count : Nat) :
    marks (left.drop count) = marks (right.drop count) := by
  unfold marks at *
  rw [List.map_drop, List.map_drop, same]

/-- What a recogniser matches at the front of marks. -/
def Primitive.matchMarks : Primitive → List Mark → Option (Matched × Nat)
  | word, .word text :: _ => some (.word text, 1)
  | colon, .colon :: _ => some (.colon, 1)
  | colonWord, .colon :: .word text :: _ => some (.word text, 2)
  | _, _ => none

theorem Primitive.matchTokens_eq (recogniser : Primitive) (tokens : List Token) :
    recogniser.matchTokens tokens = recogniser.matchMarks (marks tokens) := by
  rcases recogniser with _ | _ | _ <;>
    rcases tokens with _ | ⟨_ | _ | _, _ | ⟨_ | _ | _, rest⟩⟩ <;> rfl

theorem Primitive.matchTokens_congr (recogniser : Primitive) {left right : List Token}
    (same : marks left = marks right) : recogniser.matchTokens left = recogniser.matchTokens right := by
  rw [recogniser.matchTokens_eq, recogniser.matchTokens_eq, same]

theorem matchRepeatedly_congr {step : List Token → Option (Matched × Nat)}
    (once : ∀ {left right}, marks left = marks right → step left = step right) (rounds : Nat)
    {left right : List Token} (same : marks left = marks right) :
    matchRepeatedly step rounds left = matchRepeatedly step rounds right := by
  induction rounds generalizing left right with
  | zero => rfl
  | succ rounds ih =>
    rw [matchRepeatedly, matchRepeatedly, once same]
    cases step right with
    | none => rfl
    | some found => simp only [ih (marks_drop same found.2)]

mutual

/-- **Matching sees marks alone**: columns and blanks make no difference. -/
theorem Node.matchTokens_congr (node : Node) {left right : List Token} (same : marks left = marks right) :
    node.matchTokens left = node.matchTokens right := by
  match node with
  | .alt members => exact matchFirst_congr members same
  | .seq members => rw [Node.matchTokens_seq, Node.matchTokens_seq, matchAll_congr members same]
  | .optional inner => rw [Node.matchTokens_optional, Node.matchTokens_optional, inner.matchTokens_congr same]
  | .repeated inner =>
    have length : left.length = right.length := by rw [← length_marks left, same, length_marks]
    rw [Node.matchTokens_repeated, Node.matchTokens_repeated, length,
      matchRepeatedly_congr (fun same => inner.matchTokens_congr same) right.length same]
  | .primitive recogniser => exact recogniser.matchTokens_congr same
  | .composite _ _ _ inner =>
    rw [Node.matchTokens_composite, Node.matchTokens_composite, inner.matchTokens_congr same]

theorem matchFirst_congr (nodes : List Node) {left right : List Token} (same : marks left = marks right) :
    matchFirst nodes left = matchFirst nodes right := by
  match nodes with
  | [] => rfl
  | node :: rest => rw [matchFirst_cons, matchFirst_cons, node.matchTokens_congr same, matchFirst_congr rest same]

theorem matchAll_congr (nodes : List Node) {left right : List Token} (same : marks left = marks right) :
    matchAll nodes left = matchAll nodes right := by
  match nodes with
  | [] => rfl
  | node :: rest =>
    rw [matchAll_cons, matchAll_cons, node.matchTokens_congr same]
    cases node.matchTokens right with
    | none => rfl
    | some found => simp only [matchAll_congr rest (marks_drop same found.2)]

end


/-- The end of the line is seen in the marks. -/
theorem ends_congr {left right : List Token} (same : marks left = marks right) (count : Nat) :
    left[count]?.all Token.isEnd = right[count]?.all Token.isEnd := by
  have seen : ∀ tokens : List Token, tokens[count]?.all Token.isEnd
      = (marks tokens)[count]?.all fun mark => decide (mark = .stop) := by
    intro tokens
    rw [marks, List.getElem?_map]
    cases tokens[count]? with
    | none => rfl
    | some token => cases token <;> rfl
  rw [seen, seen, same]

/-- A line with the marks of an accepted line is accepted too, with the same match. -/
theorem parseTokens_congr {left right : List Token} (same : marks left = marks right) {result : Matched}
    (accepted : parseTokens left = .ok result) : parseTokens right = .ok result := by
  obtain ⟨consumed, matched, ends⟩ := matchTokens_of_parseTokens accepted
  rw [commandGrammar.matchTokens_congr same] at matched
  rw [ends_congr same] at ends
  rw [parseTokens, matched]
  simp only [ends, if_true]

end DeviceConsole.Grammar
