import DeviceConsole.Proofs.Editor.Leaves
import Mathlib.Data.List.Nodup

/-!
# `Proofs.Grammar.Origins` — where expectations come from

What is expected behind a beginning of a line is collected on the way through the grammar, from leaves that refuse. So
it says no more than the leaves of the tree do, and each keyword among it is a word of the grammar.

One word is two keywords: `list` is a command and an action on groups. They are never expected together, since behind a
command word no command is expected, and in front of it nothing else.

* `Node.leaves` — the leaves of a tree;
* `Node.mem_candidates` — every expectation is that of a leaf of the tree;
* `keyword_of_expected` — the keywords that are expected are words, and no Greek ones;
* `commands_or_none` — commands are expected alone;
* `nodup_keywords` — **no keyword is expected twice**.
-/

namespace DeviceConsole.Grammar

variable {tokens : List Token} {nodes : List Node} {leaf : Expected}

/-! ## Leaves of a tree -/

mutual

/-- The leaves of a tree, from left to right: recognisers and composites over them, each of which is one unit. -/
def Node.leaves : Node → List Node
  | .alt members => leavesOfAll members
  | .seq members => leavesOfAll members
  | .optional inner => inner.leaves
  | .repeated inner => inner.leaves
  | .primitive recogniser => [.primitive recogniser]
  | .composite kind label convert inner =>
    if inner.isPrimitive then [.composite kind label convert inner] else inner.leaves

/-- The leaves of several trees. -/
def leavesOfAll : List Node → List Node
  | [] => []
  | node :: rest => node.leaves ++ leavesOfAll rest

end

/-- What a leaf is expected as. -/
def Node.expectation (leaf : Node) : Expected := ⟨leaf.kind, leaf.label⟩

/-- A leaf that does not match expects itself alone. -/
theorem mem_leafCandidates {node : Node} (mem : leaf ∈ (leafCandidates node tokens).2) : leaf = node.expectation := by
  unfold leafCandidates at mem
  split at mem
  · cases mem
  · exact List.mem_singleton.mp mem

/-- Of two walks nothing is expected but what one of them expects. -/
theorem mem_of_further {best found : Nat × List Expected} (mem : leaf ∈ (further best found).2) :
    leaf ∈ best.2 ∨ leaf ∈ found.2 := by
  unfold further at mem
  split at mem
  · exact .inr mem
  · split at mem
    · exact mem_addAllNew.mp mem
    · exact .inl mem

/-- What the furthest of several walks expects, one of them expects. -/
theorem mem_of_furthest {best : Nat × List Expected} (mem : leaf ∈ (furthestCandidates nodes tokens best).2) :
    leaf ∈ best.2 ∨ ∃ node ∈ nodes, leaf ∈ (node.candidates tokens).2 := by
  induction nodes generalizing best with
  | nil => exact .inl mem
  | cons node rest ih =>
    rcases ih mem with known | ⟨other, listed, its⟩
    · rcases mem_of_further known with before | here
      · exact .inl before
      · exact .inr ⟨node, List.mem_cons_self, here⟩
    · exact .inr ⟨other, List.mem_cons_of_mem _ listed, its⟩

mutual

/-- **Every expectation is that of a leaf of the tree.** -/
theorem Node.mem_candidates (node : Node) {tokens : List Token} (mem : leaf ∈ (node.candidates tokens).2) :
    leaf ∈ node.leaves.map Node.expectation := by
  match node with
  | .alt members => exact (mem_walkFurthest members mem).resolve_left List.not_mem_nil
  | .seq members => exact (mem_walkSequence members mem).resolve_left List.not_mem_nil
  | .optional inner => exact inner.mem_candidates mem
  | .repeated inner => exact inner.mem_candidates mem
  | .primitive recogniser => exact List.mem_singleton.mpr (mem_leafCandidates mem)
  | .composite kind label convert inner =>
    rw [Node.candidates] at mem
    rw [Node.leaves]
    by_cases isLeaf : inner.isPrimitive = true
    · rw [if_pos isLeaf] at mem ⊢
      exact List.mem_singleton.mpr (mem_leafCandidates mem)
    · rw [if_neg isLeaf] at mem ⊢
      exact inner.mem_candidates mem

theorem mem_walkFurthest (nodes : List Node) {tokens : List Token} {best : Nat × List Expected}
    (mem : leaf ∈ (furthestCandidates nodes tokens best).2) :
    leaf ∈ best.2 ∨ leaf ∈ (leavesOfAll nodes).map Node.expectation := by
  match nodes with
  | [] => exact .inl mem
  | node :: rest =>
    rw [leavesOfAll, List.map_append, List.mem_append]
    rcases mem_walkFurthest rest mem with known | later
    · rcases mem_of_further known with before | here
      · exact .inl before
      · exact .inr (.inl (node.mem_candidates here))
    · exact .inr (.inr later)

theorem mem_walkSequence (nodes : List Node) {tokens : List Token} {expected : List Expected}
    (mem : leaf ∈ (sequenceCandidates nodes tokens expected).2) :
    leaf ∈ expected ∨ leaf ∈ (leavesOfAll nodes).map Node.expectation := by
  match nodes with
  | [] => exact .inl mem
  | node :: rest =>
    rw [leavesOfAll, List.map_append, List.mem_append]
    -- the leaves of the first member are added if it takes nothing
    have added (here : leaf ∈ addAllNew expected (node.candidates tokens).2) :
        leaf ∈ expected ∨ leaf ∈ node.leaves.map Node.expectation
          ∨ leaf ∈ (leavesOfAll rest).map Node.expectation := by
      rcases mem_addAllNew.mp here with before | own
      · exact .inl before
      · exact .inr (.inl (node.mem_candidates own))
    rw [sequenceCandidates] at mem
    cases matched : node.matchTokens tokens with
    | none =>
      rw [matched] at mem
      exact added mem
    | some found =>
      rw [matched] at mem
      by_cases nothing : found.2 = 0
      · simp only [nothing, if_true] at mem
        rcases mem_walkSequence rest mem with here | later
        · exact added here
        · exact .inr (.inr later)
      · simp only [nothing, if_false] at mem
        exact .inr (.inr ((mem_walkSequence rest mem).resolve_left List.not_mem_nil))

end

/-! ## Keywords -/

/-- The keywords that are expected behind tokens. -/
def keywordsBehind (tokens : List Token) : List String :=
  (commandGrammar.candidates tokens).2.filterMap Expected.label

/-- **A keyword that is expected is a word of the grammar**: it has no capital sigma, and it is no help topic. -/
theorem keyword_of_expected {keyword : String} (mem : leaf ∈ (commandGrammar.candidates tokens).2)
    (labelled : leaf.label = some keyword) : IsWord keyword ∧ 'Σ' ∉ keyword.toList ∧ leaf.kind ≠ .helpTopic := by
  have words : ∀ leaf ∈ commandGrammar.leaves.map Node.expectation, ∀ keyword ∈ leaf.label,
      IsWord keyword ∧ 'Σ' ∉ keyword.toList ∧ leaf.kind ≠ .helpTopic := by decide +kernel
  exact words leaf (commandGrammar.mem_candidates mem) keyword labelled

/-- A command starts with its words, and has no others. -/
theorem leaves_of_command {entry : List String × Node} (mem : entry ∈ commandTable) {first : Node} {rest : List Node}
    (shape : entry.2 = .seq (first :: rest)) :
    (∀ leaf ∈ first.leaves.map Node.expectation, leaf.kind = .command)
      ∧ ∀ leaf ∈ (leavesOfAll rest).map Node.expectation, leaf.kind ≠ .command := by
  simp only [commandTable, List.mem_cons, List.not_mem_nil, or_false] at mem
  rcases mem with rfl | rfl | rfl | rfl | rfl | rfl | rfl | rfl | rfl | rfl <;>
  · cases shape
    decide

/-- **Commands are expected alone**: in front of the command word nothing else is expected, and behind it no command
is. -/
theorem commands_or_none {stop start : Nat} (h : Layout stop start tokens) :
    (∀ leaf ∈ (commandGrammar.candidates tokens).2, leaf.kind = .command)
      ∨ ∀ leaf ∈ (commandGrammar.candidates tokens).2, leaf.kind ≠ .command := by
  by_cases typed : ∃ entry ∈ commandTable, ∃ text ∈ entry.1, (marks tokens).head? = some (.word text)
  -- the walk of the command goes on behind its word
  · obtain ⟨entry, mem, text, key, head⟩ := typed
    obtain ⟨first, rest, shape, takes, -⟩ := command_head mem
    obtain ⟨after, marked⟩ := List.head?_eq_some_iff.mp head
    obtain ⟨later, behind, -, -, beyond, walk⟩ :=
      @sequence_behind tokens rest first stop start h [.word text] after _ (takes text key after) (by simp) marked []
    refine .inr fun leaf own => ?_
    rw [expected_of_typed h mem shape key head beyond, walk] at own
    exact (leaves_of_command mem shape).2 leaf ((mem_walkSequence rest own).resolve_left List.not_mem_nil)
  -- every walk stops in front of a command word
  · refine .inl fun leaf own => ?_
    rw [commandGrammar_eq, Node.candidates] at own
    obtain ⟨node, listed, its⟩ := (mem_of_furthest own).resolve_left List.not_mem_nil
    obtain ⟨entry, mem, rfl⟩ := List.mem_map.mp listed
    obtain ⟨first, rest, shape, -, refuses⟩ := command_head mem
    have refused : first.matchTokens tokens = none :=
      refuses (marks tokens) (fun text key head => typed ⟨entry, mem, text, key, head⟩) tokens rfl
    rw [shape, Node.candidates] at its
    simp only [sequenceCandidates, refused] at its
    have here := (mem_addAllNew.mp its).resolve_left List.not_mem_nil
    exact (leaves_of_command mem shape).1 leaf (first.mem_candidates here)

/-- **No keyword is expected twice.** -/
theorem nodup_keywords {stop start : Nat} (h : Layout stop start tokens) : (keywordsBehind tokens).Nodup := by
  have known : ∀ leaf ∈ commandGrammar.leaves.map Node.expectation,
      ∀ other ∈ commandGrammar.leaves.map Node.expectation, leaf.label.isSome = true → leaf.label = other.label →
        (leaf.kind = .command ↔ other.kind = .command) → leaf = other := by decide +kernel
  have apart : (commandGrammar.candidates tokens).2.Pairwise fun leaf other =>
      ∀ keyword ∈ leaf.label, ∀ text ∈ other.label, keyword ≠ text := by
    refine (commandGrammar.nodup_candidates tokens).imp_of_mem fun {leaf other} mem listed ne => ?_
    rintro keyword own text its rfl
    refine ne (known leaf (commandGrammar.mem_candidates mem) other (commandGrammar.mem_candidates listed) ?_ ?_ ?_)
    · rw [Option.mem_def.mp own]
      rfl
    · rw [Option.mem_def.mp own, Option.mem_def.mp its]
    · rcases commands_or_none h with all | none
      · exact ⟨fun _ => all other listed, fun _ => all leaf mem⟩
      · exact ⟨fun is => absurd is (none leaf mem), fun is => absurd is (none other listed)⟩
  exact List.pairwise_filterMap.mpr apart

end DeviceConsole.Grammar
