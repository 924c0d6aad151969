import DeviceConsole.Grammar.Traversal

/-!
# `Proofs.Grammar.Traversal` — a walk over a tree is a loop over its listing

A walk goes through a tree node by node while a visitor keeps a state and may fail at any node. What the visitor
sees of it does not depend on the shape of the tree: it is called on the nodes of the listing, one after the other,
and never again once it has failed. The labels of a kind are collected by such a visitor, so they are read off the
listing as well.

* `Node.traverse_eq_forM` — in every lawful monad the walk is the loop over the listing;
* `Passes`, `Visits` — what a loop of a visitor over some nodes comes to;
* `forM_visits` — every loop comes to this, and calls the visitor on no other node;
* `Node.IsLabelled`, `collectLabels_cases` — the labels of a kind, or the error about a node without one;
* `walk_visits_listing` — the two for every tree.
-/

namespace DeviceConsole.Grammar

/-! ## The loop -/

section Loop

variable {m : Type → Type} [Monad m] [LawfulMonad m] (visit : Node → m Unit)

mutual

/-- **The walk over a tree is the loop over its listing.** -/
theorem Node.traverse_eq_forM (root : Node) : root.traverse visit = forM root.listing visit := by
  match root with
  | .alt members =>
    rw [Node.traverse, Node.listing, List.forM_cons, traverseAll_eq_forM members]
  | .seq members =>
    rw [Node.traverse, Node.listing, List.forM_cons, traverseAll_eq_forM members]
  | .optional inner =>
    rw [Node.traverse, Node.listing, List.forM_cons, inner.traverse_eq_forM]
  | .repeated inner =>
    rw [Node.traverse, Node.listing, List.forM_cons, inner.traverse_eq_forM]
  | .primitive recogniser =>
    rw [Node.traverse, Node.listing, List.forM_cons, List.forM_nil]
    exact (bind_pure _).symm
  | .composite kind label convert inner =>
    rw [Node.traverse, Node.listing, List.forM_cons, List.forM_nil]
    exact (bind_pure _).symm

theorem traverseAll_eq_forM (nodes : List Node) : traverseAll visit nodes = forM (listingAll nodes) visit := by
  match nodes with
  | [] => rfl
  | node :: rest =>
    rw [traverseAll, listingAll, List.forM_append, node.traverse_eq_forM, traverseAll_eq_forM rest]

end

end Loop

/-! ## Visitors -/

/-- A visitor: it keeps a state, and it may fail. A visitor that fails leaves a state all the same. -/
abbrev Visitor (σ ε : Type) := Node → ExceptT ε (StateM σ) Unit

section Visitors

variable {σ ε : Type}

/-- What an action with a state comes to from a state. -/
def outcomeFrom (action : ExceptT ε (StateM σ) Unit) (start : σ) : Except ε Unit × σ := action.run.run start

/-- The visitor that also notes the nodes that it is called on, in order, also the one at which it fails. -/
def Visitor.noting (visit : Visitor σ ε) : Visitor (List Node × σ) ε := fun node (seen, start) =>
  ((outcomeFrom (visit node) start).1, (seen ++ [node], (outcomeFrom (visit node) start).2))

/-- The visitor is called on the nodes one after the other, and fails at none of them. -/
inductive Passes (visit : Visitor σ ε) : List Node → σ → σ → Prop
  | nil {start : σ} : Passes visit [] start start
  | cons {node : Node} {rest : List Node} {start next last : σ} :
      outcomeFrom (visit node) start = (.ok (), next) → Passes visit rest next last →
      Passes visit (node :: rest) start last

/-- What a visitor comes to that is called on nodes in order, up to the first one at which it fails: the nodes that
it is called on, the result, and the state that it leaves. -/
inductive Visits (visit : Visitor σ ε) (nodes : List Node) (start : σ) : List Node → Except ε Unit → σ → Prop
  | all {last : σ} : Passes visit nodes start last → Visits visit nodes start nodes (.ok ()) last
  | stopped {front back : List Node} {node : Node} {between last : σ} {error : ε} :
      nodes = front ++ node :: back → Passes visit front start between →
      outcomeFrom (visit node) between = (.error error, last) →
      Visits visit nodes start (front ++ [node]) (.error error) last

/-- The first call decides whether there are others. -/
theorem outcomeFrom_cons (visit : Visitor σ ε) (node : Node) (rest : List Node) (start : σ) :
    outcomeFrom (forM (node :: rest) visit) start
      = match outcomeFrom (visit node) start with
        | (.ok _, next) => outcomeFrom (forM rest visit) next
        | (.error error, last) => (.error error, last) := by
  rw [List.forM_cons]
  unfold outcomeFrom
  rw [ExceptT.run_bind, StateT.run_bind]
  show (match (visit node).run.run start with | (result, next) => _) = _
  cases (visit node).run.run start with
  | mk result next => cases result <;> rfl

/-- A first call that does not fail comes before those on the other nodes. -/
theorem Visits.cons {visit : Visitor σ ε} {node : Node} {rest seen : List Node} {start next last : σ}
    {result : Except ε Unit} (first : outcomeFrom (visit node) start = (.ok (), next))
    (h : Visits visit rest next seen result last) : Visits visit (node :: rest) start (node :: seen) result last := by
  cases h with
  | all passes => exact .all (.cons first passes)
  | stopped shape passes failed =>
    subst shape
    exact .stopped (List.cons_append ..).symm (.cons first passes) failed

/-- **A loop of a visitor** goes on up to the first node at which the visitor fails, and a visitor that notes its
calls has noted these and no others. -/
theorem forM_visits (visit : Visitor σ ε) (nodes : List Node) (start : σ) (noted : List Node) :
    ∃ seen result last, Visits visit nodes start seen result last
      ∧ outcomeFrom (forM nodes visit) start = (result, last)
      ∧ outcomeFrom (forM nodes visit.noting) (noted, start) = (result, (noted ++ seen, last)) := by
  induction nodes generalizing start noted with
  | nil =>
    refine ⟨[], .ok (), start, .all .nil, rfl, ?_⟩
    rw [List.append_nil]
    rfl
  | cons node rest ih =>
    have notes : outcomeFrom (visit.noting node) (noted, start)
        = ((outcomeFrom (visit node) start).1, (noted ++ [node], (outcomeFrom (visit node) start).2)) := rfl
    rw [outcomeFrom_cons, outcomeFrom_cons, notes]
    cases called : outcomeFrom (visit node) start with
    | mk result next =>
      cases result with
      | error error => exact ⟨[node], .error error, next, .stopped (List.nil_append _).symm .nil called, rfl, rfl⟩
      | ok done =>
        obtain ⟨seen, result, last, visits, ran, ranNoting⟩ := ih next (noted ++ [node])
        refine ⟨node :: seen, result, last, visits.cons called, ran, ?_⟩
        rw [List.append_assoc] at ranNoting
        exact ranNoting

end Visitors

/-! ## Labels -/

/-- The node is a composite with a label. -/
def Node.IsLabelled (node : Node) : Prop :=
  ∃ kind label convert inner, node = .composite kind (some label) convert inner

/-- Only composites have labels. -/
theorem Node.isLabelled_iff {node : Node} : node.IsLabelled ↔ ∃ label, node.label = some label := by
  constructor
  · rintro ⟨kind, label, convert, inner, rfl⟩
    exact ⟨label, rfl⟩
  · rintro ⟨label, labelled⟩
    cases node with
    | composite kind own convert inner =>
      cases labelled
      exact ⟨kind, label, convert, inner, rfl⟩
    | _ => cases labelled

section Labels

variable {kind : NodeKind}

/-- The loop that notes labels adds those of the nodes of the kind, in order, or ends at a node without one. -/
theorem forM_noteLabel (nodes : List Node) (noted : List String) :
    ((∀ node ∈ nodes, node.kind = kind → node.IsLabelled)
      ∧ ∃ labels, (forM nodes (noteLabel kind)).run noted = .ok ((), noted ++ labels)
        ∧ (nodes.filter fun node => node.kind = kind).map Node.label = labels.map some)
    ∨ ((∃ node ∈ nodes, node.kind = kind ∧ ¬ node.IsLabelled)
      ∧ (forM nodes (noteLabel kind)).run noted = .error (.missingLabel kind.name)) := by
  induction nodes generalizing noted with
  | nil =>
    refine .inl ⟨by simp, [], ?_, rfl⟩
    rw [List.append_nil]
    rfl
  | cons node rest ih =>
    rw [List.forM_cons, StateT.run_bind]
    by_cases own : node.kind = kind
    · cases labelled : node.label with
      | none =>
        have bare : ¬ node.IsLabelled := by
          rw [Node.isLabelled_iff, labelled]
          rintro ⟨label, none⟩
          cases none
        refine .inr ⟨⟨node, List.mem_cons_self, own, bare⟩, ?_⟩
        rw [noteLabel, if_pos own, labelled]
        rfl
      | some label =>
        have isLabelled : node.IsLabelled := Node.isLabelled_iff.mpr ⟨label, labelled⟩
        have step : (noteLabel kind node).run noted = .ok ((), noted ++ [label]) := by
          rw [noteLabel, if_pos own, labelled]
          rfl
        rw [step]
        rcases ih (noted ++ [label]) with ⟨all, labels, ran, listed⟩ | ⟨⟨other, mem, its, bare⟩, ran⟩
        · refine .inl ⟨List.forall_mem_cons.mpr ⟨fun _ => isLabelled, all⟩, label :: labels, ?_, ?_⟩
          · rw [List.append_assoc] at ran
            exact ran
          · rw [List.filter_cons_of_pos (by simpa using own), List.map_cons, List.map_cons, labelled, listed]
        · exact .inr ⟨⟨other, List.mem_cons_of_mem _ mem, its, bare⟩, ran⟩
    · have step : (noteLabel kind node).run noted = .ok ((), noted) := by
        rw [noteLabel, if_neg own]
        rfl
      rw [step]
      rcases ih noted with ⟨all, labels, ran, listed⟩ | ⟨⟨other, mem, its, bare⟩, ran⟩
      · refine .inl ⟨List.forall_mem_cons.mpr ⟨fun its => absurd its own, all⟩, labels, ran, ?_⟩
        rw [List.filter_cons_of_neg (by simpa using own), listed]
      · exact .inr ⟨⟨other, List.mem_cons_of_mem _ mem, its, bare⟩, ran⟩

/-- **The labels of a kind** are those of its nodes in the listing, with repetitions; a node of the kind without a
label is the only reason to fail. -/
theorem collectLabels_cases (root : Node) (kind : NodeKind) :
    ((∀ node ∈ root.listing, node.kind = kind → node.IsLabelled)
      ∧ ∃ labels, root.collectLabels kind = .ok labels
        ∧ (root.listing.filter fun node => node.kind = kind).map Node.label = labels.map some)
    ∨ ((∃ node ∈ root.listing, node.kind = kind ∧ ¬ node.IsLabelled)
      ∧ root.collectLabels kind = .error (.missingLabel kind.name)) := by
  rw [Node.collectLabels, Node.traverse_eq_forM]
  rcases forM_noteLabel root.listing [] with ⟨all, labels, ran, listed⟩ | ⟨bare, ran⟩
  · rw [ran]
    exact .inl ⟨all, labels, rfl, listed⟩
  · rw [ran]
    exact .inr ⟨bare, rfl⟩

end Labels

/-! ## Walks -/

/-- **A walk visits the listing, up to the first failure.** For every tree and every visitor, from any state: the
visitor is called on the nodes of the listing in order, up to and including the first one at which it fails, and on
no node after it; the walk gives its error, or success if there is none, and leaves its state. And the labels of a
kind are collected exactly if every node of this kind in the listing is a composite with a label; then they are those
labels in the order of the listing, with repetitions, and otherwise the error names the kind. -/
theorem walk_visits_listing (root : Node) :
    (∀ (σ ε : Type) (visit : Visitor σ ε) (start : σ), ∃ seen result last,
      Visits visit root.listing start seen result last
      ∧ outcomeFrom (root.traverse visit) start = (result, last)
      ∧ outcomeFrom (root.traverse visit.noting) ([], start) = (result, (seen, last)))
    ∧ ∀ kind : NodeKind,
      ((∃ labels, root.collectLabels kind = .ok labels)
        ↔ ∀ node ∈ root.listing, node.kind = kind → node.IsLabelled)
      ∧ (∀ labels, root.collectLabels kind = .ok labels →
        (root.listing.filter fun node => node.kind = kind).map Node.label = labels.map some)
      ∧ ∀ error, root.collectLabels kind = .error error → error = .missingLabel kind.name := by
  constructor
  · intro σ ε visit start
    rw [Node.traverse_eq_forM, Node.traverse_eq_forM]
    exact forM_visits visit root.listing start []
  · intro kind
    rcases collectLabels_cases root kind with ⟨all, labels, collected, listed⟩ | ⟨⟨node, mem, own, bare⟩, failed⟩
    · rw [collected]
      refine ⟨⟨fun _ => all, fun _ => ⟨labels, rfl⟩⟩, ?_, ?_⟩
      · rintro _ ⟨⟩
        exact listed
      · rintro error ⟨⟩
    · rw [failed]
      refine ⟨⟨?_, fun all => absurd (all node mem own) bare⟩, ?_, ?_⟩
      · rintro ⟨labels, ⟨⟩⟩
      · rintro labels ⟨⟩
      · rintro error ⟨⟩
        rfl

end DeviceConsole.Grammar
