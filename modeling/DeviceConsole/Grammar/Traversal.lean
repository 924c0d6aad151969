import DeviceConsole.Grammar.Node

/-!
# `Grammar.Traversal` — walks over grammar trees

The vocabulary of a grammar (command names, help topics) is read off the tree. A walk visits a node before its
parts, in order, and does not go into composites.

## Contents

* `Node.traverse` — runs an action at every node, in any monad;
* `Node.listing` — the nodes in the order of the walk;
* `Node.collectLabels` — the labels of all nodes of a kind;
* `Node.descendants` — every node, those inside composites included.
-/

namespace DeviceConsole.Grammar

/-- A node of a kind was to have a label and has none. -/
inductive GrammarError where
  | missingLabel (kind : String)
  deriving DecidableEq, Repr

/-- The wording of a grammar error. -/
def GrammarError.message : GrammarError → String
  | .missingLabel kind => kind ++ " node without a label"

/-! ## The walk -/

mutual

/-- Runs an action at a node and at its parts, composites taken as one. -/
def Node.traverse {m : Type → Type} [Monad m] (visit : Node → m Unit) : Node → m Unit
  | .alt members => do visit (.alt members); traverseAll visit members
  | .seq members => do visit (.seq members); traverseAll visit members
  | .optional inner => do visit (.optional inner); inner.traverse visit
  | .repeated inner => do visit (.repeated inner); inner.traverse visit
  | .primitive recogniser => visit (.primitive recogniser)
  | .composite kind label convert inner => visit (.composite kind label convert inner)

/-- Runs an action at several nodes and their parts. -/
def traverseAll {m : Type → Type} [Monad m] (visit : Node → m Unit) : List Node → m Unit
  | [] => pure ()
  | node :: rest => do node.traverse visit; traverseAll visit rest

end

mutual

/-- The nodes of a tree in the order of the walk. -/
def Node.listing : Node → List Node
  | .alt members => .alt members :: listingAll members
  | .seq members => .seq members :: listingAll members
  | .optional inner => .optional inner :: inner.listing
  | .repeated inner => .repeated inner :: inner.listing
  | .primitive recogniser => [.primitive recogniser]
  | .composite kind label convert inner => [.composite kind label convert inner]

/-- The nodes of several trees in the order of the walk. -/
def listingAll : List Node → List Node
  | [] => []
  | node :: rest => node.listing ++ listingAll rest

end

/-! ## Vocabularies -/

/-- Notes the label of a node of the kind. -/
def noteLabel (kind : NodeKind) (node : Node) : StateT (List String) (Except GrammarError) Unit :=
  if node.kind = kind then
    match node.label with
    | some label => modify (· ++ [label])
    | none => throw (.missingLabel kind.name)
  else pure ()

/-- The labels of all nodes of a kind, in the order of the walk. -/
def Node.collectLabels (root : Node) (kind : NodeKind) : Except GrammarError (List String) :=
  ((root.traverse (noteLabel kind)).run []).map Prod.snd

/-! ## All nodes -/

mutual

/-- The nodes of a tree before their parts, those inside composites included. -/
def Node.descendants : Node → List Node
  | .alt members => .alt members :: descendantsAll members
  | .seq members => .seq members :: descendantsAll members
  | .optional inner => .optional inner :: inner.descendants
  | .repeated inner => .repeated inner :: inner.descendants
  | .primitive recogniser => [.primitive recogniser]
  | .composite kind label convert inner =>
    .composite kind label convert inner :: inner.descendants

/-- The nodes of several trees, those inside composites included. -/
def descendantsAll : List Node → List Node
  | [] => []
  | node :: rest => node.descendants ++ descendantsAll rest

end

end DeviceConsole.Grammar
