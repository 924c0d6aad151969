import DeviceConsole.Distinct
import DeviceConsole.Grammar.Node

/-!
# `Grammar.Candidates` — what can follow a beginning of a line

The walk is that of matching. Where it stops, the leaves that would have gone on are expected; a sequence also
expects what the members skipped on the way could have taken, and alternatives keep those that got furthest.

## Contents

* `Expected` — kind and label of an expected leaf;
* `columnAt` — the column of a token or of the end of the line;
* `Node.candidates` — the column at which the walk stopped and the leaves expected there.
-/

namespace DeviceConsole.Grammar

/-- A leaf that could come next. -/
structure Expected where
  kind : NodeKind
  label : Option String
  deriving DecidableEq, Repr

/-- The label, or the name of the kind. -/
def Expected.toText (expected : Expected) : String := expected.label.getD expected.kind.name

/-- The column of the token at an index, or of the end of the line past the last token. -/
def columnAt (tokens : List Token) (index : Nat) : Nat :=
  match tokens[index]? with
  | some token => token.position
  | none =>
    match tokens.getLast? with
    | some (.endOfInput position _) => position
    | some token => token.position + token.text.length
    | none => 0

/-- A leaf expects itself where it does not match. -/
def leafCandidates (leaf : Node) (tokens : List Token) : Nat × List Expected :=
  match leaf.matchTokens tokens with
  | some (_, consumed) => (columnAt tokens consumed, [])
  | none => (columnAt tokens 0, [⟨leaf.kind, leaf.label⟩])

/-- Of two walks the one that got further; of equals the expectations of both. -/
def further (best found : Nat × List Expected) : Nat × List Expected :=
  if best.1 < found.1 then found
  else if found.1 = best.1 then (best.1, addAllNew best.2 found.2)
  else best

mutual

/-- The column at which the walk of a node stops, and the leaves expected there. -/
def Node.candidates : Node → List Token → Nat × List Expected
  | .primitive recogniser, tokens => leafCandidates (.primitive recogniser) tokens
  | .composite kind label convert inner, tokens =>
    if inner.isPrimitive then leafCandidates (.composite kind label convert inner) tokens
    else inner.candidates tokens
  | .optional inner, tokens => inner.candidates tokens
  | .repeated inner, tokens => inner.candidates tokens
  | .alt members, tokens => furthestCandidates members tokens (0, [])
  | .seq members, tokens =>
    let (index, expected) := sequenceCandidates members tokens []
    (columnAt tokens index, expected)

/-- The furthest of the walks of several nodes and of one known before. -/
def furthestCandidates : List Node → List Token → Nat × List Expected → Nat × List Expected
  | [], _, best => best
  | node :: rest, tokens, best => furthestCandidates rest tokens (further best (node.candidates tokens))

/-- The walk of nodes one after the other: the number of tokens passed, and the leaves expected there, which
include those expected before as long as nothing is passed. -/
def sequenceCandidates : List Node → List Token → List Expected → Nat × List Expected
  | [], _, expected => (0, expected)
  | node :: rest, tokens, expected =>
    match node.matchTokens tokens with
    | none => (0, addAllNew expected (node.candidates tokens).2)
    | some (_, consumed) =>
      if consumed = 0 then sequenceCandidates rest tokens (addAllNew expected (node.candidates tokens).2)
      else
        let (index, expected) := sequenceCandidates rest (tokens.drop consumed) []
        (consumed + index, expected)

end

end DeviceConsole.Grammar
