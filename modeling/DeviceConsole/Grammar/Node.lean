import DeviceConsole.Grammar.Matched
import DeviceConsole.Grammar.Token

/-!
# `Grammar.Node` — grammar trees and matching

A grammar is a tree. Alternatives, sequences, optional parts and repetitions combine other nodes; primitives
recognise tokens; a composite gives its inner node a kind, maybe a label, and a conversion of the result, which
may refuse it. Matching takes the longest walk that ordered choice allows: the first alternative that matches
counts, and optional parts and repetitions take as much as they can.

## Contents

* `Node` — the trees, with `kind`, `label`, `isLeaf` and `describe`;
* `Node.matchTokens` — the result of a match at the front of a token list, and how many tokens it took.
-/

namespace DeviceConsole.Grammar

/-! ## Trees -/

/-- What recognises tokens: a word, a colon, or a colon with a word after it. -/
inductive Primitive where
  | word
  | colon
  | colonWord
  deriving DecidableEq, Repr

/-- A grammar tree. -/
inductive Node where
  | alt (members : List Node)
  | seq (members : List Node)
  | optional (inner : Node)
  | repeated (inner : Node)
  | primitive (recogniser : Primitive)
  | composite (kind : NodeKind) (label : Option String) (convert : Matched → Option Matched)
      (inner : Node)

/-- The kind of a recogniser. -/
def Primitive.kind : Primitive → NodeKind
  | word => .word
  | colon => .colon
  | colonWord => .colonWord

namespace Node

/-- The kind of a node. -/
def kind : Node → NodeKind
  | alt _ => .alt
  | seq _ => .seq
  | optional _ => .optional
  | repeated _ => .repeated
  | primitive recogniser => recogniser.kind
  | composite kind _ _ _ => kind

/-- The label of a node; only composites have one. -/
def label : Node → Option String
  | composite _ label _ _ => label
  | _ => none

/-- Whether the node is a recogniser. -/
def isPrimitive : Node → Bool
  | primitive _ => true
  | _ => false

/-- Whether the node is one unit for completion: a recogniser, or a composite over one. -/
def isLeaf : Node → Bool
  | primitive _ => true
  | composite _ _ _ inner => inner.isPrimitive
  | _ => false

mutual

/-- A listing of the tree; composites show their kind and label and hide what is inside. -/
def describe : Node → String
  | alt members => "Alt([" ++ ", ".intercalate (describeAll members) ++ "])"
  | seq members => "Seq([" ++ ", ".intercalate (describeAll members) ++ "])"
  | optional inner => "Optional(" ++ inner.describe ++ ")"
  | repeated inner => "Repeat(" ++ inner.describe ++ ")"
  | primitive recogniser => "Primitive(" ++ recogniser.kind.identifier ++ ")"
  | composite kind label _ _ =>
    let labelText := match label with
      | some label => "Some(" ++ Text.Quoted.quote label ++ ")"
      | none => "None"
    "Composite(Composite \x7b kind: " ++ kind.identifier ++ ", label: " ++ labelText ++ ", .. \x7d)"

/-- A listing of several trees. -/
def describeAll : List Node → List String
  | [] => []
  | node :: rest => node.describe :: describeAll rest

end

end Node

/-! ## Matching -/

/-- Matches a recogniser at the front of the tokens. -/
def Primitive.matchTokens : Primitive → List Token → Option (Matched × Nat)
  | word, .word _ text :: _ => some (.word text, 1)
  | colon, .colon _ :: _ => some (.colon, 1)
  | colonWord, .colon _ :: .word _ text :: _ => some (.word text, 2)
  | _, _ => none

/-- Carries out a match again and again while it takes tokens, at most `rounds` times. -/
def matchRepeatedly (step : List Token → Option (Matched × Nat)) :
    Nat → List Token → List Matched × Nat
  | 0, _ => ([], 0)
  | rounds + 1, tokens =>
    match step tokens with
    | none => ([], 0)
    | some (result, consumed) =>
      if consumed = 0 then ([], 0)
      else
        let (results, more) := matchRepeatedly step rounds (tokens.drop consumed)
        (result :: results, consumed + more)

mutual

/-- Matches a node at the front of the tokens: the result and the number of tokens taken. A repetition needs no
more rounds than there are tokens, since each takes one. -/
def Node.matchTokens : Node → List Token → Option (Matched × Nat)
  | .alt members, tokens => matchFirst members tokens
  | .seq members, tokens =>
    (matchAll members tokens).map fun (results, consumed) => (.seq results, consumed)
  | .optional inner, tokens => some ((inner.matchTokens tokens).getD (.skipped, 0))
  | .repeated inner, tokens =>
    let (results, consumed) :=
      matchRepeatedly (fun tokens => inner.matchTokens tokens) tokens.length tokens
    if results.isEmpty then none else some (.repeated results, consumed)
  | .primitive recogniser, tokens => recogniser.matchTokens tokens
  | .composite _ _ convert inner, tokens =>
    match inner.matchTokens tokens with
    | none => none
    | some (result, consumed) => (convert result).map (·, consumed)

/-- The match of the first node that matches. -/
def matchFirst : List Node → List Token → Option (Matched × Nat)
  | [], _ => none
  | node :: rest, tokens =>
    match node.matchTokens tokens with
    | some found => some found
    | none => matchFirst rest tokens

/-- The matches of all nodes, one after the other. -/
def matchAll : List Node → List Token → Option (List Matched × Nat)
  | [], _ => some ([], 0)
  | node :: rest, tokens =>
    match node.matchTokens tokens with
    | none => none
    | some (result, consumed) =>
      (matchAll rest (tokens.drop consumed)).map fun (results, more) =>
        (result :: results, consumed + more)

end

/-! ### Matching, sort by sort -/

section Equations

variable (node inner : Node) (nodes : List Node) (tokens : List Token)

theorem Node.matchTokens_alt : (Node.alt nodes).matchTokens tokens = matchFirst nodes tokens := rfl

theorem Node.matchTokens_seq : (Node.seq nodes).matchTokens tokens
    = (matchAll nodes tokens).map fun (results, consumed) => (.seq results, consumed) := rfl

theorem Node.matchTokens_optional : (Node.optional inner).matchTokens tokens
    = some ((inner.matchTokens tokens).getD (.skipped, 0)) := rfl

theorem Node.matchTokens_repeated : (Node.repeated inner).matchTokens tokens
    = (let (results, consumed) :=
        matchRepeatedly (fun tokens => inner.matchTokens tokens) tokens.length tokens
      if results.isEmpty then none else some (.repeated results, consumed)) := rfl

theorem Node.matchTokens_primitive (recogniser : Primitive) :
    (Node.primitive recogniser).matchTokens tokens = recogniser.matchTokens tokens := rfl

theorem Node.matchTokens_composite (kind : NodeKind) (label : Option String)
    (convert : Matched → Option Matched) : (Node.composite kind label convert inner).matchTokens tokens
    = match inner.matchTokens tokens with
      | none => none
      | some (result, consumed) => (convert result).map (·, consumed) := rfl

theorem matchFirst_cons : matchFirst (node :: nodes) tokens
    = match node.matchTokens tokens with
      | some found => some found
      | none => matchFirst nodes tokens := rfl

theorem matchAll_cons : matchAll (node :: nodes) tokens
    = match node.matchTokens tokens with
      | none => none
      | some (result, consumed) =>
        (matchAll nodes (tokens.drop consumed)).map fun (results, more) =>
          (result :: results, consumed + more) := rfl

end Equations

end DeviceConsole.Grammar
