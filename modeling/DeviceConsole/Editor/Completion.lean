import DeviceConsole.Backend.State
import DeviceConsole.Text.LowerCase

/-!
# `Editor.Completion` — words that can stand at the cursor

The grammar says which leaves can follow the tokens before the word at the cursor. Each leaf stands for some
words, and those that start with the word at the cursor are offered, in either case.

## Contents

* `Candidate` — a word that is offered;
* `classHint`, `epcBeforeColon` — what the tokens before the cursor say about the word there;
* `expand` — the words of a leaf;
* `candidates` — what is offered behind a text;
* `Suggestion`, `complete` — what is offered at a place in a line.
-/

namespace DeviceConsole.Editor

open Device (ClassCode Epc)
open Device.PropertyTable (epcName? knownEpcs propertyAliases valueAliases)
open Grammar (Expected Token commandGrammar commandNames splitLastWord tokenize)

/-- A word that is offered, maybe with a description. -/
structure Candidate where
  value : String
  description : Option String := none
  deriving DecidableEq, Repr

/-- Words without descriptions. -/
def plainCandidates (words : List String) : List Candidate := words.map fun word => ⟨word, none⟩

/-! ## Context -/

/-- The class that a token names, by its code or through an alias. -/
def classOfToken? (backend : Backend) : Token → Option ClassCode
  | .word _ text =>
    ClassCode.ofText? text <|> (backend.aliases.get? text).map fun device => device.eoj.classCode
  | _ => none

/-- The first class that a line names after its first token. -/
def classHint (backend : Backend) (tokens : List Token) : Option ClassCode :=
  (tokens.drop 1).findSome? (classOfToken? backend)

/-- The property code whose colon ends the tokens. -/
def epcBeforeColon (tokens : List Token) : Option Epc :=
  match tokens.reverse with
  | .endOfInput .. :: .colon _ :: .word _ text :: _ => Epc.ofText? text
  | _ => none

/-! ## Words -/

/-- Texts in ascending order, each once. -/
def ascending (texts : List String) : List String :=
  (texts.foldl (fun seen text => seen.insert text ()) (OrderedMap.empty : OrderedMap String Unit)).keys

/-- A property code with its name. -/
def epcCandidate (classCode : ClassCode) (epc : Epc) : Candidate :=
  ⟨epc.toText, epcName? classCode epc⟩

/-- The words of a leaf without a label. -/
def expandKind (backend : Backend) (tokens : List Token) (kind : Grammar.NodeKind) : List Candidate :=
  let classCode := classHint backend tokens
  let devices := backend.findDevices .any
  match kind with
  | .deviceAlias | .aliasName => plainCandidates backend.aliases.keys
  | .groupName => plainCandidates backend.groups.keys
  | .propertyAlias => plainCandidates (propertyAliases classCode)
  | .propertyValueAlias =>
    match epcBeforeColon tokens with
    | some epc => plainCandidates (valueAliases classCode epc)
    | none => []
  | .epc =>
    match classCode with
    | some classCode => (knownEpcs classCode).map (epcCandidate classCode)
    | none => []
  | .ipAddress => plainCandidates (ascending (devices.map fun device => device.ip.toText))
  | .classCode => plainCandidates (ascending (devices.map fun device => device.eoj.classCode.toText))
  | _ => []

/-- The words of a leaf: command words for a help topic, the label of a keyword, or words for its kind. -/
def expand (backend : Backend) (tokens : List Token) (expected : Expected) : List Candidate :=
  if expected.kind = .helpTopic then
    match commandNames with
    | .ok names => plainCandidates names
    | .error _ => []
  else match expected.label with
    | some label => plainCandidates [label]
    | none => expandKind backend tokens expected.kind

/-- Appends a candidate whose word is not there yet. -/
def addCandidate (found : List Candidate) (candidate : Candidate) : List Candidate :=
  if found.any fun other => other.value = candidate.value then found else found ++ [candidate]

/-- The word that ends a text, and what is offered for it. -/
def candidates (backend : Backend) (text : String) : String × List Candidate :=
  let (tokens, word) := splitLastWord (tokenize text)
  let words := (commandGrammar.candidates tokens).2.flatMap (expand backend tokens)
  let fitting := words.filter fun candidate => Text.startsWithIgnoringCase candidate.value word
  (word, fitting.foldl addCandidate [])

/-! ## Places in a line -/

/-- The characters that make up exactly the first `count` bytes. -/
def takeBytes? : Nat → List Char → Option (List Char)
  | 0, _ => some []
  | _ + 1, [] => none
  | count + 1, c :: rest =>
    if c.utf8Size ≤ count + 1 then (takeBytes? (count + 1 - c.utf8Size) rest).map (c :: ·) else none

/-- A candidate with the bytes of the line that it replaces. A blank follows it. -/
structure Suggestion where
  candidate : Candidate
  first : Nat
  last : Nat
  deriving DecidableEq, Repr

/-- What is offered at a byte of a line. A place inside a character or past the end counts as the end. -/
def complete (backend : Backend) (line : String) (place : Nat) : List Suggestion :=
  let before := ((takeBytes? place line.toList).map String.ofList).getD line
  let (word, offered) := candidates backend before
  offered.map fun candidate => ⟨candidate, place - word.utf8ByteSize, place⟩

end DeviceConsole.Editor
