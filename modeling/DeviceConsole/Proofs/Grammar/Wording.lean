import DeviceConsole.Proofs.Grammar.Assembly
import DeviceConsole.Proofs.Text.Numerals
import Mathlib.Data.List.Forall2

/-!
# `Proofs.Grammar.Wording` — a match says what the line says

The conversions of the grammar drop colons, option words and skipped parts, and read numbers out of digits. Nothing
that a line says is lost on the way: the pieces of a match can be written down again, and they are the words and
colons that were matched. A line is free only in the case of hexadecimal digits, in the zeros in front of an instance
number and in the form of an address.

* `Piece`, `Matched.pieces` — what a match says, one word or colon after the other;
* `Piece.WrittenAs` — the ways to write a piece;
* `Node.Faithful` — nodes whose results say what was matched, with one rule for every sort of node;
* `faithful_commandGrammar`, `match_says_line` — and the whole grammar is such a node.
-/

namespace DeviceConsole.Grammar

open Device (ClassCode Epc)

/-! ## Pieces of a match -/

/-- A word or a colon that a match stands for. -/
inductive Piece where
  | word (text : String)
  | colon
  | classCode (code : ClassCode)
  | instanceCode (number : Nat)
  | epc (code : Epc)
  | edt (bytes : List UInt8)
  | address (ip : Net.IpAddress)

/-- The piece in its canonical form: digits in upper case and no zeros in front. -/
def Piece.mark : Piece → Mark
  | .word text => .word text
  | .colon => .colon
  | .classCode code => .word code.toText
  | .instanceCode number => .word (String.ofList (Text.Decimal.write number))
  | .epc code => .word code.toText
  | .edt bytes => .word (Device.edtText bytes)
  | .address ip => .word ip.toText

/-- **The ways to write a piece.** Hexadecimal digits may stand in either case, an instance number may have zeros in
front, and an address any form that is read as this address. Nothing else may differ from the canonical form. -/
def Piece.WrittenAs (piece : Piece) (mark : Mark) : Prop :=
  match piece with
  | .word _ | .colon => mark = piece.mark
  | .classCode _ | .epc _ | .edt _ => ∃ own, mark = .word own ∧ .word own.toUpper = piece.mark
  | .instanceCode number =>
    ∃ zeros, mark = .word (String.ofList (List.replicate zeros '0' ++ Text.Decimal.write number))
  | .address ip => ∃ own, mark = .word own ∧ Net.IpAddress.ofText? own = some ip

/-- An instance number, if there is one, stands behind a colon. -/
def instancePieces (number : Option Nat) : List Piece :=
  match number with
  | some number => [.colon, .instanceCode number]
  | none => []

/-- What a device as written says: `address [class[:instance]]`, `class[:instance]` or a name. -/
def DeviceArg.pieces : DeviceArg → List Piece
  | .address ip classCode number =>
    (ip.map Piece.address).toList ++ ((classCode.map Piece.classCode).toList ++ instancePieces number)
  | .aliased name => [.word name]
  | .group name => [.word name]

/-- What a property as written says: `EPC:value` or a name. -/
def PropertyArg.pieces : PropertyArg → List Piece
  | .raw code edt => [.epc code, .colon, .edt edt]
  | .valueAlias code name => [.epc code, .colon, .word name]
  | .aliased name => [.word name]

mutual

/-- What a match says, from left to right. -/
def Matched.pieces : Matched → List Piece
  | .seq parts => piecesOfAll parts
  | .repeated items => piecesOfAll items
  | .skipped => []
  | .word text => [.word text]
  | .colon => [.colon]
  | .keyword _ label => [.word label]
  | .name _ text => [.word text]
  | .ip address => [.address address]
  | .classCode code => [.classCode code]
  | .instanceCode number => [.instanceCode number]
  | .eoj code number => .classCode code :: instancePieces number
  | .device arg => arg.pieces
  | .epc code => [.epc code]
  | .edt bytes => [.edt bytes]
  | .property arg => arg.pieces
  | .groupBy code => [.word "-group-by", .epc code]

/-- What several matches say, one after the other. -/
def piecesOfAll : List Matched → List Piece
  | [] => []
  | part :: rest => part.pieces ++ piecesOfAll rest

end

/-! ## Words that are read as values -/

section Values

variable {text : String}

theorem toUpper_eq_ofList (text : String) : text.toUpper = String.ofList (text.toList.map Char.toUpper) := by
  rw [← String.toList_map, String.ofList_toList]
  rfl

theorem writtenAs_classCode {code : ClassCode} (h : ClassCode.ofText? text = some code) :
    (Piece.classCode code).WrittenAs (.word text) := by
  obtain ⟨value, read, rfl⟩ := Option.map_eq_some_iff.mp h
  have small : value < 2 ^ 16 := Text.Hex.lt_of_readNumber? read
  refine ⟨text, rfl, ?_⟩
  rw [Piece.mark, toUpper_eq_ofList, ClassCode.toText, UInt16.toNat_ofNat', Nat.mod_eq_of_lt small,
    Text.Hex.fixed_of_readNumber? read]

theorem writtenAs_epc {code : Epc} (h : Epc.ofText? text = some code) : (Piece.epc code).WrittenAs (.word text) := by
  obtain ⟨value, read, rfl⟩ := Option.map_eq_some_iff.mp h
  have small : value < 2 ^ 8 := Text.Hex.lt_of_readNumber? read
  refine ⟨text, rfl, ?_⟩
  rw [Piece.mark, toUpper_eq_ofList, Epc.toText, UInt8.toNat_ofNat', Nat.mod_eq_of_lt small,
    Text.Hex.fixed_of_readNumber? read]

theorem writtenAs_edt {bytes : List UInt8} (h : Device.readEdt? text.toList = some bytes) :
    (Piece.edt bytes).WrittenAs (.word text) := by
  have read : Text.Hex.readBytes? text.toList = some bytes := by
    unfold Device.readEdt? at h
    split at h
    · cases h
    · exact h
  refine ⟨text, rfl, ?_⟩
  rw [Piece.mark, toUpper_eq_ofList, Device.edtText, Text.Hex.writeBytes_of_readBytes? read]

theorem writtenAs_instanceCode {number : Nat} (h : Text.Decimal.readDigits? text.toList = some number) :
    (Piece.instanceCode number).WrittenAs (.word text) := by
  obtain ⟨zeros, digits⟩ := Text.Decimal.eq_write_of_readDigits? h
  refine ⟨zeros, ?_⟩
  rw [← digits, String.ofList_toList]

end Values

/-! ## Faithful nodes -/

/-- The marks write the pieces, one mark a piece. -/
def Writes (pieces : List Piece) (marks : List Mark) : Prop := List.Forall₂ Piece.WrittenAs pieces marks

theorem Writes.append {first second : List Piece} {front back : List Mark} (h : Writes first front)
    (h' : Writes second back) : Writes (first ++ second) (front ++ back) := List.rel_append h h'

/-- Whatever the node takes, its result says it. -/
def Node.Faithful (node : Node) : Prop := ∀ taken result, node.Took taken result → Writes result.pieces taken

namespace Node.Faithful

variable {first inner : Node} {nodes : List Node} {kind : NodeKind} {label : Option String}
  {convert : Matched → Option Matched}

theorem alt_nil : (Node.alt []).Faithful := fun _ _ took => took.elim

theorem alt_cons (h : first.Faithful) (others : (Node.alt nodes).Faithful) : (Node.alt (first :: nodes)).Faithful := by
  intro taken result took
  rcases took with took | took
  · exact h taken result took
  · exact others taken result took

theorem seq_nil : (Node.seq []).Faithful := by
  rintro taken result ⟨parts, rfl, rfl, rfl⟩
  exact .nil

theorem seq_cons (h : first.Faithful) (others : (Node.seq nodes).Faithful) : (Node.seq (first :: nodes)).Faithful := by
  rintro taken result ⟨_, rfl, front, one, back, rest, rfl, rfl, took, tookRest⟩
  have behind : Writes (piecesOfAll rest) back := others back (.seq rest) ⟨rest, rfl, tookRest⟩
  exact (h front one took).append behind

theorem optional (h : inner.Faithful) : (Node.optional inner).Faithful := by
  intro taken result took
  rcases took with ⟨rfl, rfl⟩ | took
  · exact .nil
  · exact h taken result took

theorem repeated (h : inner.Faithful) : (Node.repeated inner).Faithful := by
  rintro taken result ⟨rounds, rfl, rfl, each⟩
  show Writes (piecesOfAll (rounds.map Prod.snd)) _
  induction rounds with
  | nil => exact .nil
  | cons round rest ih =>
    have now := h round.1 round.2 (each round List.mem_cons_self)
    have later := ih fun other mem => each other (List.mem_cons_of_mem _ mem)
    rw [List.map_cons, piecesOfAll, List.flatMap_cons]
    exact now.append later

/-- A composite over a word is faithful if its conversion keeps what the word says. -/
theorem ofWord (h : ∀ text result, convert (.word text) = some result → Writes result.pieces [.word text]) :
    (Node.composite kind label convert (.primitive .word)).Faithful := by
  intro taken result took
  obtain ⟨text, rfl, converted⟩ := took_word took
  exact h text result converted

end Node.Faithful

/-! ## Words of the grammar -/

section Words

theorem writes_single {piece : Piece} {mark : Mark} (h : piece.WrittenAs mark) : Writes [piece] [mark] :=
  .cons h .nil

theorem faithful_word {kind : NodeKind} {label : String} : (wordNode kind label).Faithful := by
  intro taken result took
  obtain ⟨rfl, rfl⟩ := took_keyword took
  exact writes_single rfl

theorem faithful_groupName : groupNameNode.Faithful := by
  intro taken result took
  obtain ⟨name, rfl, rfl⟩ := took_groupName took
  exact writes_single rfl

theorem faithful_aliasName : aliasNameNode.Faithful := by
  intro taken result took
  obtain ⟨name, rfl, rfl⟩ := took_aliasName took
  exact writes_single rfl

theorem faithful_epc : epcNode.Faithful := by
  refine .ofWord fun text result converted => ?_
  obtain ⟨code, read, rfl⟩ := Option.map_eq_some_iff.mp converted
  exact writes_single (writtenAs_epc read)

/-! ### Names -/

/-- A name is kept as it is typed. -/
theorem faithful_of_name {kind own : NodeKind} {label : Option String} {convert : Matched → Option Matched}
    (h : ∀ text result, convert (.word text) = some result → result = .name own text) :
    (Node.composite kind label convert (.primitive .word)).Faithful := by
  refine .ofWord fun text result converted => ?_
  rw [h text result converted]
  exact writes_single rfl

end Words

/-! ## Arguments of the grammar -/

section Arguments

/-- A class code is written with its digits, and an instance number behind a colon. -/
theorem ObjectForm.writes {taken : List Mark} {code : ClassCode} {number : Option Nat}
    (h : ObjectForm taken code number) : Writes (.classCode code :: instancePieces number) taken := by
  cases h with
  | bare isCode => exact writes_single (writtenAs_classCode isCode)
  | numbered isCode _ isNumber =>
    exact .cons (writtenAs_classCode isCode) (.cons rfl (writes_single (writtenAs_instanceCode isNumber)))

/-- A device is written as an address with or without an object, as an object, or as its name. -/
theorem faithful_device : deviceNode.Faithful := by
  intro taken result took
  obtain ⟨arg, rfl, form⟩ := deviceForm_of_took took
  cases form with
  | address isAddress => exact writes_single ⟨_, rfl, isAddress⟩
  | placed isAddress form => exact .cons ⟨_, rfl, isAddress⟩ form.writes
  | anywhere form => exact form.writes
  | group => exact writes_single rfl
  | aliased => exact writes_single rfl

/-- A property is written as its code, a colon and its value, or as its name. -/
theorem faithful_property : propertyNode.Faithful := by
  intro taken result took
  obtain ⟨arg, rfl, form⟩ := propertyForm_of_took took
  cases form with
  | raw isCode isValue => exact .cons (writtenAs_epc isCode) (.cons rfl (writes_single (writtenAs_edt isValue)))
  | valueAlias _ isCode => exact .cons (writtenAs_epc isCode) (.cons rfl (writes_single rfl))
  | aliased => exact writes_single rfl

theorem faithful_groupBy : groupByNode.Faithful := by
  rintro taken result ⟨found, ⟨_, rfl, _, _, _, _, rfl, rfl, option, _, _, _, _, rfl, rfl, second, rfl, rfl⟩, converted⟩
  obtain ⟨rfl, rfl⟩ := took_keyword option
  obtain ⟨digits, rfl, read⟩ := took_word second
  obtain ⟨code, readCode, rfl⟩ := Option.map_eq_some_iff.mp read
  cases converted
  exact .cons rfl (writes_single (writtenAs_epc readCode))

end Arguments

/-! ## The grammar of the console -/

/-- Faithful nodes stay faithful when they are put together, and the arguments are faithful. -/
theorem assembles_faithful : Assembles Node.Faithful where
  altNil := .alt_nil
  altCons := .alt_cons
  seqNil := .seq_nil
  seqCons := .seq_cons
  optional := .optional
  repeated := .repeated
  word := faithful_word
  device := faithful_device
  property := faithful_property
  epc := faithful_epc
  groupBy := faithful_groupBy
  groupName := faithful_groupName
  aliasName := faithful_aliasName
  topic := faithful_of_name fun _ _ => Conversion.name_of_anyName

/-- **The grammar of the console is faithful**: every match says what was matched. -/
theorem faithful_commandGrammar : commandGrammar.Faithful := assembles_faithful.commandGrammar

/-! ## What the line says -/

/-- The same, or two ways to write one piece. -/
def Mark.Alike (first second : Mark) : Prop :=
  first = second ∨ ∃ piece : Piece, piece.WrittenAs first ∧ piece.WrittenAs second

/-- What writes the same pieces is alike. -/
theorem alike_of_writes {pieces : List Piece} {front back : List Mark} (h : Writes pieces front)
    (h' : Writes pieces back) : List.Forall₂ Mark.Alike front back := by
  induction h generalizing back with
  | nil =>
    cases h'
    exact .nil
  | @cons piece _ _ _ written _ ih =>
    cases h' with
    | cons other rest => exact .cons (.inr ⟨piece, written, other⟩) (ih rest)

/-- **A match says what was matched.** Whatever tokens a match of the grammar took, its pieces are written by these
tokens, one each and in order; and lines that give the same match are alike from the first word to the end. -/
theorem match_says_line :
    (∀ {tokens : List Token} {matched : Matched} {consumed : Nat},
      commandGrammar.matchTokens tokens = some (matched, consumed) →
      consumed ≤ tokens.length ∧ Writes matched.pieces (marks (tokens.take consumed)))
    ∧ ∀ {line other : String} {matched : Matched}, parseTokens (tokenize line) = .ok matched →
      parseTokens (tokenize other) = .ok matched →
      List.Forall₂ Mark.Alike (marks (tokenize line)) (marks (tokenize other)) := by
  constructor
  · intro tokens matched consumed found
    obtain ⟨enough, took⟩ := commandGrammar.took_of_matchTokens found
    exact ⟨enough, faithful_commandGrammar _ _ took⟩
  · intro line other matched accepted same
    obtain ⟨front, shape, took⟩ := front_of_parseTokens rfl accepted
    obtain ⟨back, otherShape, otherTook⟩ := front_of_parseTokens rfl same
    rw [shape, otherShape]
    have alike := alike_of_writes (faithful_commandGrammar _ _ took) (faithful_commandGrammar _ _ otherTook)
    have ends : List.Forall₂ Mark.Alike [.stop] [.stop] := .cons (.inl rfl) .nil
    exact List.rel_append alike ends

/-- A class code in either case and zeros in front of an instance number are all that two lines for one command
differ in. -/
theorem match_says_line_set :
    let matched : Matched := .seq [.keyword .command "set",
      .device (.address none (some ⟨0x0EF0⟩) (some 7)),
      .repeated [.property (.raw ⟨0xB0⟩ [0x3A]), .property (.valueAlias ⟨0x80⟩ "on"), .property (.aliased "off")]]
    commandGrammar.matchTokens (tokenize "set 0ef0:007 b0:3a 80:on off") = some (matched, 11)
    ∧ Writes matched.pieces (marks ((tokenize "set 0ef0:007 b0:3a 80:on off").take 11))
    ∧ parseTokens (tokenize "set 0ef0:007 b0:3a 80:on off") = .ok matched
    ∧ parseTokens (tokenize "set 0EF0:7  B0:3A 80:on off") = .ok matched
    ∧ List.Forall₂ Mark.Alike (marks (tokenize "set 0ef0:007 b0:3a 80:on off"))
      (marks (tokenize "set 0EF0:7  B0:3A 80:on off")) := by
  intro matched
  have found : commandGrammar.matchTokens (tokenize "set 0ef0:007 b0:3a 80:on off") = some (matched, 11) := rfl
  have lower : parseTokens (tokenize "set 0ef0:007 b0:3a 80:on off") = .ok matched := rfl
  have capital : parseTokens (tokenize "set 0EF0:7  B0:3A 80:on off") = .ok matched := rfl
  exact ⟨found, (match_says_line.1 found).2, lower, capital, match_says_line.2 lower capital⟩

end DeviceConsole.Grammar
