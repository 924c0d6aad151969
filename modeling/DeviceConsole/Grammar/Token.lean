import DeviceConsole.Text.Decimal
import DeviceConsole.Text.Quoted

/-!
# `Grammar.Token` — words and colons of a command line

A line is cut into words, which are maximal runs of characters other than space, tab and colon, and single
colons. Every token knows the column (in characters) at which it starts, and a last token marks the end of the
line together with the blanks before it.

## Contents

* `Token` — the tokens, with `position`, `text` and `toText`;
* `tokenize` — the tokens of a line;
* `splitLastWord` — takes away the word that is still being typed.
-/

namespace DeviceConsole.Grammar

/-! ## Tokens -/

/-- A token of a command line and the column at which it starts. -/
inductive Token where
  | word (position : Nat) (text : String)
  | colon (position : Nat)
  | endOfInput (position : Nat) (blanks : String)
  deriving DecidableEq, Repr

namespace Token

/-- The column at which the token starts. -/
def position : Token → Nat
  | word position _ => position
  | colon position => position
  | endOfInput position _ => position

/-- The text of the token; for the end of a line the blanks before it. -/
def text : Token → String
  | word _ text => text
  | colon _ => ":"
  | endOfInput _ blanks => blanks

/-- The name of the token's sort. -/
def sort : Token → String
  | word .. => "Word"
  | colon .. => "Colon"
  | endOfInput .. => "EndOfInput"

/-- Whether the token marks the end of the line. -/
def isEnd : Token → Bool
  | endOfInput .. => true
  | _ => false

/-- Whether the token is a word. -/
def isWord : Token → Bool
  | word .. => true
  | _ => false

/-- The token for messages: a word in quotes, and the column. -/
def toText (token : Token) : String :=
  let place := "@" ++ String.ofList (Text.Decimal.write token.position)
  match token with
  | word _ text => "Word(" ++ Text.Quoted.quote text ++ ")" ++ place
  | colon _ => "Colon" ++ place
  | endOfInput .. => "EOF" ++ place

end Token

/-! ## Cutting a line -/

/-- Whether the character separates words and is no token itself. -/
def isBlank (c : Char) : Bool := c == ' ' || c == '\t'

/-- Whether the character can stand in a word. -/
def isWordChar (c : Char) : Bool := !isBlank c && c != ':'

/-- The tokens of a line that has one more character in front: a blank joins the blanks before the end of the
line if nothing else follows, a colon is a token, and any other character joins the word that follows it
directly or is a word. -/
def consChar (position : Nat) (c : Char) (tokens : List Token) : List Token :=
  if isBlank c then
    match tokens with
    | [.endOfInput stop blanks] => [.endOfInput stop (String.ofList (c :: blanks.toList))]
    | _ => tokens
  else if c == ':' then .colon position :: tokens
  else
    match tokens with
    | .word start text :: rest =>
      if start = position + 1 then .word position (String.ofList (c :: text.toList)) :: rest
      else .word position (String.ofList [c]) :: tokens
    | _ => .word position (String.ofList [c]) :: tokens

/-- The tokens of a line whose first character stands at `position`. -/
def tokenizeFrom (position : Nat) : List Char → List Token
  | [] => [.endOfInput position ""]
  | c :: rest => consChar position c (tokenizeFrom (position + 1) rest)

/-- The tokens of a line. -/
def tokenize (line : String) : List Token := tokenizeFrom 0 line.toList

/-! ## The word being typed -/

/-- Takes away a word that ends the line without a blank after it, and gives that word. The end of the line moves
to where the word was. -/
def splitLastWord (tokens : List Token) : List Token × String :=
  match tokens.reverse with
  | .endOfInput stop blanks :: .word position text :: before =>
    if blanks.isEmpty then ((Token.endOfInput position "" :: before).reverse, text)
    else ((Token.endOfInput stop blanks :: .word position text :: before).reverse, "")
  | others => (others.reverse, "")

end DeviceConsole.Grammar
