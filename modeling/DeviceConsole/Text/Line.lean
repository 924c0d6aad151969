import DeviceConsole.Text.Emoji
import DeviceConsole.Text.Width

/-!
# `Text.Line` — how many columns a line takes on a terminal

A line takes the columns of its characters, but for sequences that are shown as one: pictographs with selectors,
skin tones and joiners, and the letters of some scripts that grow into one form. The columns are counted from the
end of the line, so that every character is met after what it may be one with.

## Contents

* `Script`, `Sequence`, `Selector`, `Ahead` — what stands after a character, as far as its columns hang on it;
* `Sequence.ofChar` — what a character is for the one before it;
* `Script.extend`, `Sequence.extend` — a character before letters and before a picture;
* `advance` — the columns of a character, given what stands after it;
* `lineWidth` — the columns of a line.
-/

namespace DeviceConsole.Text

/-! ## What stands ahead -/

/-- The end of a form that letters of a script may make together. -/
inductive Script where
  | arabicAlef
  | hebrewLamed
  | bugineseYa
  | bugineseVowelYa
  | tifinaghConsonant
  | tifinaghJoined
  | lisuTone
  | turkicI
  | khmerLetter
  | kiratE
  | kiratAi
  deriving DecidableEq, Repr

/-- The end of a sequence: letters, with a joiner before them or not, or the parts of a picture. -/
inductive Sequence where
  | plain
  | letters (script : Script) (joined : Bool)
  | picture
  | tone
  | flagLetter
  | flag
  | joinedPicture
  | joinedKeycap
  | joinedFlagLetter
  | joinedFlag (even : Bool)
  | joinedTag (count : Nat)
  | joinedDigits (count : Nat)
  deriving DecidableEq, Repr

/-- Asks for the text form, the picture, or the wide form of the character before it. -/
inductive Selector where
  | text
  | picture
  | wide
  deriving DecidableEq, Repr

/-- The selector right after a character, and the sequence after that. -/
structure Ahead where
  selector : Option Selector
  sequence : Sequence
  deriving DecidableEq, Repr

namespace Ahead

/-- What stands at the end of a line. -/
def nothing : Ahead := ⟨none, .plain⟩

/-- A sequence with no selector before it. -/
def bare (sequence : Sequence) : Ahead := ⟨none, sequence⟩

/-- Puts a selector in front. Letters grow together across selectors; of pictures only those that a joiner or a
keycap stands before wait for their selected character. -/
def select (ahead : Ahead) (selector : Selector) : Ahead :=
  match ahead.sequence, selector with
  | .letters .., _ | .joinedPicture, .picture | .joinedKeycap, .picture => ⟨some selector, ahead.sequence⟩
  | _, _ => ⟨some selector, .plain⟩

/-- Takes away a selector that does not fit. -/
def unselect (ahead : Ahead) : Ahead :=
  match ahead.selector, ahead.sequence with
  | none, _ | some _, .letters .. => bare ahead.sequence
  | some _, _ => nothing

end Ahead

/-! ## Classes of characters -/

/-- The selector that a character is. -/
def Selector.ofChar? (c : Char) : Option Selector :=
  match c.toNat with
  | 0xFE01 => some .wide
  | 0xFE0E => some .text
  | 0xFE0F => some .picture
  | _ => none

/-- Code points without columns that letters do not join across. -/
def breakingRanges : List (Nat × Nat) :=
  [(0x605, 0x605), (0x890, 0x891), (0x8E2, 0x8E2), (0x9BE, 0x9BE), (0x9D7, 0x9D7), (0xB3E, 0xB3E),
   (0xB57, 0xB57), (0xBBE, 0xBBE), (0xBD7, 0xBD7), (0xCC0, 0xCC0), (0xCC2, 0xCC2), (0xCC7, 0xCC8),
   (0xCCA, 0xCCB), (0xCD5, 0xCD6), (0xD3E, 0xD3E), (0xD4E, 0xD4E), (0xD57, 0xD57), (0xDCF, 0xDCF),
   (0xDDF, 0xDDF), (0x1160, 0x11FF), (0x1715, 0x1715), (0x1734, 0x1734), (0x180E, 0x180E), (0x1B35, 0x1B35),
   (0x1B3B, 0x1B3B), (0x1B3D, 0x1B3D), (0x1B43, 0x1B44), (0x1BAA, 0x1BAA), (0x1BF2, 0x1BF3), (0x200C, 0x200D),
   (0x2065, 0x2069), (0x302E, 0x302F), (0x3164, 0x3164), (0xA8FA, 0xA8FA), (0xA953, 0xA953), (0xA9C0, 0xA9C0),
   (0xD7B0, 0xD7C6), (0xD7CB, 0xD7FB), (0xFFA0, 0xFFA0), (0xFFF0, 0xFFF8), (0x111C0, 0x111C0), (0x111C2, 0x111C3),
   (0x11235, 0x11235), (0x1133E, 0x1133E), (0x1134D, 0x1134D), (0x11357, 0x11357), (0x113B8, 0x113B8), (0x113C2, 0x113C2),
   (0x113C5, 0x113C5), (0x113C7, 0x113C9), (0x113CF, 0x113CF), (0x113D1, 0x113D1), (0x114B0, 0x114B0), (0x114BD, 0x114BD),
   (0x115AF, 0x115AF), (0x116B6, 0x116B6), (0x11930, 0x11930), (0x1193D, 0x1193D), (0x1193F, 0x1193F), (0x11941, 0x11941),
   (0x11A84, 0x11A89), (0x11D46, 0x11D46), (0x11F02, 0x11F02), (0x11F41, 0x11F41), (0x16FF0, 0x16FF1), (0x1D165, 0x1D166),
   (0x1D16D, 0x1D172), (0xE0000, 0xE0000), (0xE0002, 0xE001F), (0xE0080, 0xE00FF), (0xE01F0, 0xE0FFF)]

/-- Whether Arabic letters join across the character. -/
def joinsAcross (c : Char) : Bool := charWidth c == 0 && !inRanges breakingRanges c.toNat

/-- Whether the character is an ignorable mark, which may stand anywhere inside a form. -/
def isIgnorableMark (c : Char) : Bool :=
  inRanges [(0x34F, 0x34F), (0x17B4, 0x17B5), (0x180B, 0x180D), (0x180F, 0x180F), (0xFE00, 0xFE0F),
    (0xE0100, 0xE01EF)] c.toNat

/-- Whether the character is a quotation mark with a wide form. -/
def hasWideForm (c : Char) : Bool := inRanges [(0x2018, 0x2019), (0x201C, 0x201D)] c.toNat

/-- Whether the character is a consonant of Tifinagh. -/
def isTifinaghConsonant (c : Char) : Bool := inRanges [(0x2D31, 0x2D65), (0x2D6F, 0x2D6F)] c.toNat

/-- The letters of scripts that may end a form. -/
def scriptRanges : List (Script × List (Nat × Nat)) :=
  [(.arabicAlef, [(0x622, 0x623), (0x625, 0x625), (0x627, 0x627), (0x671, 0x673), (0x675, 0x675), (0x773, 0x774),
      (0x870, 0x882)]),
   (.hebrewLamed, [(0x5DC, 0x5DC)]),
   (.bugineseYa, [(0x1A10, 0x1A10)]),
   (.tifinaghConsonant, [(0x2D31, 0x2D65), (0x2D6F, 0x2D6F)]),
   (.lisuTone, [(0xA4FC, 0xA4FD)]),
   (.turkicI, [(0x10C03, 0x10C03)]),
   (.khmerLetter, [(0x1780, 0x1782), (0x1784, 0x1787), (0x1789, 0x178C), (0x178E, 0x1793), (0x1795, 0x1798),
      (0x179B, 0x179D), (0x17A0, 0x17A0), (0x17A2, 0x17A2), (0x17A7, 0x17A7), (0x17AB, 0x17AC), (0x17AF, 0x17AF)]),
   (.kiratE, [(0x16D67, 0x16D67)]),
   (.kiratAi, [(0x16D68, 0x16D68)])]

/-- What a character is for the one before it. -/
def Sequence.ofChar (c : Char) : Sequence :=
  if isTone c then .tone
  else if isFlagLetter c then .flagLetter
  else if isPicture c then .picture
  else match scriptRanges.find? fun entry => inRanges entry.2 c.toNat with
    | some (script, _) => .letters script false
    | none => .plain

/-! ## Forms and pictures -/

/-- A letter before letters that it makes one form with: what its columns add, less those that it takes from the
letters, and what the form is for the character before it. -/
def Script.extend (script : Script) (joined : Bool) (c : Char) : Option (Int × Sequence) :=
  match script, joined with
  | .arabicAlef, _ =>
    if inRanges [(0x644, 0x644), (0x6B5, 0x6B8), (0x76A, 0x76A), (0x8A6, 0x8A6), (0x8C7, 0x8C7)] c.toNat then
      some (0, .plain)
    else if joinsAcross c then some (0, .letters .arabicAlef joined)
    else none
  | .hebrewLamed, true => if c.toNat = 0x5D0 then some (0, .plain) else none
  | .bugineseYa, true => if c.toNat = 0x1A17 then some (0, .letters .bugineseVowelYa true) else none
  | .bugineseVowelYa, _ => if c.toNat = 0x1A15 then some (0, .plain) else none
  | .tifinaghConsonant, _ =>
    if c.toNat = 0x2D7F then some (1, .letters .tifinaghJoined true)
    else if joined && isTifinaghConsonant c then some (0, .plain)
    else none
  | .tifinaghJoined, _ => if isTifinaghConsonant c then some (-1, .plain) else none
  | .lisuTone, _ => if inRanges [(0xA4F8, 0xA4FB)] c.toNat then some (0, .plain) else none
  | .turkicI, true => if c.toNat = 0x10C32 then some (0, .plain) else none
  | .khmerLetter, _ => if c.toNat = 0x17D2 then some (-1, .plain) else none
  | .kiratE, _ =>
    match c.toNat with
    | 0x16D63 | 0x16D69 => some (0, .plain)
    | 0x16D67 => some (0, .letters .kiratAi false)
    | 0x16D68 => some (1, .letters .kiratE false)
    | _ => none
  | .kiratAi, _ => if c.toNat = 0x16D63 then some (0, .plain) else none
  | _, _ => none

/-- A character before a sequence that it continues: what its columns add, and the sequence with it. -/
def Sequence.extend (sequence : Sequence) (c : Char) : Option (Int × Sequence) :=
  match sequence with
  | .plain => none
  | .letters .arabicAlef joined => Script.arabicAlef.extend joined c
  | .letters script joined =>
    if c = joiner then some (0, .letters script true)
    else if isIgnorableMark c then some (0, .letters script joined)
    else script.extend joined c
  | .picture => if c = joiner then some (0, .joinedPicture) else none
  | .tone =>
    if takesTone c then some (0, .picture)
    else if c = joiner then some (0, .joinedPicture)
    else none
  | .flagLetter => if isFlagLetter c then some (1, .flag) else none
  | .flag =>
    if isFlagLetter c then some (1, .flag)
    else if c = joiner then some (0, .joinedPicture)
    else none
  | .joinedPicture =>
    if c.toNat = 0x20E3 then some (0, .joinedKeycap)
    else if isFlagLetter c then some (1, .joinedFlagLetter)
    else if isTone c then some (0, .tone)
    else if c.toNat = 0xE007F then some (0, .joinedTag 0)
    else if isPicture c then some (0, .picture)
    else none
  | .joinedKeycap => none
  | .joinedFlagLetter => if isFlagLetter c then some (-1, .joinedFlag true) else none
  | .joinedFlag even =>
    if isFlagLetter c then some (if even then 3 else -1, .joinedFlag !even)
    else if c = joiner then some (0, .joinedPicture)
    else none
  | .joinedTag count =>
    if inRanges [(0xE0061, 0xE007A)] c.toNat && decide (count < 6) then some (0, .joinedTag (count + 1))
    else if inRanges [(0xE0030, 0xE0039)] c.toNat && decide (count < 5) then some (0, .joinedDigits 1)
    else if c.toNat = 0x1F3F4 ∧ 3 ≤ count then some (0, .picture)
    else none
  | .joinedDigits count =>
    if inRanges [(0xE0030, 0xE0039)] c.toNat && decide (count < 3) then some (0, .joinedDigits (count + 1))
    else if c.toNat = 0x1F3F4 ∧ count = 3 then some (0, .picture)
    else none

/-! ## Lines -/

/-- The columns that a character adds to what stands after it, and what stands after the character before it. A
control character takes a column here. -/
def advance (c : Char) (ahead : Ahead) : Int × Ahead :=
  if ahead.selector = some .picture ∧ isSelectable c then
    (if ahead.sequence = .joinedPicture ∨ ahead.sequence = .joinedKeycap then 0 else 2, .bare .picture)
  else if c.toNat ≤ 0xA0 then (1, .nothing)
  else match Selector.ofChar? c with
  | some selector =>
    (0, (if ahead.selector = some .picture then ahead.unselect else ahead).select selector)
  | none =>
    if ahead.selector = some .text ∧ isPicture c ∧ isSelectable c ∧ ¬ inRanges [(0x1F200, 0x1F2FF)] c.toNat then
      (1, .nothing)
    else if ahead.selector = some .wide ∧ hasWideForm c then (2, .nothing)
    else match ahead.unselect.sequence.extend c with
      | some (width, sequence) => (width, .bare sequence)
      | none => (charWidth c, .bare (Sequence.ofChar c))

/-- The columns of a line. -/
def lineWidth (line : List Char) : Nat :=
  (line.foldr (fun c (width, ahead) => let (added, next) := advance c ahead; (width + added, next))
    ((0 : Int), Ahead.nothing)).1.toNat

end DeviceConsole.Text
