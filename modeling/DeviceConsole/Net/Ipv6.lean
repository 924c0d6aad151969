import DeviceConsole.Net.Ipv4
import DeviceConsole.Text.Hex

/-!
# `Net.Ipv6` — IPv6 addresses and their text

An address is eight groups of sixteen bits. Written, groups are lower-case hexadecimal without leading zeros
between colons, and the first of the longest runs of at least two zero groups is written as two colons; an
address that maps an IPv4 address is written `::ffff:` and the dotted form (RFC 5952). Read, a group has one to
four digits in either case, two colons stand for at least one zero group, and the last two groups may be a
dotted form.

## Contents

* `Ipv6` — the addresses;
* `Ipv6.write` — the text of an address;
* `Ipv6.readFront?` — reads an address at the front of a text.
-/

namespace DeviceConsole.Net

/-- An IPv6 address, most significant group first. -/
structure Ipv6 where
  groups : List UInt16
  length_groups : groups.length = 8 := by rfl
  deriving DecidableEq, Repr

namespace Ipv6

/-! ## Writing -/

/-- Groups between colons. -/
def writeGroups : List UInt16 → List Char
  | [] => []
  | [group] => Text.Hex.minimal group.toNat
  | group :: rest => Text.Hex.minimal group.toNat ++ ':' :: writeGroups rest

/-- The number of zero groups at the front. -/
def leadingZeros (groups : List UInt16) : Nat := (groups.takeWhile (· == 0)).length

/-- Start and length of the first of the longest runs of zero groups, for groups that start at `index`. -/
def longestZeroRun (index : Nat) : List UInt16 → Nat × Nat
  | [] => (index, 0)
  | group :: rest =>
    let here := leadingZeros (group :: rest)
    let later := longestZeroRun (index + 1) rest
    if here < later.2 then later else (index, here)

/-- The IPv4 address that an address of the block `::ffff:0:0/96` maps. -/
def mapped? (address : Ipv6) : Option Ipv4 :=
  match address.groups with
  | [0, 0, 0, 0, 0, 0xffff, high, low] =>
    some ⟨(high >>> 8).toUInt8, high.toUInt8, (low >>> 8).toUInt8, low.toUInt8⟩
  | _ => none

/-- The text of an address. -/
def write (address : Ipv6) : List Char :=
  match address.mapped? with
  | some inner => "::ffff:".toList ++ inner.write
  | none =>
    let (start, length) := longestZeroRun 0 address.groups
    if 1 < length then
      writeGroups (address.groups.take start) ++ ':' :: ':' ::
        writeGroups (address.groups.drop (start + length))
    else writeGroups address.groups

/-! ## Reading -/

/-- Reads a group at the front of a text: one to four hexadecimal digits. -/
def readGroup? (text : List Char) : Option (UInt16 × List Char) :=
  let digits := text.takeWhile fun c => (Text.Hex.digitValue? c).isSome
  if digits.isEmpty || 4 < digits.length then none
  else (Text.Hex.readDigits? digits).map fun value => (UInt16.ofNat value, text.drop digits.length)

/-- The text after the colon that stands before every group but the first. -/
def afterColon? (first : Bool) (text : List Char) : Option (List Char) :=
  if first then some text
  else match text with
    | ':' :: rest => some rest
    | _ => none

/-- The two groups that a dotted form stands for. -/
def ofDotted (inner : Ipv4) : List UInt16 :=
  [inner.a.toUInt16 <<< 8 ||| inner.b.toUInt16, inner.c.toUInt16 <<< 8 ||| inner.d.toUInt16]

/-- Reads at most `room` groups at the front of a text, as many as there are; a dotted form takes the room of
two and ends the groups. The flag says whether there was one. -/
def readGroups (room : Nat) (first : Bool) (text : List Char) : List UInt16 × Bool × List Char :=
  match room with
  | 0 => ([], false, text)
  | room + 1 =>
    match (if room = 0 then none else (afterColon? first text).bind Ipv4.readFront?) with
    | some (inner, rest) => (ofDotted inner, true, rest)
    | none =>
      match (afterColon? first text).bind readGroup? with
      | none => ([], false, text)
      | some (group, rest) =>
        let (groups, dotted, rest) := readGroups room false rest
        (group :: groups, dotted, rest)

/-- The address whose groups start with `front`, end with `back` and are zero between. -/
def ofParts? (front back : List UInt16) : Option Ipv6 :=
  let groups := front ++ List.replicate (8 - front.length - back.length) 0 ++ back
  if h : groups.length = 8 then some ⟨groups, h⟩ else none

/-- Reads an address at the front of a text. -/
def readFront? (text : List Char) : Option (Ipv6 × List Char) :=
  let (front, dotted, rest) := readGroups 8 true text
  if front.length = 8 then (ofParts? front []).map (·, rest)
  else if dotted then none
  else match rest with
    | ':' :: ':' :: rest =>
      let (back, _, rest) := readGroups (7 - front.length) true rest
      (ofParts? front back).map (·, rest)
    | _ => none

end Ipv6

end DeviceConsole.Net
