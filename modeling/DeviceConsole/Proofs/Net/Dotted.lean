import DeviceConsole.Net.IpAddress
import Mathlib.Data.List.TakeWhile
import DeviceConsole.Proofs.Text.Numerals

/-!
# `Proofs.Net.Dotted` — the dotted form of an IPv4 address is read back

An octet is read up to the first character that is no digit, so it is read back in front of any text that does
not go on with a digit (`NoDigit`): a point, or the end.

* `Ipv4.readFront?_write` — the dotted form in front of such a text;
* `IpAddress.ofText?_dotted` — the dotted form alone, among the addresses of both versions;
* `Ipv4.mem_write` — the dotted form consists of digits and points;
* `IpAddress.ofText?_of_digits`, `IpAddress.ofText?_of_head` — digits alone are no address, and neither is a text
  that starts with another character;
* `IpAddress.ofText?_of_word` — nor is a word without a colon that starts with no decimal digit.
-/

namespace DeviceConsole.Net

open Text

/-- The text does not go on with a decimal digit. -/
def NoDigit (text : List Char) : Prop := ∀ c ∈ text.head?, Decimal.digitValue? c = none

theorem noDigit_nil : NoDigit [] := by simp [NoDigit]

theorem noDigit_point (rest : List Char) : NoDigit ('.' :: rest) := by
  intro c hc
  rw [List.head?_cons, Option.mem_some_iff] at hc
  exact hc ▸ rfl

/-! ## One octet -/

/-- The run of digits at the front is exactly the number that was written. -/
theorem takeWhile_write {value : Nat} {rest : List Char} (h : NoDigit rest) :
    (Decimal.write value ++ rest).takeWhile (fun c => (Decimal.digitValue? c).isSome)
      = Decimal.write value := by
  have digits : ∀ c ∈ Decimal.write value, (Decimal.digitValue? c).isSome = true := by
    intro c hc
    obtain ⟨digit, lt, rfl⟩ := Decimal.mem_write hc
    rw [Decimal.digitValue?_digitChar lt]; rfl
  rw [List.takeWhile_append_of_pos digits]
  cases rest with
  | nil => rw [List.takeWhile_nil, List.append_nil]
  | cons c tail =>
    have stop : Decimal.digitValue? c = none := h c rfl
    rw [List.takeWhile_cons_of_neg (by rw [stop]; simp), List.append_nil]

theorem decimalRun?_write {value : Nat} {rest : List Char} (small : value < 1000) (h : NoDigit rest) :
    decimalRun? 3 (Decimal.write value ++ rest) = some (Decimal.write value, rest) := by
  have short : (Decimal.write value).length ≤ 2 + 1 := Decimal.length_write_le small
  have some_digit : (Decimal.write value).isEmpty = false := by
    rw [List.isEmpty_eq_false_iff]; exact Decimal.write_ne_nil value
  rw [decimalRun?, takeWhile_write h]
  simp only [some_digit, Bool.false_or, decide_eq_true_eq]
  rw [if_neg (by omega), List.drop_left]

/-- An octet is read back. -/
theorem Ipv4.readOctet?_write {octet : UInt8} {rest : List Char} (h : NoDigit rest) :
    readOctet? (Decimal.write octet.toNat ++ rest) = some (octet, rest) := by
  have lt : octet.toNat < 256 := octet.toNat_lt
  -- a leading zero is the digit of zero itself, so the number has one digit
  have plain : ((Decimal.write octet.toNat).head? == some '0'
      && (Decimal.write octet.toNat).length != 1) = false := by
    by_cases zero : (Decimal.write octet.toNat).head? = some '0'
    · have value := Decimal.head?_write zero
      rw [value]; decide +kernel
    · rw [beq_eq_false_iff_ne.mpr zero, Bool.false_and]
  rw [readOctet?, decimalRun?_write (by omega) h]
  simp only [Option.bind_eq_bind, Option.bind_some, Decimal.readDigits?_write, plain]
  rw [if_neg (by simp; omega), UInt8.ofNat_toNat]

/-! ## Whole addresses -/

/-- **The dotted form is read back** in front of any text that does not go on with a digit. -/
theorem Ipv4.readFront?_write {address : Ipv4} {rest : List Char} (h : NoDigit rest) :
    readFront? (address.write ++ rest) = some (address, rest) := by
  obtain ⟨a, b, c, d⟩ := address
  have shape : write ⟨a, b, c, d⟩ ++ rest
      = Decimal.write a.toNat ++ '.' :: (Decimal.write b.toNat ++ '.' ::
          (Decimal.write c.toNat ++ '.' :: (Decimal.write d.toNat ++ rest))) := by
    simp [write]
  rw [shape, readFront?, readOctet?_write (noDigit_point _)]
  simp only [Option.bind_eq_bind, Option.bind_some, readNextOctet?,
    readOctet?_write (noDigit_point _), readOctet?_write h]

/-- The dotted form alone is read as that address. -/
theorem IpAddress.ofText?_dotted (address : Ipv4) : ofText? (v4 address).toText = some (v4 address) := by
  have front : Ipv4.readFront? (address.write ++ []) = some (address, []) :=
    Ipv4.readFront?_write noDigit_nil
  rw [List.append_nil] at front
  rw [ofText?, toText, String.toList_ofList, write, read?, front]

/-- The dotted form consists of digits and points. -/
theorem Ipv4.mem_write {address : Ipv4} {c : Char} (h : c ∈ address.write) :
    c = '.' ∨ ∃ digit, digit < 10 ∧ c = Decimal.digitChar digit := by
  simp only [write, List.append_assoc, List.cons_append, List.mem_append, List.mem_cons] at h
  rcases h with h | h | h | h | h | h | h
  · exact Or.inr (Decimal.mem_write h)
  · exact Or.inl h
  · exact Or.inr (Decimal.mem_write h)
  · exact Or.inl h
  · exact Or.inr (Decimal.mem_write h)
  · exact Or.inl h
  · exact Or.inr (Decimal.mem_write h)

/-! ## Texts that are no address -/

/-- An octet leaves the end of the text. -/
theorem Ipv4.suffix_of_readOctet? {text rest : List Char} {octet : UInt8}
    (h : readOctet? text = some (octet, rest)) : rest <:+ text := by
  simp only [readOctet?, decimalRun?, Option.bind_eq_bind] at h
  obtain ⟨⟨digits, left⟩, run, h⟩ := Option.bind_eq_some_iff.mp h
  obtain ⟨value, -, h⟩ := Option.bind_eq_some_iff.mp h
  split at run
  · simp at run
  · obtain ⟨-, rfl⟩ := Prod.mk.inj (Option.some.inj run)
    split at h
    · simp at h
    · obtain ⟨-, rfl⟩ := Prod.mk.inj (Option.some.inj h)
      exact List.drop_suffix _ _

/-- A dotted form holds a point. -/
theorem Ipv4.readFront?_of_no_point {text : List Char} (h : '.' ∉ text) : readFront? text = none := by
  rw [readFront?]
  cases first : readOctet? text with
  | none => rfl
  | some found =>
    obtain ⟨octet, rest⟩ := found
    have pointless : readNextOctet? rest = none := by
      unfold readNextOctet?
      split
      · next tail => exact absurd ((suffix_of_readOctet? first).subset List.mem_cons_self) h
      · rfl
    simp only [Option.bind_eq_bind, Option.bind_some, pointless, Option.bind_none]

/-- A group takes the front of a text. -/
theorem Ipv6.suffix_of_readGroup? {text rest : List Char} {group : UInt16}
    (h : readGroup? text = some (group, rest)) : rest <:+ text := by
  rw [readGroup?] at h
  split at h
  · cases h
  · obtain ⟨value, -, same⟩ := Option.map_eq_some_iff.mp h
    obtain ⟨-, rfl⟩ := Prod.mk.inj same
    exact List.drop_suffix _ _

/-- Without a colon there is at most one group, and that is no address. -/
theorem Ipv6.readFront?_of_no_colon {text : List Char} (colonless : ':' ∉ text)
    (undotted : Ipv4.readFront? text = none) : readFront? text = none := by
  have stops : ∀ rest, rest <:+ text → afterColon? false rest = none := by
    intro rest suffix
    unfold afterColon?
    rw [if_neg (by decide)]
    split
    · exact absurd (suffix.subset List.mem_cons_self) colonless
    · rfl
  -- behind the first group there would have to be a colon
  have groups : ∃ front rest, readGroups 8 true text = (front, false, rest) ∧ front.length < 8 ∧ rest <:+ text := by
    rw [readGroups]
    simp only [afterColon?, if_true, Option.bind_some, undotted, ite_self]
    cases first : readGroup? text with
    | none => exact ⟨[], text, rfl, by decide, List.suffix_refl _⟩
    | some found =>
      obtain ⟨group, rest⟩ := found
      have suffix := suffix_of_readGroup? first
      have none_left : readGroups 7 false rest = ([], false, rest) := by
        rw [readGroups, stops rest suffix]
        rfl
      exact ⟨[group], rest, by simp only [none_left], by simp, suffix⟩
  obtain ⟨front, rest, read, few, suffix⟩ := groups
  rw [readFront?, read]
  simp only [Bool.false_eq_true, if_false]
  rw [if_neg (by omega)]
  split
  · exact absurd (suffix.subset List.mem_cons_self) colonless
  · rfl

/-- A dotted form starts with a decimal digit. -/
theorem Ipv4.readFront?_of_head {c : Char} {rest : List Char} (digit : Decimal.digitValue? c = none) :
    readFront? (c :: rest) = none := by
  have run : decimalRun? 3 (c :: rest) = none := by
    rw [decimalRun?, List.takeWhile_cons_of_neg (by rw [digit]; simp)]
    rfl
  rw [readFront?, readOctet?, run]
  rfl

/-- Hexadecimal digits alone are no address. -/
theorem IpAddress.ofText?_of_digits {text : String}
    (h : ∀ c ∈ text.toList, (Hex.digitValue? c).isSome = true) : ofText? text = none := by
  have pointless : '.' ∉ text.toList := fun mem => absurd (h '.' mem) (by decide)
  have colonless : ':' ∉ text.toList := fun mem => absurd (h ':' mem) (by decide)
  have undotted := Ipv4.readFront?_of_no_point pointless
  rw [ofText?, read?, undotted, Ipv6.readFront?_of_no_colon colonless undotted]
  rfl

/-- A word without a colon that starts with no decimal digit is no address. -/
theorem IpAddress.ofText?_of_word {text : String} {c : Char} {rest : List Char}
    (eq : text.toList = c :: rest) (digit : Decimal.digitValue? c = none) (colonless : ':' ∉ text.toList) :
    ofText? text = none := by
  have undotted : Ipv4.readFront? text.toList = none := by
    rw [eq]
    exact Ipv4.readFront?_of_head digit
  rw [ofText?, read?, undotted, Ipv6.readFront?_of_no_colon colonless undotted]
  rfl

/-- An address starts with a digit or a colon. -/
theorem IpAddress.ofText?_of_head {text : String} {c : Char} {rest : List Char}
    (eq : text.toList = c :: rest) (digit : Hex.digitValue? c = none) (colon : c ≠ ':') :
    ofText? text = none := by
  have decimal : Decimal.digitValue? c = none := by
    unfold Hex.digitValue? at digit
    unfold Decimal.digitValue?
    split at digit
    · simp at digit
    · next no => rw [if_neg no]
  have v4 : Ipv4.readFront? (c :: rest) = none := Ipv4.readFront?_of_head decimal
  have group : Ipv6.readGroup? (c :: rest) = none := by
    rw [Ipv6.readGroup?, List.takeWhile_cons_of_neg (by rw [digit]; simp)]
    rfl
  -- neither a group nor an embedded dotted form starts with such a character
  have groups : Ipv6.readGroups 8 true (c :: rest) = ([], false, c :: rest) := by
    rw [Ipv6.readGroups]
    simp only [Ipv6.afterColon?, if_true, Option.bind_some, v4, group, ite_self]
  have v6 : Ipv6.readFront? (c :: rest) = none := by
    rw [Ipv6.readFront?, groups]
    simp only [List.length_nil, Bool.false_eq_true, if_false]
    rw [if_neg (by decide)]
    split
    · next tail same => exact absurd (List.cons.inj same).1 colon
    · rfl
  rw [ofText?, read?, eq, v4, v6]
  rfl

end DeviceConsole.Net
