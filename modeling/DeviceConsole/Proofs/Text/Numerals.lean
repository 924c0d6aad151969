import DeviceConsole.Text.Decimal
import DeviceConsole.Text.Hex
import Mathlib.Algebra.Group.Nat.Defs
import Mathlib.Data.List.Induction

/-!
# `Proofs.Text.Numerals` — numbers and byte strings are read back as they are written

Writers put the most significant digit first, so every proof here peels digits off the **end**: a reader that
has read all digits but the last holds the number without its last digit.

* `Hex.readNumber?_fixed`, `Hex.readBytes?_writeBytes` — hexadecimal numbers of a fixed width and byte strings;
* `Decimal.readDigits?_write`, `Decimal.length_write_le` — decimal numbers, and how many digits they take;
* `Hex.fixed_of_readNumber?`, `Hex.writeBytes_of_readBytes?`, `Decimal.eq_write_of_readDigits?` — what is read is what
  is written, but for the case of digits and for leading zeros;
* `Hex.mem_fixed`, `Hex.mem_writeBytes`, `Decimal.mem_write` — nothing but digits is written;
* `Hex.isSome_of_readDigits?` — nothing but digits is read.
-/

namespace DeviceConsole.Text

/-! ## Hexadecimal -/

namespace Hex

/-- A digit is read back. -/
theorem digitValue?_digitChar {value : Nat} (h : value < 16) :
    digitValue? (digitChar value) = some value := by
  have all : ∀ v ∈ List.range 16, digitValue? (digitChar v) = some v := by decide
  exact all value (List.mem_range.mpr h)

/-- The last digit counts once, the digits before it sixteen times. -/
theorem readDigits?_concat (digits : List Char) (c : Char) :
    readDigits? (digits ++ [c])
      = (readDigits? digits).bind fun value => (digitValue? c).map (value * 16 + ·) := by
  unfold readDigits?
  rw [List.foldl_append, List.foldl_cons, List.foldl_nil]
  cases digits.foldl (fun value? c => do return (← value?) * 16 + (← digitValue? c)) (some 0) with
  | none => rfl
  | some value => cases digitValue? c <;> rfl

theorem readDigits?_fixed (count value : Nat) :
    readDigits? (fixed count value) = some (value % 16 ^ count) := by
  induction count generalizing value with
  | zero => simp [fixed, readDigits?, Nat.mod_one]
  | succ count ih =>
    have last : value % 16 < 16 := Nat.mod_lt _ (by omega)
    -- the last digit splits off, and `count` digits are left
    have split : value % 16 ^ (count + 1) = value / 16 % 16 ^ count * 16 + value % 16 := by
      rw [Nat.pow_succ', Nat.mod_mul, Nat.mul_comm, Nat.add_comm]
    rw [fixed, readDigits?_concat, ih, digitValue?_digitChar last, split]
    rfl

theorem length_fixed (count value : Nat) : (fixed count value).length = count := by
  induction count generalizing value with
  | zero => rfl
  | succ count ih => rw [fixed, List.length_append, ih, List.length_singleton]

/-- A number that fits into its width is read back. -/
theorem readNumber?_fixed {count value : Nat} (h : value < 16 ^ count) :
    readNumber? count (fixed count value) = some value := by
  rw [readNumber?, if_pos (length_fixed count value), readDigits?_fixed, Nat.mod_eq_of_lt h]

/-- A digit is below sixteen, and below ten exactly if it is a decimal digit. -/
theorem lt_of_digitValue? {c : Char} {value : Nat} (h : digitValue? c = some value) :
    value < 16 ∧ ((Decimal.digitValue? c).isSome = true ↔ value < 10) := by
  unfold digitValue? at h
  unfold Decimal.digitValue?
  -- the readers compare characters and the statement numbers, so everything goes by code points
  simp only [Char.le_def, UInt32.le_iff_toNat_le] at h ⊢
  have code : c.toNat = c.val.toNat := rfl
  by_cases decimal : '0'.val.toNat ≤ c.val.toNat ∧ c.val.toNat ≤ '9'.val.toNat
  · rw [if_pos decimal, Option.some.injEq] at h
    rw [if_pos decimal]
    have upper : c.val.toNat ≤ 57 := decimal.2
    refine ⟨by omega, fun _ => by omega, fun _ => rfl⟩
  · rw [if_neg decimal] at h ⊢
    by_cases upper : 'A'.val.toNat ≤ c.val.toNat ∧ c.val.toNat ≤ 'F'.val.toNat
    · rw [if_pos upper, Option.some.injEq] at h
      have least : 65 ≤ c.val.toNat := upper.1
      have most : c.val.toNat ≤ 70 := upper.2
      exact ⟨by omega, by simp; omega⟩
    · rw [if_neg upper] at h
      by_cases lower : 'a'.val.toNat ≤ c.val.toNat ∧ c.val.toNat ≤ 'f'.val.toNat
      · rw [if_pos lower, Option.some.injEq] at h
        have least : 97 ≤ c.val.toNat := lower.1
        have most : c.val.toNat ≤ 102 := lower.2
        exact ⟨by omega, by simp; omega⟩
      · rw [if_neg lower] at h
        simp at h

/-- A number is written with digits alone. -/
theorem mem_fixed {count value : Nat} {c : Char} (h : c ∈ fixed count value) :
    ∃ digit, digit < 16 ∧ c = digitChar digit := by
  induction count generalizing value with
  | zero => simp [fixed] at h
  | succ count ih =>
    rw [fixed, List.mem_append, List.mem_singleton] at h
    rcases h with h | h
    · exact ih h
    · exact ⟨value % 16, Nat.mod_lt _ (by omega), h⟩

/-- What is read as a number consists of digits. -/
theorem isSome_of_readDigits? {digits : List Char} {value : Nat} (h : readDigits? digits = some value) :
    ∀ c ∈ digits, (digitValue? c).isSome = true := by
  induction digits using List.reverseRecOn generalizing value with
  | nil => simp
  | append_singleton front last ih =>
    rw [readDigits?_concat] at h
    obtain ⟨before, read, h⟩ := Option.bind_eq_some_iff.mp h
    obtain ⟨digit, final, -⟩ := Option.map_eq_some_iff.mp h
    intro c hc
    rcases List.mem_append.mp hc with hc | hc
    · exact ih read c hc
    · rw [List.mem_singleton.mp hc, final]; rfl

/-- A byte string is read back. -/
theorem readBytes?_writeBytes (bytes : List UInt8) : readBytes? (writeBytes bytes) = some bytes := by
  induction bytes with
  | nil => rfl
  | cons byte rest ih =>
    have lt : byte.toNat < 256 := byte.toNat_lt
    have high : digitValue? (digitChar (byte.toNat / 16)) = some (byte.toNat / 16) :=
      digitValue?_digitChar (by omega)
    have low : digitValue? (digitChar (byte.toNat % 16)) = some (byte.toNat % 16) :=
      digitValue?_digitChar (by omega)
    have whole : byte.toNat / 16 * 16 + byte.toNat % 16 = byte.toNat := by omega
    rw [writeBytes, readBytes?, high, low, ih]
    simp only [Option.pure_def, Option.bind_eq_bind, Option.bind_some, whole, UInt8.ofNat_toNat]

/-- A byte string is written with digits alone. -/
theorem mem_writeBytes {bytes : List UInt8} {c : Char} (h : c ∈ writeBytes bytes) :
    ∃ digit, digit < 16 ∧ c = digitChar digit := by
  induction bytes with
  | nil => simp [writeBytes] at h
  | cons byte rest ih =>
    have lt : byte.toNat < 256 := byte.toNat_lt
    rw [writeBytes, List.mem_cons, List.mem_cons] at h
    rcases h with h | h | h
    · exact ⟨byte.toNat / 16, by omega, h⟩
    · exact ⟨byte.toNat % 16, by omega, h⟩
    · exact ih h

/-! ### From what is read to what is written -/

/-- Every digit is below 128, whichever of the three ranges it is in. -/
theorem toNat_lt_of_digitValue? {c : Char} {value : Nat} (h : digitValue? c = some value) : c.toNat < 128 := by
  unfold digitValue? at h
  simp only [Char.le_def, UInt32.le_iff_toNat_le] at h
  split at h
  · next range => exact Nat.lt_of_le_of_lt range.2 (by decide)
  · split at h
    · next range => exact Nat.lt_of_le_of_lt range.2 (by decide)
    · split at h
      · next range => exact Nat.lt_of_le_of_lt range.2 (by decide)
      · cases h

/-- The digit of a value is the character that the value was read from, in upper case. -/
theorem digitChar_of_digitValue? {c : Char} {value : Nat} (h : digitValue? c = some value) :
    digitChar value = c.toUpper := by
  have all : ∀ n ∈ List.range 128, ∀ v ∈ digitValue? (Char.ofNat n), digitChar v = (Char.ofNat n).toUpper := by
    decide +kernel
  have own := all c.toNat (List.mem_range.mpr (toNat_lt_of_digitValue? h))
  rw [Char.ofNat_toNat] at own
  exact own value h

theorem fixed_of_readDigits? {text : List Char} {value : Nat} (h : readDigits? text = some value) :
    fixed text.length value = text.map Char.toUpper := by
  induction text using List.reverseRecOn generalizing value with
  | nil => rfl
  | append_singleton front last ih =>
    rw [readDigits?_concat] at h
    obtain ⟨before, read, h⟩ := Option.bind_eq_some_iff.mp h
    obtain ⟨digit, final, rfl⟩ := Option.map_eq_some_iff.mp h
    have small := (lt_of_digitValue? final).1
    have others : (before * 16 + digit) / 16 = before := by omega
    have own : (before * 16 + digit) % 16 = digit := by omega
    rw [List.length_append, List.length_singleton, fixed, others, own, ih read, digitChar_of_digitValue? final,
      List.map_append, List.map_singleton]

/-- A number is as small as its number of digits allows. -/
theorem lt_of_readDigits? {text : List Char} {value : Nat} (h : readDigits? text = some value) :
    value < 16 ^ text.length := by
  induction text using List.reverseRecOn generalizing value with
  | nil =>
    cases h
    exact Nat.one_pos
  | append_singleton front last ih =>
    rw [readDigits?_concat] at h
    obtain ⟨before, read, h⟩ := Option.bind_eq_some_iff.mp h
    obtain ⟨digit, final, rfl⟩ := Option.map_eq_some_iff.mp h
    have small := (lt_of_digitValue? final).1
    have others := ih read
    rw [List.length_append, List.length_singleton, Nat.pow_succ]
    omega

theorem lt_of_readNumber? {count value : Nat} {text : List Char} (h : readNumber? count text = some value) :
    value < 16 ^ count := by
  obtain ⟨length, read⟩ := Option.ite_none_right_eq_some.mp h
  rw [← length]
  exact lt_of_readDigits? read

/-- **A number of a fixed width is written with the digits that it was read from**, in upper case. -/
theorem fixed_of_readNumber? {count value : Nat} {text : List Char} (h : readNumber? count text = some value) :
    fixed count value = text.map Char.toUpper := by
  obtain ⟨length, read⟩ := Option.ite_none_right_eq_some.mp h
  rw [← length]
  exact fixed_of_readDigits? read

/-- **A byte string is written with the digits that it was read from**, in upper case. -/
theorem writeBytes_of_readBytes? {text : List Char} {bytes : List UInt8} (h : readBytes? text = some bytes) :
    writeBytes bytes = text.map Char.toUpper := by
  induction text using readBytes?.induct generalizing bytes with
  | case1 =>
    cases h
    rfl
  | case2 c => cases h
  | case3 first second rest ih =>
    rw [readBytes?] at h
    obtain ⟨high, readHigh, h⟩ := Option.bind_eq_some_iff.mp h
    obtain ⟨low, readLow, h⟩ := Option.bind_eq_some_iff.mp h
    obtain ⟨others, readRest, same⟩ := Option.bind_eq_some_iff.mp h
    cases same
    have highSmall := (lt_of_digitValue? readHigh).1
    have lowSmall := (lt_of_digitValue? readLow).1
    -- the byte has both digits in it, since each of them is below sixteen
    have byte : (UInt8.ofNat (high * 16 + low)).toNat = high * 16 + low := by
      rw [UInt8.toNat_ofNat']
      omega
    have front : (high * 16 + low) / 16 = high := by omega
    have back : (high * 16 + low) % 16 = low := by omega
    rw [writeBytes, byte, front, back, digitChar_of_digitValue? readHigh, digitChar_of_digitValue? readLow, ih readRest]
    rfl

end Hex

/-! ## Decimal -/

namespace Decimal

/-- A digit is read back. -/
theorem digitValue?_digitChar {value : Nat} (h : value < 10) :
    digitValue? (digitChar value) = some value := by
  have all : ∀ v ∈ List.range 10, digitValue? (digitChar v) = some v := by decide
  exact all value (List.mem_range.mpr h)

/-- Digits are read one after the other. -/
theorem readFrom?_append (start : Nat) (front back : List Char) :
    readFrom? start (front ++ back) = (readFrom? start front).bind (readFrom? · back) := by
  induction front generalizing start with
  | nil => rfl
  | cons c rest ih =>
    rw [List.cons_append, readFrom?, readFrom?]
    cases digitValue? c with
    | none => rfl
    | some digit => exact ih _

/-- What starts with another character is no number. -/
theorem readDigits?_of_head {c : Char} {rest : List Char} (digit : digitValue? c = none) :
    readDigits? (c :: rest) = none := by
  show (digitValue? c).bind _ = none
  rw [digit]
  rfl

theorem write_ne_nil (value : Nat) : write value ≠ [] := by
  rw [write]
  split <;> simp

theorem readFrom?_write (value : Nat) : readFrom? 0 (write value) = some value := by
  induction value using Nat.strongRecOn with
  | ind value ih =>
    rw [write]
    by_cases small : value < 10
    · rw [if_pos small, readFrom?, digitValue?_digitChar small]
      simp [readFrom?]
    · have last : value % 10 < 10 := Nat.mod_lt _ (by omega)
      have whole : value / 10 * 10 + value % 10 = value := by omega
      rw [if_neg small, readFrom?_append, ih (value / 10) (by omega), Option.bind_some, readFrom?,
        digitValue?_digitChar last, Option.bind_some, readFrom?, whole]

/-- A number is read back. -/
theorem readDigits?_write (value : Nat) : readDigits? (write value) = some value := by
  have value? := readFrom?_write value
  cases h : write value with
  | nil => exact absurd h (write_ne_nil value)
  | cons c rest => rwa [h] at value?

/-- A number is written with digits alone. -/
theorem mem_write {value : Nat} {c : Char} (h : c ∈ write value) :
    ∃ digit, digit < 10 ∧ c = digitChar digit := by
  induction value using Nat.strongRecOn with
  | ind value ih =>
    rw [write] at h
    by_cases small : value < 10
    · rw [if_pos small, List.mem_singleton] at h
      exact ⟨value, small, h⟩
    · rw [if_neg small, List.mem_append, List.mem_singleton] at h
      rcases h with h | h
      · exact ih (value / 10) (by omega) h
      · exact ⟨value % 10, Nat.mod_lt _ (by omega), h⟩

/-- A number starts with a digit. -/
theorem exists_digit (value : Nat) : ∃ digit more, digit < 10 ∧ write value = digitChar digit :: more := by
  obtain ⟨first, more, digits⟩ := List.exists_cons_of_ne_nil (write_ne_nil value)
  have mem : first ∈ write value := by
    rw [digits]
    exact List.mem_cons_self
  obtain ⟨digit, small, rfl⟩ := mem_write mem
  exact ⟨digit, more, small, digits⟩

/-- A number below `10 ^ (count + 1)` takes at most `count + 1` digits. -/
theorem length_write_le {count value : Nat} (h : value < 10 ^ (count + 1)) :
    (write value).length ≤ count + 1 := by
  induction count generalizing value with
  | zero => rw [write, if_pos (by omega)]; exact Nat.le_refl 1
  | succ count ih =>
    rw [write]
    by_cases small : value < 10
    · rw [if_pos small, List.length_singleton]; omega
    -- `value / 10` has one digit less, so the induction is on the number of digits
    · have front : (write (value / 10)).length ≤ count + 1 := ih (by rw [Nat.pow_succ] at h; omega)
      rw [if_neg small, List.length_append, List.length_singleton]; omega

/-- No number but zero starts with a zero. -/
theorem head?_write {value : Nat} (h : (write value).head? = some '0') : value = 0 := by
  induction value using Nat.strongRecOn with
  | ind value ih =>
    rw [write] at h
    by_cases small : value < 10
    · have all : ∀ v ∈ List.range 10, digitChar v = '0' → v = 0 := by decide
      rw [if_pos small, List.head?_cons, Option.some.injEq] at h
      exact all value (List.mem_range.mpr small) h
    · rw [if_neg small, List.head?_append, List.head?_eq_some_head (write_ne_nil _), Option.some_or,
        ← List.head?_eq_some_head (write_ne_nil _)] at h
      have zero := ih (value / 10) (by omega) h
      omega

/-! ### From what is read to what is written -/

theorem digitChar_of_digitValue? {c : Char} {value : Nat} (h : digitValue? c = some value) :
    value < 10 ∧ digitChar value = c := by
  unfold digitValue? at h
  obtain ⟨range, same⟩ := Option.ite_none_right_eq_some.mp h
  cases same
  simp only [Char.le_def, UInt32.le_iff_toNat_le] at range
  have least : 48 ≤ c.toNat := range.1
  have most : c.toNat ≤ 57 := range.2
  refine ⟨by omega, ?_⟩
  rw [digitChar, Nat.add_sub_cancel' least, Char.ofNat_toNat]

/-- **The digits of a number are its written form behind any number of zeros.** -/
theorem eq_write_of_readDigits? {text : List Char} {value : Nat} (h : readDigits? text = some value) :
    ∃ zeros, text = List.replicate zeros '0' ++ write value := by
  induction text using List.reverseRecOn generalizing value with
  | nil => cases h
  | append_singleton front last ih =>
    have read : readFrom? 0 (front ++ [last]) = some value := by
      cases front <;> exact h
    rw [readFrom?_append] at read
    obtain ⟨before, readFront, read⟩ := Option.bind_eq_some_iff.mp read
    obtain ⟨digit, final, same⟩ := Option.bind_eq_some_iff.mp read
    cases same
    obtain ⟨small, isLast⟩ := digitChar_of_digitValue? final
    have one : write digit = [last] := by rw [write, if_pos small, isLast]
    cases front with
    | nil =>
      cases readFront
      refine ⟨0, ?_⟩
      rw [Nat.zero_mul, Nat.zero_add, one]
      rfl
    | cons c rest =>
      obtain ⟨zeros, shape⟩ := ih readFront
      rw [shape]
      by_cases zero : before = 0
      -- the digits in front are all zeros, and none of them is written
      · subst zero
        refine ⟨zeros + 1, ?_⟩
        rw [Nat.zero_mul, Nat.zero_add, one, List.replicate_succ', write, if_pos (by omega)]
        rfl
      · refine ⟨zeros, ?_⟩
        have more : ¬ before * 10 + digit < 10 := by omega
        have others : (before * 10 + digit) / 10 = before := by omega
        have own : (before * 10 + digit) % 10 = digit := by omega
        have whole : write (before * 10 + digit) = write before ++ [last] := by
          rw [write, if_neg more, others, own, isLast]
        rw [whole, List.append_assoc]

end Decimal

end DeviceConsole.Text
