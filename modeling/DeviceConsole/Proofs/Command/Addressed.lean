import DeviceConsole.Proofs.Command.Names
import DeviceConsole.Proofs.Grammar.Forms

/-!
# `Proofs.Command.Addressed` — what an argument addresses

An argument that is accepted and resolved addresses its target in one of three ways: it names a place by an address or
an object, it names a group, or it is an alias. Nothing else is resolved, since a number that is out of range is
refused and a word that is no alias stands for nothing.

* `Addressed`, `addressed_of_form` — the three ways, and that they are all;
* `Addressed.takes` — what an argument addresses in front of the end of a line, it addresses in front of any word that
  is not more of a device.
-/

namespace DeviceConsole

open Device (ClassCode Endpoint)
open Grammar

variable {directory : Directory} {argument : List Mark} {arg : DeviceArg} {target : Target}

/-- The marks of an argument, what it is read as, and the target that it addresses. -/
inductive Addressed (directory : Directory) : List Mark → DeviceArg → Target → Prop
  | place (device : TypedDevice) :
      Addressed directory device.front (.ofSpecifier device.specifier) (.device device.specifier)
  | group {name : String} : name.toList.head? = some '@' → Addressed directory [.word name] (.group name) (.group name)
  | aliased {name : String} {device : Endpoint} : AliasOf directory name device →
      Addressed directory [.word name] (.aliased name) (.device (.exact device))

/-! ## Places -/

theorem range_of_checkInstance {number : Nat} {code : UInt8} (h : Directory.checkInstance number = .ok code) :
    1 ≤ number ∧ number ≤ 255 := by
  unfold Directory.checkInstance at h
  split at h
  · next range => exact range
  · cases h

/-- An instance number in range is one that can be typed. -/
theorem readInstance?_of_digits {digits : String} {number : Nat} (short : digits.length ≤ 3)
    (read : Text.Decimal.readDigits? digits.toList = some number) (range : 1 ≤ number ∧ number ≤ 255) :
    readInstance? digits = some (UInt8.ofNat number) := by
  rw [readInstance?, if_pos short, read, Option.filter_some, if_pos (decide_eq_true range)]
  rfl

/-- An object whose number is in range is a typed object. -/
theorem Grammar.ObjectForm.exists_typed {object : List Mark} {code : ClassCode} {number : Option Nat}
    (form : ObjectForm object code number) (words : ∀ text, .word text ∈ object → IsWord text)
    (inRange : ∀ own ∈ number, 1 ≤ own ∧ own ≤ 255) :
    ∃ typed : TypedObject, typed.front = object ∧ typed.classCode.value = code ∧ typed.number? = number := by
  cases form with
  | @bare text code isCode =>
    exact ⟨⟨⟨text, code, words text List.mem_cons_self, isCode⟩, none⟩, rfl, rfl, rfl⟩
  | @numbered text digits code number isCode short read =>
    have range := inRange number rfl
    have isNumber := readInstance?_of_digits short read range
    refine ⟨⟨⟨text, code, words text List.mem_cons_self, isCode⟩,
      some ⟨digits, UInt8.ofNat number, words digits (by simp), isNumber⟩⟩, rfl, rfl, ?_⟩
    show some (UInt8.ofNat number).toNat = some number
    rw [UInt8.toNat_ofNat', Nat.mod_eq_of_lt (by omega)]

/-- The instance number of an argument that is resolved is in range. -/
theorem inRange_of_target {ip : Option Net.IpAddress} {classCode : Option ClassCode} {number : Option Nat}
    (stands : directory.target (.address ip classCode number) = .ok target) :
    ∀ own ∈ number, 1 ≤ own ∧ own ≤ 255 := by
  rintro own rfl
  change ((Directory.checkInstance own).map _).map _ = _ at stands
  cases checked : Directory.checkInstance own with
  | ok code => exact range_of_checkInstance checked
  | error error =>
    rw [checked] at stands
    cases stands

/-- A typed device is its own target. -/
theorem target_place (directory : Directory) (device : TypedDevice) :
    directory.target (.ofSpecifier device.specifier) = .ok (.device device.specifier) := by
  show (directory.specifier (.ofSpecifier device.specifier)).map _ = _
  rw [directory.specifier_ofSpecifier device.numbered]
  rfl

/-- What is read as the place of a typed device addresses it. -/
theorem addressed_place (device : TypedDevice) (front : device.front = argument)
    (read : arg = .ofSpecifier device.specifier) (stands : directory.target arg = .ok target) :
    Addressed directory argument arg target := by
  subst front read
  rw [target_place] at stands
  cases stands
  exact .place device

/-! ## All arguments -/

/-- **What is accepted and resolved addresses its target.** -/
theorem addressed_of_form (form : DeviceForm argument arg) (words : ∀ text, .word text ∈ argument → IsWord text)
    (good : ∀ name device, directory.alias? name = some device → AliasWord name)
    (stands : directory.target arg = .ok target) : Addressed directory argument arg target := by
  cases form with
  | @address text ip isAddress =>
    exact addressed_place (.address ⟨text, ip, words text List.mem_cons_self, isAddress⟩ none) rfl rfl stands
  | @placed text ip object code number isAddress form =>
    obtain ⟨typed, rfl, rfl, rfl⟩ :=
      form.exists_typed (fun own mem => words own (List.mem_cons_of_mem _ mem)) (inRange_of_target stands)
    refine addressed_place (.address ⟨text, ip, words text List.mem_cons_self, isAddress⟩ (some typed)) rfl ?_ stands
    simp [DeviceArg.ofSpecifier, TypedDevice.specifier, TypedObject.number?, Function.comp_def]
  | @anywhere object code number form =>
    obtain ⟨typed, rfl, rfl, rfl⟩ := form.exists_typed words (inRange_of_target stands)
    refine addressed_place (.anywhere typed) rfl ?_ stands
    simp [DeviceArg.ofSpecifier, TypedDevice.specifier, TypedObject.number?, Function.comp_def]
  | @group name at_sign =>
    rw [Directory.target] at stands
    split at stands
    · cases stands
      exact .group at_sign
    · cases stands
  | aliased name =>
    cases bound : directory.alias? name with
    | some device =>
      have names : AliasOf directory name device := ⟨good name device bound, bound⟩
      rw [names.names.stands] at stands
      cases stands
      exact .aliased names
    | none =>
      rw [Directory.target, Directory.specifier, bound] at stands
      · cases stands
      · rintro other ⟨⟩

/-- **An argument is read alike in front of everything that is not more of a device.** -/
theorem Addressed.takes (h : Addressed directory argument arg target) {after : List Mark} (ends : NoObject after) :
    Takes deviceNode (argument ++ after) (.device arg) after := by
  cases h with
  | place device => exact device.takes (.of_noObject ends)
  | group at_sign => exact takes_device_group at_sign
  | aliased bound => exact takes_device_alias bound.word

end DeviceConsole
