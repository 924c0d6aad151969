import DeviceConsole.Proofs.Net.Unique

/-!
# `Proofs.Net.ReadBack` — a written address is read as itself

The groups of an IPv6 address are read one after the other, each up to its colon, until a text follows that starts with
no group: the end, or the two colons in the place of the zeros that are left out. In front of each group a dotted form
is tried. It holds a point, and of the written forms only that of an address that maps an IPv4 address has one.

* `Hex.length_minimal_le` — a group has at most four digits;
* `Ipv6.readGroup?_minimal`, `Ipv6.readGroups_writeGroups` — groups are read back;
* `Ipv6.ofParts?_of_run` — the zeros that are left out are put in their place;
* `Ipv6.ofDotted_mapped` — the dotted form in the place of the last two groups;
* `Ipv6.readFront?_write` — an IPv6 address is read back;
* `IpAddress.ofText?_toText` — **a written address is read as itself**.
-/

namespace DeviceConsole.Text

/-- A small number has few digits. -/
theorem Hex.length_minimal_le {count value : Nat} (h : value < 16 ^ (count + 1)) :
    (minimal value).length ≤ count + 1 := by
  induction count generalizing value with
  | zero =>
    rw [minimal, if_pos (by simpa using h)]
    exact Nat.le_refl 1
  | succ count ih =>
    rw [minimal]
    split
    · exact Nat.succ_le_succ (Nat.zero_le _)
    · have less : value / 16 < 16 ^ (count + 1) := by
        rw [Nat.div_lt_iff_lt_mul (by decide), ← Nat.pow_succ]
        exact h
      have front := ih less
      rw [List.length_append, List.length_singleton]
      omega

theorem Hex.isSome_of_mem_minimal {value : Nat} {c : Char} (mem : c ∈ minimal value) :
    (digitValue? c).isSome = true := by
  obtain ⟨digit, small, rfl⟩ := mem_minimal mem
  rw [digitValue?_lowerDigitChar small]
  rfl

end DeviceConsole.Text

namespace DeviceConsole.Net

open Text

variable {group : UInt16} {groups front back : List UInt16} {rest text : List Char} {room : Nat} {first : Bool}

/-! ## One group -/

/-- The text does not go on with a hexadecimal digit. -/
def NoHexDigit (text : List Char) : Prop := ∀ c ∈ text.head?, Hex.digitValue? c = none

theorem noHexDigit_colon (rest : List Char) : NoHexDigit (':' :: rest) := by
  intro c mem
  rw [List.head?_cons, Option.mem_some_iff] at mem
  exact mem ▸ rfl

/-- **A group is read back** in front of any text that does not go on with a digit. -/
theorem Ipv6.readGroup?_minimal (ends : NoHexDigit rest) :
    readGroup? (Hex.minimal group.toNat ++ rest) = some (group, rest) := by
  have run : (Hex.minimal group.toNat ++ rest).takeWhile (fun c => (Hex.digitValue? c).isSome)
      = Hex.minimal group.toNat := by
    rw [List.takeWhile_append_of_pos fun c mem => Hex.isSome_of_mem_minimal mem]
    cases rest with
    | nil => rw [List.takeWhile_nil, List.append_nil]
    | cons c tail =>
      have stop : Hex.digitValue? c = none := ends c rfl
      rw [List.takeWhile_cons_of_neg (by rw [stop]; simp), List.append_nil]
  have short : (Hex.minimal group.toNat).length ≤ 3 + 1 := Hex.length_minimal_le group.toNat_lt
  have some_digit : (Hex.minimal group.toNat).isEmpty = false := by
    rw [List.isEmpty_eq_false_iff]
    exact Hex.minimal_ne_nil _
  rw [readGroup?, run]
  simp only [some_digit, Bool.false_or, decide_eq_true_eq]
  rw [if_neg (by omega), Hex.readDigits?_minimal, List.drop_left, Option.map_some, UInt16.ofNat_toNat]

theorem Ipv6.readGroup?_of_head {c : Char} (digit : Hex.digitValue? c = none) : readGroup? (c :: rest) = none := by
  rw [readGroup?, List.takeWhile_cons_of_neg (by rw [digit]; simp)]
  rfl

/-! ## Groups -/

/-- What can follow groups: the end, or two colons for the groups that are left out. -/
def Stops (rest : List Char) : Prop := rest = [] ∨ ∃ more, rest = ':' :: ':' :: more

/-- Where no further group can stand, none is read. -/
theorem Ipv6.readGroups_stop (stops : Stops rest) : readGroups room first rest = ([], false, rest) := by
  cases room with
  | zero => rfl
  | succ room =>
    have colon (more : List Char) : Ipv4.readFront? (':' :: more) = none ∧ readGroup? (':' :: more) = none :=
      ⟨Ipv4.readFront?_of_head rfl, readGroup?_of_head rfl⟩
    -- with or without a colon taken away, there is nothing or a colon, and neither starts a form
    have neither : (afterColon? first rest).bind Ipv4.readFront? = none
        ∧ (afterColon? first rest).bind readGroup? = none := by
      obtain rfl | ⟨more, rfl⟩ := stops
      · cases first <;> exact ⟨rfl, rfl⟩
      · cases first <;> exact colon _
    rw [readGroups]
    simp only [neither, ite_self]

/-- A group in front of other groups. -/
theorem Ipv6.readGroups_group (behind : afterColon? first text = some (Hex.minimal group.toNat ++ rest))
    (ends : NoHexDigit rest) (pointless : '.' ∉ Hex.minimal group.toNat ++ rest) :
    readGroups (room + 1) first text
      = (group :: (readGroups room false rest).1, (readGroups room false rest).2) := by
  have undotted := Ipv4.readFront?_of_no_point pointless
  rw [readGroups, behind]
  simp only [Option.bind_some, undotted, ite_self, readGroup?_minimal ends]

/-- Groups behind the first one, each with its colon. -/
def Ipv6.writeFurther (groups : List UInt16) : List Char := groups.flatMap fun group => ':' :: Hex.minimal group.toNat

theorem Ipv6.writeGroups_eq_writeFurther (group : UInt16) (groups : List UInt16) :
    writeGroups (group :: groups) = Hex.minimal group.toNat ++ writeFurther groups := by
  induction groups generalizing group with
  | nil => exact (List.append_nil _).symm
  | cons next rest ih =>
    rw [writeGroups, ih next]
    · rfl
    · simp

theorem Ipv6.noHexDigit_further (stops : Stops rest) : NoHexDigit (writeFurther groups ++ rest) := by
  cases groups with
  | nil =>
    obtain rfl | ⟨more, rfl⟩ := stops
    · simp [NoHexDigit, writeFurther]
    · exact noHexDigit_colon _
  | cons group groups => exact noHexDigit_colon _

theorem Ipv6.readGroups_writeFurther (enough : groups.length ≤ room) (stops : Stops rest)
    (pointless : '.' ∉ writeFurther groups ++ rest) :
    readGroups room false (writeFurther groups ++ rest) = (groups, false, rest) := by
  induction groups generalizing room with
  | nil => exact readGroups_stop stops
  | cons group groups ih =>
    obtain ⟨left, rfl⟩ : ∃ left, room = left + 1 := ⟨room - 1, by simp only [List.length_cons] at enough; omega⟩
    have shape : writeFurther (group :: groups) ++ rest
        = ':' :: (Hex.minimal group.toNat ++ (writeFurther groups ++ rest)) := by simp [writeFurther]
    rw [shape] at pointless ⊢
    have inside : '.' ∉ Hex.minimal group.toNat ++ (writeFurther groups ++ rest) :=
      fun mem => pointless (List.mem_cons_of_mem _ mem)
    rw [readGroups_group rfl (noHexDigit_further stops) inside,
      ih (Nat.le_of_succ_le_succ enough) fun mem => inside (List.mem_append_right _ mem)]

/-- **Groups are read back**, if there is room for them. -/
theorem Ipv6.readGroups_writeGroups (enough : groups.length ≤ room) (stops : Stops rest)
    (pointless : '.' ∉ writeGroups groups ++ rest) :
    readGroups room true (writeGroups groups ++ rest) = (groups, false, rest) := by
  cases groups with
  | nil => exact readGroups_stop stops
  | cons group groups =>
    obtain ⟨left, rfl⟩ : ∃ left, room = left + 1 := ⟨room - 1, by simp only [List.length_cons] at enough; omega⟩
    rw [writeGroups_eq_writeFurther, List.append_assoc] at pointless ⊢
    rw [readGroups_group rfl (noHexDigit_further stops) pointless,
      readGroups_writeFurther (Nat.le_of_succ_le_succ enough) stops
        fun mem => pointless (List.mem_append_right _ mem)]

theorem Ipv6.readGroups_whole (enough : groups.length ≤ room) :
    readGroups room true (writeGroups groups) = (groups, false, []) := by
  have pointless : '.' ∉ writeGroups groups ++ [] := by
    rw [List.append_nil]
    exact point_not_mem_writeGroups groups
  have read := readGroups_writeGroups enough (.inl rfl) pointless
  rwa [List.append_nil] at read

/-! ## Whole addresses -/

/-- **The zeros that are left out are put in their place.** -/
theorem Ipv6.ofParts?_of_run {address : Ipv6} {count : Nat}
    (parts : address.groups = front ++ List.replicate count 0 ++ back) : ofParts? front back = some address := by
  have total := length_of_run parts
  have missing : 8 - front.length - back.length = count := by omega
  have groups : front ++ List.replicate (8 - front.length - back.length) 0 ++ back = address.groups := by
    rw [missing, parts]
  unfold ofParts?
  simp only [groups, address.length_groups, dif_pos]

/-- A group is made of its two bytes. -/
theorem Ipv6.group_of_bytes (group : UInt16) :
    (group >>> 8).toUInt8.toUInt16 <<< 8 ||| group.toUInt8.toUInt16 = group := by
  have less : group.toNat < 65536 := group.toNat_lt
  have upper : group.toNat / 2 ^ 8 % 2 ^ 8 * 2 ^ 8 % 2 ^ 16 = (group.toNat / 2 ^ 8) <<< 8 := by
    rw [Nat.shiftLeft_eq]
    omega
  have both : (group.toNat / 2 ^ 8) <<< 8 ||| group.toNat % 2 ^ 8 = group.toNat := by
    rw [← Nat.shiftLeft_add_eq_or_of_lt (Nat.mod_lt _ (by decide)), Nat.shiftLeft_eq]
    omega
  apply UInt16.toNat_inj.mp
  simp only [UInt16.toNat_or, UInt16.toNat_shiftLeft, UInt8.toNat_toUInt16, UInt16.toNat_toUInt8,
    UInt16.toNat_shiftRight, UInt16.reduceToNat, Nat.reduceMod, Nat.shiftRight_eq_div_pow]
  rw [Nat.shiftLeft_eq, upper, both]

/-- The dotted form of a mapped address stands for the last two of its groups. -/
theorem Ipv6.ofDotted_mapped {address : Ipv6} {inner : Ipv4} (isMapped : address.mapped? = some inner) :
    address.groups = List.replicate 5 0 ++ 0xffff :: ofDotted inner := by
  obtain ⟨high, low, shape, rfl⟩ := groups_of_mapped isMapped
  rw [shape, ofDotted]
  simp only [group_of_bytes]
  rfl

/-- **An IPv6 address is read back**, in each of its written forms. -/
theorem Ipv6.readFront?_write (address : Ipv6) : readFront? address.write = some (address, []) := by
  have form := address.form_write
  generalize address.write = text at form
  cases form with
  | @mapped inner isMapped =>
    -- the two colons stand in front, and behind the ones the dotted form ends the groups
    have inFront : readGroups 8 true (':' :: ':' :: ("ffff:".toList ++ inner.write))
        = ([], false, ':' :: ':' :: ("ffff:".toList ++ inner.write)) := readGroups_stop (.inr ⟨_, rfl⟩)
    have undotted : Ipv4.readFront? ("ffff:".toList ++ inner.write) = none := Ipv4.readFront?_of_head rfl
    have ones : readGroup? ("ffff:".toList ++ inner.write) = some (0xffff, ':' :: inner.write) := by
      have digits : Hex.minimal (UInt16.toNat 0xffff) = "ffff".toList := by decide +kernel
      have read := @readGroup?_minimal 0xffff (':' :: inner.write) (noHexDigit_colon inner.write)
      rw [digits] at read
      exact read
    have dotted : Ipv4.readFront? (inner.write ++ []) = some (inner, []) := Ipv4.readFront?_write noDigit_nil
    rw [List.append_nil] at dotted
    have last : readGroups 6 false (':' :: inner.write) = (ofDotted inner, true, []) := by
      rw [readGroups]
      simp only [afterColon?, Bool.false_eq_true, if_false, Option.bind_some, dotted, Nat.reduceEqDiff]
    have behind : readGroups 7 true ("ffff:".toList ++ inner.write) = (0xffff :: ofDotted inner, true, []) := by
      rw [readGroups]
      simp only [afterColon?, if_true, Option.bind_some, undotted, ite_self, ones, last]
    have parts : address.groups = [] ++ List.replicate 5 0 ++ 0xffff :: ofDotted inner := ofDotted_mapped isMapped
    show readFront? (':' :: ':' :: ("ffff:".toList ++ inner.write)) = _
    rw [readFront?, inFront]
    simp only [List.length_nil, Bool.false_eq_true, if_false, Nat.sub_zero, behind, ofParts?_of_run parts,
      Option.map_some]
    rfl
  | full =>
    have read : readGroups 8 true (writeGroups address.groups) = (address.groups, false, []) :=
      readGroups_whole (Nat.le_of_eq address.length_groups)
    have parts : address.groups = address.groups ++ List.replicate 0 0 ++ [] := by simp
    rw [readFront?, read]
    simp only [address.length_groups, if_true, ofParts?_of_run parts, Option.map_some]
  | @compressed front back count run parts =>
    have total := length_of_run parts
    have pointless := point_not_mem_compressed front back
    have inFront : readGroups 8 true (writeGroups front ++ ':' :: ':' :: writeGroups back)
        = (front, false, ':' :: ':' :: writeGroups back) :=
      readGroups_writeGroups (by omega) (.inr ⟨_, rfl⟩) pointless
    have behind : readGroups (7 - front.length) true (writeGroups back) = (back, false, []) :=
      readGroups_whole (by omega)
    rw [readFront?, inFront]
    simp only [Bool.false_eq_true, if_false, behind, ofParts?_of_run parts, Option.map_some]
    rw [if_neg (by omega)]

/-- **A written address is read as itself.** -/
theorem IpAddress.ofText?_toText (address : IpAddress) : ofText? address.toText = some address := by
  cases address with
  | v4 inner => exact ofText?_dotted inner
  | v6 address =>
    have undotted : Ipv4.readFront? address.write = none := by
      have form := address.form_write
      generalize address.write = text at form
      cases form with
      | mapped _ => exact Ipv4.readFront?_of_head rfl
      | full => exact Ipv4.readFront?_of_no_point (Ipv6.point_not_mem_writeGroups _)
      | compressed _ _ => exact Ipv4.readFront?_of_no_point (Ipv6.point_not_mem_compressed _ _)
    rw [ofText?, toText, String.toList_ofList, write, read?, undotted, Ipv6.readFront?_write]
    rfl

end DeviceConsole.Net
