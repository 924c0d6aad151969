import DeviceConsole.Proofs.Printed

/-!
# `Proofs.Net.Unique` — no two devices are printed alike

An IPv6 address leaves out a run of zero groups and says only where it was. What is left of the groups is found again
between the colons of the text, and the number of groups that are missing is known, so the address is. An address that
maps an IPv4 address is the only one with points in its text, and an IPv4 address is the only one without colons.

* `longestZeroRun_zeros` — the run that is left out consists of zeros;
* `Ipv6.parts_writeGroups`, `Ipv6.parts_compressed` — the parts between the colons;
* `Ipv6.eq_of_compressed`, `Ipv6.writeGroups_ne_compressed` — what they tell of the groups;
* `Ipv6.write_injective`, `IpAddress.toText_injective` — no two addresses are written alike;
* `Endpoint.eq_of_texts` — **no two devices are printed alike**.
-/

namespace DeviceConsole.Text

theorem Hex.digitValue?_lowerDigitChar {value : Nat} (h : value < 16) :
    digitValue? (lowerDigitChar value) = some value := by
  have all : ∀ v ∈ List.range 16, digitValue? (lowerDigitChar v) = some v := by decide
  exact all value (List.mem_range.mpr h)

theorem Hex.readDigits?_minimal (value : Nat) : readDigits? (minimal value) = some value := by
  induction value using minimal.induct with
  | case1 value small =>
    rw [minimal, if_pos small, ← List.nil_append [_], readDigits?_concat, digitValue?_lowerDigitChar small]
    simp [readDigits?]
  | case2 value large ih =>
    have last : value % 16 < 16 := Nat.mod_lt _ (by decide)
    have whole : value / 16 * 16 + value % 16 = value := by omega
    rw [minimal, if_neg large, readDigits?_concat, ih, digitValue?_lowerDigitChar last]
    simp [whole]

theorem Hex.minimal_injective {value other : Nat} (same : minimal value = minimal other) : value = other := by
  have both := readDigits?_minimal value
  rw [same, readDigits?_minimal] at both
  exact (Option.some.inj both).symm

theorem Hex.fixed_injective {count value other : Nat} (small : value < 16 ^ count) (less : other < 16 ^ count)
    (same : fixed count value = fixed count other) : value = other := by
  have both := readNumber?_fixed small
  rw [same, readNumber?_fixed less] at both
  exact (Option.some.inj both).symm

theorem Decimal.write_injective {value other : Nat} (same : write value = write other) : value = other := by
  have both := readDigits?_write value
  rw [same, readDigits?_write] at both
  exact (Option.some.inj both).symm

end DeviceConsole.Text

namespace DeviceConsole.Net

open Text

/-! ## The run of zeros -/

/-- **The run that is left out consists of zeros** and lies within the groups. -/
theorem Ipv6.longestZeroRun_zeros (index : Nat) (groups : List UInt16) :
    ∃ front back, groups = front ++ List.replicate (longestZeroRun index groups).2 0 ++ back
      ∧ (longestZeroRun index groups).1 = index + front.length := by
  induction groups generalizing index with
  | nil => exact ⟨[], [], rfl, rfl⟩
  | cons group rest ih =>
    rw [longestZeroRun]
    split
    · obtain ⟨front, back, parts, start⟩ := ih (index + 1)
      refine ⟨group :: front, back, ?_, ?_⟩
      · rw [List.cons_append, List.cons_append, ← parts]
      · rw [start, List.length_cons]
        omega
    · have zeros : ((group :: rest).takeWhile (· == 0)) = List.replicate (leadingZeros (group :: rest)) 0 := by
        refine List.eq_replicate_iff.mpr ⟨rfl, fun zero mem => ?_⟩
        simpa using List.mem_takeWhile_imp mem
      refine ⟨[], (group :: rest).dropWhile (· == 0), ?_, rfl⟩
      rw [List.nil_append, ← zeros, List.takeWhile_append_dropWhile]

/-! ## Between the colons -/

/-- Groups as they stand between colons; no group leaves an empty part. -/
def Ipv6.partsOf : List UInt16 → List (List Char)
  | [] => [[]]
  | group :: rest => (group :: rest).map fun group => Hex.minimal group.toNat

theorem Ipv6.partsOf_ne_nil (groups : List UInt16) : partsOf groups ≠ [] := by
  cases groups <;> simp [partsOf]

theorem Ipv6.colon_not_mem_partsOf {groups : List UInt16} {part : List Char} (mem : part ∈ partsOf groups) :
    ':' ∉ part := by
  have digits : ∀ digit ∈ List.range 16, Hex.lowerDigitChar digit ≠ ':' := by decide
  cases groups with
  | nil =>
    rw [List.mem_singleton.mp mem]
    exact List.not_mem_nil
  | cons group rest =>
    obtain ⟨own, -, rfl⟩ := List.mem_map.mp mem
    intro colon
    obtain ⟨digit, less, same⟩ := Hex.mem_minimal colon
    exact digits digit (List.mem_range.mpr less) same.symm

/-- The groups are found in front of the first empty part. -/
theorem Ipv6.takeWhile_partsOf (groups : List UInt16) (behind : List (List Char)) :
    (partsOf groups ++ [] :: behind).takeWhile (fun part => !part.isEmpty)
      = groups.map fun group => Hex.minimal group.toNat := by
  cases groups with
  | nil => rfl
  | cons group rest =>
    have some_digit : ∀ part ∈ partsOf (group :: rest), (!part.isEmpty) = true := by
      intro part mem
      obtain ⟨own, -, rfl⟩ := List.mem_map.mp mem
      simp [Hex.minimal_ne_nil]
    rw [List.takeWhile_append_of_pos some_digit, List.takeWhile_cons]
    exact List.append_nil _

theorem Ipv6.map_minimal_injective {groups others : List UInt16}
    (same : groups.map (fun group => Hex.minimal group.toNat) = others.map fun group => Hex.minimal group.toNat) :
    groups = others :=
  (List.map_inj_right fun _ _ alike => UInt16.toNat_inj.mp (Hex.minimal_injective alike)).mp same

theorem Ipv6.partsOf_injective {groups others : List UInt16} (same : partsOf groups = partsOf others) :
    groups = others := by
  have front := takeWhile_partsOf groups []
  rw [same, takeWhile_partsOf] at front
  exact (map_minimal_injective front).symm

/-- A part in front of others, with colons between. -/
theorem intercalate_append {parts others : List (List Char)} (first : parts ≠ []) (second : others ≠ []) :
    [':'].intercalate (parts ++ others) = [':'].intercalate parts ++ ':' :: [':'].intercalate others := by
  induction parts with
  | nil => exact absurd rfl first
  | cons part rest ih =>
    cases rest with
    | nil =>
      rw [List.singleton_append, List.intercalate_cons_of_ne_nil second, List.intercalate_singleton, List.append_assoc]
      rfl
    | cons next more =>
      rw [List.cons_append, List.intercalate_cons_of_ne_nil (by simp), ih (by simp), List.intercalate_cons_cons,
        List.append_assoc _ _ (':' :: _)]

theorem Ipv6.writeGroups_eq (groups : List UInt16) : writeGroups groups = [':'].intercalate (partsOf groups) := by
  induction groups with
  | nil => rfl
  | cons group rest ih =>
    cases rest with
    | nil => exact (List.intercalate_singleton ..).symm
    | cons next more =>
      have behind : partsOf (group :: next :: more) = Hex.minimal group.toNat :: partsOf (next :: more) := rfl
      rw [writeGroups, ih, behind, List.intercalate_cons_of_ne_nil (partsOf_ne_nil _), List.append_assoc]
      · rfl
      · simp

/-- The groups of a text that leaves none out are its parts. -/
theorem Ipv6.parts_writeGroups (groups : List UInt16) : (writeGroups groups).splitOn ':' = partsOf groups := by
  rw [writeGroups_eq]
  exact List.splitOn_intercalate ':' (fun _ mem => colon_not_mem_partsOf mem) (partsOf_ne_nil groups)

/-- **Where groups are left out there is an empty part** between those in front and those behind. -/
theorem Ipv6.parts_compressed (front back : List UInt16) :
    (writeGroups front ++ ':' :: ':' :: writeGroups back).splitOn ':' = partsOf front ++ [] :: partsOf back := by
  have joined : writeGroups front ++ ':' :: ':' :: writeGroups back
      = [':'].intercalate (partsOf front ++ [] :: partsOf back) := by
    rw [intercalate_append (partsOf_ne_nil _) (by simp), List.intercalate_cons_of_ne_nil (partsOf_ne_nil _),
      writeGroups_eq, writeGroups_eq]
    rfl
  rw [joined]
  refine List.splitOn_intercalate ':' (fun part mem => ?_) (by simp)
  rcases List.mem_append.mp mem with inFront | behind
  · exact colon_not_mem_partsOf inFront
  · rcases List.mem_cons.mp behind with rfl | inBack
    · exact List.not_mem_nil
    · exact colon_not_mem_partsOf inBack

/-! ## IPv6 addresses -/

/-- How an address is written: as the IPv4 address that it maps, with all its groups, or with a run of zeros left
out. -/
inductive Ipv6.Form (address : Ipv6) : List Char → Prop
  | mapped {inner : Ipv4} : address.mapped? = some inner → Form address ("::ffff:".toList ++ inner.write)
  | full : Form address (writeGroups address.groups)
  | compressed {front back : List UInt16} {count : Nat} : 1 < count →
      address.groups = front ++ List.replicate count 0 ++ back →
      Form address (writeGroups front ++ ':' :: ':' :: writeGroups back)

theorem Ipv6.form_write (address : Ipv6) : address.Form address.write := by
  unfold write
  cases isMapped : address.mapped? with
  | some inner => exact .mapped isMapped
  | none =>
    obtain ⟨front, back, parts, start⟩ := longestZeroRun_zeros 0 address.groups
    generalize longestZeroRun 0 address.groups = found at parts start ⊢
    obtain ⟨first, count⟩ := found
    simp only [Nat.zero_add] at parts start ⊢
    by_cases run : 1 < count
    · have inFront : address.groups.take first = front := by
        rw [start, parts, List.append_assoc, List.take_left]
      have behind : address.groups.drop (first + count) = back := by
        have length : first + count = (front ++ List.replicate count (0 : UInt16)).length := by
          rw [start, List.length_append, List.length_replicate]
        rw [length, parts, List.drop_left]
      rw [if_pos run, inFront, behind]
      exact .compressed run parts
    · rw [if_neg run]
      exact .full

theorem Ipv6.mem_writeGroups {groups : List UInt16} {c : Char} (h : c ∈ writeGroups groups) :
    c = ':' ∨ ∃ digit, digit < 16 ∧ c = Hex.lowerDigitChar digit := by
  induction groups with
  | nil => cases h
  | cons group rest ih =>
    cases rest with
    | nil => exact .inr (Hex.mem_minimal h)
    | cons next more =>
      rw [writeGroups, List.mem_append, List.mem_cons] at h
      · rcases h with own | rfl | behind
        · exact .inr (Hex.mem_minimal own)
        · exact .inl rfl
        · exact ih behind
      · simp

theorem Ipv6.point_not_mem_writeGroups (groups : List UInt16) : '.' ∉ writeGroups groups := by
  have digits : ∀ digit ∈ List.range 16, Hex.lowerDigitChar digit ≠ '.' := by decide
  intro point
  rcases mem_writeGroups point with colon | ⟨digit, less, same⟩
  · cases colon
  · exact digits digit (List.mem_range.mpr less) same.symm

theorem Ipv4.point_mem_write (address : Ipv4) : '.' ∈ address.write := by simp [write]

theorem Ipv4.write_injective {address other : Ipv4} (same : address.write = other.write) : address = other := by
  have both := IpAddress.ofText?_dotted address
  rw [IpAddress.toText, IpAddress.write, same] at both
  have again := IpAddress.ofText?_dotted other
  rw [IpAddress.toText, IpAddress.write, both] at again
  exact (IpAddress.v4.inj (Option.some.inj again))

theorem Ipv6.eq_of_groups {address other : Ipv6} (same : address.groups = other.groups) : address = other := by
  cases address
  cases other
  cases same
  rfl

theorem Ipv6.groups_of_mapped {address : Ipv6} {inner : Ipv4} (isMapped : address.mapped? = some inner) :
    ∃ high low : UInt16, address.groups = [0, 0, 0, 0, 0, 0xffff, high, low]
      ∧ inner = ⟨(high >>> 8).toUInt8, high.toUInt8, (low >>> 8).toUInt8, low.toUInt8⟩ := by
  unfold mapped? at isMapped
  split at isMapped
  · next high low shape => exact ⟨high, low, shape, (Option.some.inj isMapped).symm⟩
  · cases isMapped

/-- The two bytes of a group determine it. -/
theorem Ipv6.group_eq_of_bytes {group other : UInt16} (upper : (group >>> 8).toUInt8 = (other >>> 8).toUInt8)
    (lower : group.toUInt8 = other.toUInt8) : group = other := by
  have up := congrArg UInt8.toNat upper
  have low := congrArg UInt8.toNat lower
  simp only [UInt16.toNat_toUInt8, UInt16.toNat_shiftRight, UInt16.reduceToNat, Nat.reduceMod,
    Nat.shiftRight_eq_div_pow, Nat.reducePow] at up low
  have small := group.toNat_lt
  have less := other.toNat_lt
  exact UInt16.toNat_inj.mp (by omega)

/-- An address is the only one that maps its IPv4 address. -/
theorem Ipv6.eq_of_mapped {address other : Ipv6} {inner : Ipv4} (first : address.mapped? = some inner)
    (second : other.mapped? = some inner) : address = other := by
  obtain ⟨high, low, shape, octets⟩ := groups_of_mapped first
  obtain ⟨high', low', shape', octets'⟩ := groups_of_mapped second
  rw [octets] at octets'
  obtain ⟨a, b, c, d⟩ := Ipv4.mk.inj octets'
  obtain rfl := group_eq_of_bytes a b
  obtain rfl := group_eq_of_bytes c d
  exact eq_of_groups (shape.trans shape'.symm)

theorem Ipv6.point_mem_mapped (inner : Ipv4) : '.' ∈ "::ffff:".toList ++ inner.write :=
  List.mem_append_right _ inner.point_mem_write

theorem Ipv6.point_not_mem_compressed (front back : List UInt16) :
    '.' ∉ writeGroups front ++ ':' :: ':' :: writeGroups back := by
  simp [point_not_mem_writeGroups]

section Compressed

variable {groups front back front' back' : List UInt16} {count count' : Nat}

theorem Ipv6.eq_of_writeGroups (same : writeGroups front = writeGroups back) : front = back := by
  have cut := congrArg (List.splitOn ':') same
  rw [parts_writeGroups, parts_writeGroups] at cut
  exact partsOf_injective cut

/-- What stands in front of a run that is left out and behind it is found again. -/
theorem Ipv6.eq_of_compressed (same : writeGroups front ++ ':' :: ':' :: writeGroups back
      = writeGroups front' ++ ':' :: ':' :: writeGroups back') : front = front' ∧ back = back' := by
  have cut := congrArg (List.splitOn ':') same
  rw [parts_compressed, parts_compressed] at cut
  have found := congrArg (List.takeWhile fun part => !part.isEmpty) cut
  rw [takeWhile_partsOf, takeWhile_partsOf] at found
  obtain rfl := map_minimal_injective found
  obtain ⟨-, behind⟩ := List.cons.inj (List.append_cancel_left cut)
  exact ⟨rfl, partsOf_injective behind⟩

/-- All the groups of an address are not written like those that are left when a run is left out: of these too few
stand in front of the first empty part. -/
theorem Ipv6.writeGroups_ne_compressed (eight : groups.length = 8) (few : front.length < 8) :
    writeGroups groups ≠ writeGroups front ++ ':' :: ':' :: writeGroups back := by
  intro same
  have cut := congrArg (List.splitOn ':') same
  rw [parts_writeGroups, parts_compressed] at cut
  have found := congrArg (List.takeWhile fun part => !part.isEmpty) cut
  have all : partsOf groups = groups.map fun group => Hex.minimal group.toNat := by
    cases groups with
    | nil => cases eight
    | cons group rest => rfl
  have every : (partsOf groups).takeWhile (fun part => !part.isEmpty) = partsOf groups := by
    refine List.takeWhile_eq_self_iff.mpr fun part mem => ?_
    rw [all] at mem
    obtain ⟨own, -, rfl⟩ := List.mem_map.mp mem
    simp [Hex.minimal_ne_nil]
  rw [takeWhile_partsOf, every, all] at found
  have equal := congrArg List.length (map_minimal_injective found)
  omega

/-- The length of a run is what is missing of the eight groups. -/
theorem Ipv6.length_of_run {address : Ipv6} (parts : address.groups = front ++ List.replicate count 0 ++ back) :
    front.length + count + back.length = 8 := by
  have total := congrArg List.length parts
  rw [address.length_groups, List.length_append, List.length_append, List.length_replicate] at total
  exact total.symm

end Compressed

/-- **No two IPv6 addresses are written alike.** -/
theorem Ipv6.write_injective {address other : Ipv6} (same : address.write = other.write) : address = other := by
  have form := address.form_write
  have form' := other.form_write
  rw [← same] at form'
  -- points tell the mapped addresses from the others, and for these the parts between the colons decide
  generalize address.write = text at form form'
  cases form with
  | mapped isMapped =>
    generalize shape : "::ffff:".toList ++ _ = text at form'
    cases form' with
    | mapped alsoMapped =>
      have inner := Ipv4.write_injective (List.append_cancel_left shape)
      exact eq_of_mapped isMapped (inner ▸ alsoMapped)
    | full => exact absurd (shape ▸ point_mem_mapped _) (point_not_mem_writeGroups _)
    | compressed _ _ => exact absurd (shape ▸ point_mem_mapped _) (point_not_mem_compressed _ _)
  | full =>
    generalize shape : writeGroups address.groups = text at form'
    cases form' with
    | mapped _ => exact absurd (shape ▸ point_mem_mapped _) (point_not_mem_writeGroups _)
    | full => exact eq_of_groups (eq_of_writeGroups shape)
    | compressed run parts =>
      have total := length_of_run parts
      exact absurd shape (writeGroups_ne_compressed address.length_groups (by omega))
  | @compressed front back count run parts =>
    have total := length_of_run parts
    generalize shape : writeGroups front ++ ':' :: ':' :: writeGroups back = text at form'
    cases form' with
    | mapped _ => exact absurd (shape ▸ point_mem_mapped _) (point_not_mem_compressed _ _)
    | full => exact absurd shape.symm (writeGroups_ne_compressed other.length_groups (by omega))
    | @compressed front' back' count' run' parts' =>
      have total' := length_of_run parts'
      obtain ⟨rfl, rfl⟩ := eq_of_compressed shape
      obtain rfl : count = count' := by omega
      exact eq_of_groups (parts.trans parts'.symm)

/-! ## Addresses of both versions -/

theorem Ipv6.colon_mem_write (address : Ipv6) : ':' ∈ address.write := by
  generalize written : address.write = text
  have colons := address.colons_write
  rw [written] at colons
  cases colons <;> simp

theorem Ipv4.colon_not_mem_write (address : Ipv4) : ':' ∉ address.write := by
  have digits : ∀ digit ∈ List.range 10, Decimal.digitChar digit ≠ ':' := by decide
  intro colon
  rcases mem_write colon with point | ⟨digit, less, same⟩
  · cases point
  · exact digits digit (List.mem_range.mpr less) same.symm

/-- **No two addresses are written alike.** -/
theorem IpAddress.toText_injective {address other : IpAddress} (same : address.toText = other.toText) :
    address = other := by
  have texts : address.write = other.write := String.ofList_injective same
  cases address with
  | v4 first =>
    cases other with
    | v4 second => rw [Ipv4.write_injective texts]
    | v6 second =>
      have colon : ':' ∈ first.write := (show first.write = second.write from texts) ▸ second.colon_mem_write
      exact absurd colon first.colon_not_mem_write
  | v6 first =>
    cases other with
    | v4 second =>
      have colon : ':' ∈ second.write := (show first.write = second.write from texts) ▸ first.colon_mem_write
      exact absurd colon second.colon_not_mem_write
    | v6 second => rw [Ipv6.write_injective texts]

end DeviceConsole.Net

namespace DeviceConsole.Device

open Text

theorem ClassCode.toText_injective {code other : ClassCode} (same : code.toText = other.toText) : code = other := by
  have small := code.value.toNat_lt
  have less := other.value.toNat_lt
  have numbers : code.value.toNat = other.value.toNat :=
    @Hex.fixed_injective 4 _ _ small less (String.ofList_injective same)
  cases code
  cases other
  exact congrArg ClassCode.mk (UInt16.toNat_inj.mp numbers)

theorem Epc.toText_injective {code other : Epc} (same : code.toText = other.toText) : code = other := by
  have small := code.value.toNat_lt
  have less := other.value.toNat_lt
  have numbers : code.value.toNat = other.value.toNat :=
    @Hex.fixed_injective 2 _ _ small less (String.ofList_injective same)
  cases code
  cases other
  exact congrArg Epc.mk (UInt8.toNat_inj.mp numbers)

/-- No two objects are written alike: a class code has four digits. -/
theorem Eoj.toText_injective {eoj other : Eoj} (same : eoj.toText = other.toText) : eoj = other := by
  have shape : ∀ eoj : Eoj, eoj.toText.toList
      = eoj.classCode.toText.toList ++ ':' :: Decimal.write eoj.instanceCode.toNat := by
    intro eoj
    simp [Eoj.toText]
  have four : ∀ code : ClassCode, code.toText.toList.length = 4 := by
    intro code
    rw [ClassCode.toText, String.toList_ofList, Hex.length_fixed]
  have chars : eoj.classCode.toText.toList ++ ':' :: Decimal.write eoj.instanceCode.toNat
      = other.classCode.toText.toList ++ ':' :: Decimal.write other.instanceCode.toNat := by
    rw [← shape, ← shape, same]
  obtain ⟨classes, behind⟩ := List.append_inj chars ((four _).trans (four _).symm)
  have numbers := (List.cons.inj behind).2
  obtain ⟨code, number⟩ := eoj
  obtain ⟨code', number'⟩ := other
  obtain rfl := ClassCode.toText_injective (String.toList_inj.mp classes)
  obtain rfl := UInt8.toNat_inj.mp (Decimal.write_injective numbers)
  rfl

/-- **No two devices are printed alike.** -/
theorem Endpoint.eq_of_texts {device other : Endpoint} (ip : device.ip.toText = other.ip.toText)
    (eoj : device.eoj.toText = other.eoj.toText) : device = other := by
  obtain ⟨address, object⟩ := device
  obtain ⟨address', object'⟩ := other
  obtain rfl := Net.IpAddress.toText_injective ip
  obtain rfl := Eoj.toText_injective eoj
  rfl

end DeviceConsole.Device
