import DeviceConsole.Proofs.Command.Names
import DeviceConsole.Proofs.Grammar.Assembly
import DeviceConsole.Proofs.Grammar.Diagnostics
import DeviceConsole.Proofs.Rows

/-!
# `Proofs.Printed` — devices as they are printed

A device is printed as its address and its object, and the printed form is what a user copies into the next line. The
line is cut at every colon before the words are looked at. A dotted address has no colon, and the one colon of the
object is that of the grammar, so the printed form of a device with an IPv4 address is read as this device. An IPv6
address is cut into its groups, with two colons together or with colons behind its first two groups, and no command has
such a place.

* `Ipv6.colons_write` — where the first colons of an IPv6 address stand;
* `Colons.not_blocks` — they fit no command;
* `denotes_printed` — the printed form of a device with an IPv4 address stands for the device;
* `printed_of_reaches` — **the devices that a site knows, as they are printed**.
-/

namespace DeviceConsole.Text.Hex

theorem minimal_ne_nil (value : Nat) : minimal value ≠ [] := by
  rw [minimal]
  split <;> simp

theorem mem_minimal {value : Nat} {c : Char} (h : c ∈ minimal value) :
    ∃ digit, digit < 16 ∧ c = lowerDigitChar digit := by
  induction value using minimal.induct with
  | case1 value small =>
    rw [minimal, if_pos small, List.mem_singleton] at h
    exact ⟨value, small, h⟩
  | case2 value large ih =>
    rw [minimal, if_neg large, List.mem_append] at h
    rcases h with front | last
    · exact ih front
    · exact ⟨value % 16, Nat.mod_lt value (by decide), List.mem_singleton.mp last⟩

end DeviceConsole.Text.Hex

namespace DeviceConsole.Net

open Text (Hex.minimal)

/-! ## Colons of an IPv6 address -/

/-- Two colons with at most one group in front of them, or one behind each of the first two groups. -/
inductive Colons : List Char → Prop
  | front (rest : List Char) : Colons (':' :: ':' :: rest)
  | one (group : Nat) (rest : List Char) : Colons (Hex.minimal group ++ ':' :: ':' :: rest)
  | two (first second : Nat) (rest : List Char) :
      Colons (Hex.minimal first ++ ':' :: (Hex.minimal second ++ ':' :: rest))

/-- Behind the first group stands a colon. -/
theorem Ipv6.writeGroups_cons (group : UInt16) (others : List UInt16) (rest : List Char) :
    ∃ more, writeGroups (group :: others) ++ ':' :: rest = Hex.minimal group.toNat ++ ':' :: more := by
  cases others with
  | nil => exact ⟨rest, rfl⟩
  | cons next others =>
    refine ⟨writeGroups (next :: others) ++ ':' :: rest, ?_⟩
    rw [writeGroups, List.append_assoc, List.cons_append]
    simp

/-- Groups in front of two colons. -/
theorem Ipv6.colons_of_groups (groups : List UInt16) (rest : List Char) :
    Colons (writeGroups groups ++ ':' :: ':' :: rest) := by
  match groups with
  | [] => exact .front rest
  | [group] => exact .one group.toNat rest
  | group :: next :: others =>
    obtain ⟨more, shape⟩ := writeGroups_cons next others (':' :: rest)
    rw [writeGroups, List.append_assoc, List.cons_append, shape]
    · exact .two group.toNat next.toNat more
    · simp

/-- **Where the first colons of an IPv6 address stand**, in each of its written forms. -/
theorem Ipv6.colons_write (address : Ipv6) : Colons address.write := by
  obtain ⟨groups, eight⟩ := address
  unfold write
  split
  · exact .front _
  · by_cases run : 1 < (longestZeroRun 0 groups).2
    · simp only [run, if_true]
      exact colons_of_groups _ _
    · simp only [run, if_false]
      match groups with
      | first :: second :: third :: others =>
        exact .two first.toNat second.toNat (writeGroups (third :: others))

end DeviceConsole.Net

namespace DeviceConsole.Grammar

open Text (Hex.minimal)

/-! ## The colons in a line -/

theorem isWordChar_minimal {value : Nat} {c : Char} (h : c ∈ Hex.minimal value) : isWordChar c = true := by
  obtain ⟨digit, lt, rfl⟩ := Text.Hex.mem_minimal h
  have all : ∀ digit ∈ List.range 16, isWordChar (Text.Hex.lowerDigitChar digit) = true := by decide
  exact all digit (List.mem_range.mpr lt)

/-- A group in front of a colon is a word and a colon. -/
theorem marks_group (position group : Nat) (rest : List Char) :
    ∃ text behind, marks (tokenizeFrom position (Hex.minimal group ++ ':' :: rest))
      = .word text :: .colon :: marks (tokenizeFrom behind rest) := by
  have isWord : ∀ c ∈ Hex.minimal group, isWordChar c = true := fun _ => isWordChar_minimal
  have boundary : Boundary (':' :: rest) := boundary_cons (by decide)
  rw [tokenizeFrom_word position (Text.Hex.minimal_ne_nil group) isWord boundary, tokenizeFrom_colon]
  exact ⟨_, _, rfl⟩

/-- **No command has a place for the colons of an IPv6 address**, whatever word stands in front and whatever follows. -/
theorem Colons.not_blocks {text : List Char} (h : Net.Colons text) (keyword : String) (position : Nat)
    (rest : List Char) : ¬ Blocks (.word keyword :: marks (tokenizeFrom position (text ++ rest))) := by
  cases h with
  | front more =>
    rw [List.cons_append, List.cons_append, tokenizeFrom_colon, tokenizeFrom_colon]
    intro blocks
    cases blocks with
    | word behind => cases behind
  | one group more =>
    rw [List.append_assoc, List.cons_append]
    obtain ⟨word, behind, shape⟩ := marks_group position group (':' :: (more ++ rest))
    rw [List.cons_append, shape, tokenizeFrom_colon]
    intro blocks
    cases blocks with
    | word behind =>
      cases behind with
      | word behind => cases behind
  | two first second more =>
    rw [List.append_assoc, List.cons_append, List.append_assoc, List.cons_append]
    obtain ⟨word, behind, shape⟩ := marks_group position first (Hex.minimal second ++ ':' :: (more ++ rest))
    obtain ⟨next, behind', shape'⟩ := marks_group behind second (more ++ rest)
    rw [shape, shape']
    intro blocks
    cases blocks with
    | word behind =>
      cases behind with
      | word behind => cases behind
      | pair behind => cases behind

end DeviceConsole.Grammar

namespace DeviceConsole

open Device (Endpoint Property)
open Grammar

variable {device : Endpoint}

/-! ## Reading a printed device -/

/-- The printed device as its words are typed. -/
def printedDevice (address : Net.Ipv4) (eoj : Device.Eoj) (numbered : eoj.instanceCode ≠ 0) : TypedDevice :=
  .address (.ofDotted address) (some ⟨.ofClassCode eoj.classCode, some (.ofInstance eoj.instanceCode numbered)⟩)

/-- **The printed form of a device with an IPv4 address stands for the device.** -/
theorem denotes_printed (directory : Directory) (address : Net.Ipv4) (eoj : Device.Eoj)
    (numbered : eoj.instanceCode ≠ 0) :
    Denotes directory (Endpoint.toText ⟨.v4 address, eoj⟩) (printedDevice address eoj numbered).front
      (.ofSpecifier (.exact ⟨.v4 address, eoj⟩)) (.device (.exact ⟨.v4 address, eoj⟩)) where
  spells := by
    have words : (printedDevice address eoj numbered).text = Endpoint.toText ⟨.v4 address, eoj⟩ := rfl
    rw [← words]
    exact (printedDevice address eoj numbered).spells
  takes after noColon := (printedDevice address eoj numbered).takes noColon
  stands := by
    have nonzero : ∀ number ∈ (Device.Specifier.exact ⟨.v4 address, eoj⟩).instanceCode, number ≠ 0 := by
      intro number mem
      cases mem
      exact numbered
    show (directory.specifier (.ofSpecifier (.exact ⟨.v4 address, eoj⟩))).map Target.device = _
    rw [directory.specifier_ofSpecifier nonzero]
    rfl

/-- **No line has a place for the printed form of a device with an IPv6 address** behind its first word. -/
theorem parse_printed_v6 (directory : Directory) (address : Net.Ipv6) (eoj : Device.Eoj) {keyword : String}
    (isWord : IsWord keyword) (rest : String) :
    let line := keyword ++ " " ++ Endpoint.toText ⟨.v6 address, eoj⟩ ++ rest
    directory.parse line = .error (.mismatch (mismatchOf (tokenize line))) := by
  intro line
  have chars : line.toList
      = keyword.toList ++ ' ' :: (address.write ++ (' ' :: (eoj.toText.toList ++ rest.toList))) := by
    simp [line, Endpoint.toText, Net.IpAddress.toText, Net.IpAddress.write]
  have marked : marks (tokenize line) = .word keyword :: marks (tokenizeFrom (0 + keyword.toList.length + 1)
      (address.write ++ (' ' :: (eoj.toText.toList ++ rest.toList)))) := by
    rw [tokenize, chars, tokenizeFrom_word 0 isWord.1 isWord.2 (boundary_cons (by decide)), String.ofList_toList]
    show _ :: marks (tokenizeFrom _ _) = _
    rw [marks_tokenizeFrom_blank (by decide)]
    rfl
  have unfit := Colons.not_blocks address.colons_write keyword (0 + keyword.toList.length + 1)
    (' ' :: (eoj.toText.toList ++ rest.toList))
  unfold Directory.parse
  cases parsed : parseTokens (tokenize line) with
  | ok matched =>
    have blocks := blocks_of_parseTokens parsed
    rw [marked] at blocks
    exact absurd blocks unfit
  | error mismatch =>
    have said := mismatch_of_parseTokens parsed
    rw [said]

/-! ## Devices of a site -/

/-- An instance number of a settings file is not zero. -/
theorem numbered_of_read {text : List Char} {eoj : Device.Eoj} (h : Device.Eoj.read text = .ok eoj) :
    eoj.instanceCode ≠ 0 := by
  unfold Device.Eoj.read at h
  simp only at h
  split at h
  · cases h
  · split at h
    · cases h
      have one : (1 : UInt8) ≠ 0 := by decide
      exact one
    · split at h
      · next read =>
        cases h
        obtain ⟨number, kept, rfl⟩ := Option.map_eq_some_iff.mp read
        obtain ⟨within, positive⟩ := Option.filter_eq_some_iff.mp kept
        obtain ⟨-, small⟩ := Option.filter_eq_some_iff.mp within
        have range : 0 < number ∧ number ≤ 255 := ⟨by simpa using positive, by simpa using small⟩
        intro zero
        have same := congrArg UInt8.toNat zero
        rw [UInt8.toNat_ofNat'] at same
        change number % 256 = 0 at same
        omega
      · cases h

theorem numbered_of_entry {entry : DeviceEntry} {properties : List Property}
    (h : entry.read = .ok (device, properties)) : device.eoj.instanceCode ≠ 0 := by
  obtain ⟨ip, -, h⟩ := exists_of_bind h
  obtain ⟨eoj, object, h⟩ := exists_of_bind h
  obtain ⟨values, -, h⟩ := exists_of_bind h
  cases h
  cases read : Device.Eoj.ofText entry.eoj with
  | error error =>
    rw [read] at object
    cases object
  | ok own =>
    rw [read] at object
    cases object
    exact numbered_of_read read

variable {start backend : Backend}

/-- No site that lines reach knows a device with the instance number zero. -/
theorem numbered_of_known {entries : List DeviceEntry} (accepted : Backend.ofEntries entries = .ok start)
    (reached : Reaches start backend) (known : backend.known.contains device = true) : device.eoj.instanceCode ≠ 0 := by
  have sound := (sound_of_ofEntries accepted).changes reached.changes
  have onNetwork := sound.known device known
  rw [← OrderedMap.mem_keys, sound.network, OrderedMap.mem_keys] at onNetwork
  obtain ⟨properties, found⟩ := OrderedMap.contains_iff.mp onNetwork
  rcases addEntries_source accepted found with nowhere | ⟨entry, -, read⟩
  · cases nowhere
  · exact numbered_of_entry read

/-- **What is printed can be typed for devices with an IPv4 address, and only for these.** On every site that lines
reach, the printed form of a known device with an IPv4 address is read as exactly this device wherever the target of a
command may stand, whatever arguments follow and whatever the blanks are; and no line is accepted that has the printed
form of a device with an IPv6 address behind its first word, whatever follows. -/
theorem printed_of_reaches {entries : List DeviceEntry} (accepted : Backend.ofEntries entries = .ok start)
    (reached : Reaches start backend) (known : backend.known.contains device = true) :
    (∀ address, device.ip = .v4 address → ∀ {words command line},
      TargetLine device.toText (.device (.exact device)) words command →
      marks (tokenize line) = marks (tokenize (" ".intercalate words)) → backend.directory.parse line = .ok command)
    ∧ ∀ address, device.ip = .v6 address → ∀ keyword rest, IsWord keyword →
      ∃ mismatch, backend.directory.parse (keyword ++ " " ++ device.toText ++ rest) = .error (.mismatch mismatch) := by
  have numbered := numbered_of_known accepted reached known
  obtain ⟨ip, eoj⟩ := device
  constructor
  · rintro address (rfl : ip = .v4 address) words command line typed same
    have written := (denotes_printed backend.directory address eoj numbered).parse_targetLine typed
    exact backend.directory.parse_congr same written
  · rintro address (rfl : ip = .v6 address) keyword rest isWord
    exact ⟨_, parse_printed_v6 backend.directory address eoj isWord rest⟩

/-- An air conditioner at the link-local address `fe80::1`. -/
def linkLocalConditioner : Endpoint := ⟨.v6 ⟨[0xfe80, 0, 0, 0, 0, 0, 0, 1], rfl⟩, ⟨⟨0x0130⟩, 1⟩⟩

/-- The entries of a settings file with an air conditioner at an address of each version. -/
def entriesOfVersions : List DeviceEntry := [⟨"10.0.0.1", "0130:1", ["80:30"]⟩, ⟨"fe80::1", "0130:1", ["80:30"]⟩]

/-- The network of these entries. -/
def networkOfVersions : Backend :=
  (Backend.empty.withDevice airConditioner [⟨⟨0x80⟩, [0x30]⟩]).withDevice linkLocalConditioner [⟨⟨0x80⟩, [0x30]⟩]

/-- The site on which both devices are discovered. -/
def siteOfVersions : Backend := (networkOfVersions.lineOn 1 "discover").2

/-- Both devices are known, and only one can be read by its printed form. -/
theorem printed_of_reaches_versions :
    Backend.ofEntries entriesOfVersions = .ok networkOfVersions ∧ Reaches networkOfVersions siteOfVersions
    ∧ siteOfVersions.known.contains airConditioner = true ∧ siteOfVersions.known.contains linkLocalConditioner = true
    ∧ siteOfVersions.directory.parse "get 10.0.0.1  0130:1 80"
      = .ok (.get ⟨.device (.exact airConditioner), [⟨0x80⟩], false⟩)
    ∧ linkLocalConditioner.toText = "fe80::1 0130:1"
    ∧ ∃ mismatch, siteOfVersions.directory.parse "get fe80::1 0130:1 80" = .error (.mismatch mismatch) := by
  have accepted : Backend.ofEntries entriesOfVersions = .ok networkOfVersions := rfl
  have reached : Reaches networkOfVersions siteOfVersions := .line 1 "discover" .refl
  have known : siteOfVersions.known.contains airConditioner = true := by decide +kernel
  have knownToo : siteOfVersions.known.contains linkLocalConditioner = true := by decide +kernel
  have text : linkLocalConditioner.toText = "fe80::1 0130:1" := by decide +kernel
  have read := (printed_of_reaches accepted reached known).1 ⟨10, 0, 0, 1⟩ rfl
    (.get [some (.ofEpc ⟨0x80⟩)] (by simp))
    (show marks (tokenize "get 10.0.0.1  0130:1 80") = marks (tokenize (" ".intercalate ("get" :: airConditioner.toText
      :: [some (Typed.ofEpc ⟨0x80⟩)].map AskedWord.text))) by decide +kernel)
  obtain ⟨mismatch, refused⟩ := (printed_of_reaches accepted reached knownToo).2 _ rfl "get" " 80" (by decide)
  have line : "get" ++ " " ++ linkLocalConditioner.toText ++ " 80" = "get fe80::1 0130:1 80" := by
    rw [text]
    rfl
  rw [line] at refused
  exact ⟨accepted, reached, known, knownToo, read, text, mismatch, refused⟩

end DeviceConsole
