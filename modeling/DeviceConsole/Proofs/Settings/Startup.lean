import DeviceConsole.CommandLine.Launch

/-!
# `Proofs.Settings.Startup` — the check of settings and the start agree

The devices of settings are walked through twice: the check looks at each part and builds nothing, and the start reads
each part and puts the device on the network. Both end at the first part that is wrong, and both find the same one,
because a text of the check is right exactly if the start can read it (`isSome_ofText?`).

* `DeviceEntry.Right`, `DeviceEntry.FirstWrong`, `FirstOffence` — right entries, and the first wrong part;
* `checkEntries_eq` — the check is the start without its site;
* `addEntries_outcome`, `FirstOffence.addEntries` — the start succeeds on right entries, and else ends at the first
  wrong part;
* `check_agrees_with_start` — what passes the check starts, and every launch starts.
-/

namespace DeviceConsole

open CommandLine (Arguments Launch)
open Device (Eoj Epc Property)

/-! ## Right and wrong entries -/

/-- Every part of the entry can be read. -/
structure DeviceEntry.Right (entry : DeviceEntry) : Prop where
  ip : (Net.IpAddress.ofText? entry.ip).isSome = true
  eoj : (Eoj.ofText entry.eoj).toOption.isSome = true
  properties : ∀ text ∈ entry.properties, (Property.ofText? text).isSome = true

/-- The first part of the entry that cannot be read, as its field and its text: the address counts before the object,
and the object before the properties, which count in order. -/
inductive DeviceEntry.FirstWrong (entry : DeviceEntry) : String → String → Prop
  | ip : Net.IpAddress.ofText? entry.ip = none → entry.FirstWrong "devices.ip" entry.ip
  | eoj : (Net.IpAddress.ofText? entry.ip).isSome = true → (Eoj.ofText entry.eoj).toOption = none →
      entry.FirstWrong "devices.eoj" entry.eoj
  | property {front back : List String} {text : String} : (Net.IpAddress.ofText? entry.ip).isSome = true →
      (Eoj.ofText entry.eoj).toOption.isSome = true → entry.properties = front ++ text :: back →
      (∀ other ∈ front, (Property.ofText? other).isSome = true) → Property.ofText? text = none →
      entry.FirstWrong "devices.properties" text

/-- The first part of the entries that cannot be read: all entries in front of it are right. -/
def FirstOffence (entries : List DeviceEntry) (field value : String) : Prop :=
  ∃ front entry back, entries = front ++ entry :: back ∧ (∀ other ∈ front, other.Right) ∧ entry.FirstWrong field value

/-! ## The check and the start -/

/-- **A text passes the check of properties exactly if it can be read.** -/
theorem isSome_ofText? (text : String) : (Property.ofText? text).isSome = isPropertyText text := by
  unfold Property.ofText? Property.read? isPropertyText
  cases Device.splitColon? text.toList with
  | none => rfl
  | some parts =>
    obtain ⟨head, tail⟩ := parts
    cases code : Epc.read? head with
    | none => simp [code]
    | some epc =>
      cases value : Device.readEdt? tail with
      | none => simp [code, value]
      | some edt => simp [code, value]

theorem checkProperties_eq (texts : List String) :
    checkProperties texts = (texts.mapM readProperty).map fun _ => () := by
  induction texts with
  | nil => rfl
  | cons text rest ih =>
    rw [checkProperties, List.mapM_cons, ← isSome_ofText?, readProperty]
    cases Property.ofText? text with
    | none => rfl
    | some property =>
      rw [if_pos Option.isSome_some, ih]
      cases rest.mapM readProperty with
      | ok properties => rfl
      | error error => rfl

/-- The check of one more entry in front: it reads this entry and forgets what it read. -/
theorem checkEntries_cons (entry : DeviceEntry) (rest : List DeviceEntry) :
    checkEntries (entry :: rest) = entry.read.bind fun _ => checkEntries rest := by
  rw [checkEntries, DeviceEntry.read, checkProperties_eq]
  cases Net.IpAddress.ofText? entry.ip with
  | none => rfl
  | some ip =>
    cases (Eoj.ofText entry.eoj).toOption with
    | none => rfl
    | some eoj =>
      cases entry.properties.mapM readProperty with
      | ok properties => rfl
      | error error => rfl

/-- **The check is the start without its site**, wherever the start puts its devices. -/
theorem checkEntries_eq (entries : List DeviceEntry) (site : Backend) :
    checkEntries entries = (Backend.addEntries entries site).map fun _ => () := by
  induction entries generalizing site with
  | nil => rfl
  | cons entry rest ih =>
    rw [checkEntries_cons, Backend.addEntries]
    cases entry.read with
    | error error => rfl
    | ok parts =>
      obtain ⟨device, properties⟩ := parts
      exact ih (site.withDevice device properties)

section Verdict

variable {α : Type} {result : Except SettingsError α}

/-- A start without its site passes exactly if there is a site. -/
theorem passes_iff : (result.map fun _ => ()) = .ok () ↔ ∃ value, result = .ok value := by
  cases result with
  | ok value => exact ⟨fun _ => ⟨value, rfl⟩, fun _ => rfl⟩
  | error error =>
    constructor
    · rintro ⟨⟩
    · rintro ⟨value, ⟨⟩⟩

/-- It names what the start names. -/
theorem names_iff {error : SettingsError} : (result.map fun _ => ()) = .error error ↔ result = .error error := by
  cases result with
  | ok value =>
    constructor
    · rintro ⟨⟩
    · rintro ⟨⟩
  | error other =>
    show Except.error other = Except.error error ↔ Except.error other = Except.error error
    rw [Except.error.injEq, Except.error.injEq]

end Verdict

/-! ## What is wrong first -/

/-- Properties are read, or there is a first one that cannot be. -/
theorem mapM_readProperty_outcome (texts : List String) :
    (∃ properties, texts.mapM readProperty = .ok properties ∧ ∀ text ∈ texts, (Property.ofText? text).isSome = true)
    ∨ ∃ front text back, texts = front ++ text :: back
      ∧ (∀ other ∈ front, (Property.ofText? other).isSome = true) ∧ Property.ofText? text = none := by
  induction texts with
  | nil => exact .inl ⟨[], rfl, by simp⟩
  | cons text rest ih =>
    cases read : Property.ofText? text with
    | none => exact .inr ⟨[], text, rest, rfl, by simp, read⟩
    | some property =>
      have right : (Property.ofText? text).isSome = true := by rw [read, Option.isSome_some]
      rcases ih with ⟨properties, all, each⟩ | ⟨front, wrong, back, rfl, each, none⟩
      · refine .inl ⟨property :: properties, ?_, List.forall_mem_cons.mpr ⟨right, each⟩⟩
        rw [List.mapM_cons, all, readProperty, read]
        rfl
      · exact .inr ⟨text :: front, wrong, back, rfl, List.forall_mem_cons.mpr ⟨right, each⟩, none⟩

/-- A property that cannot be read is named, whatever right ones stand in front of it. -/
theorem mapM_readProperty_of_wrong {front back : List String} {text : String}
    (right : ∀ other ∈ front, (Property.ofText? other).isSome = true) (wrong : Property.ofText? text = none) :
    (front ++ text :: back).mapM readProperty = .error (.invalidValue "devices.properties" text) := by
  induction front with
  | nil =>
    rw [List.nil_append, List.mapM_cons, readProperty, wrong]
    rfl
  | cons first rest ih =>
    obtain ⟨property, read⟩ := Option.isSome_iff_exists.mp (right first List.mem_cons_self)
    have others := ih fun other mem => right other (List.mem_cons_of_mem _ mem)
    rw [List.cons_append, List.mapM_cons, others, readProperty, read]
    rfl

namespace DeviceEntry

variable {entry : DeviceEntry} {field value : String}

/-- An entry is read, or it has a first wrong part. -/
theorem read_outcome (entry : DeviceEntry) :
    (∃ parts, entry.read = .ok parts ∧ entry.Right) ∨ ∃ field value, entry.FirstWrong field value := by
  cases ip : Net.IpAddress.ofText? entry.ip with
  | none => exact .inr ⟨_, _, .ip ip⟩
  | some address =>
    have ipRight : (Net.IpAddress.ofText? entry.ip).isSome = true := by rw [ip, Option.isSome_some]
    cases eoj : (Eoj.ofText entry.eoj).toOption with
    | none => exact .inr ⟨_, _, .eoj ipRight eoj⟩
    | some object =>
      have eojRight : (Eoj.ofText entry.eoj).toOption.isSome = true := by rw [eoj, Option.isSome_some]
      rcases mapM_readProperty_outcome entry.properties with ⟨properties, all, each⟩ | ⟨_, _, _, shape, each, none⟩
      · refine .inl ⟨(⟨address, object⟩, properties), ?_, ipRight, eojRight, each⟩
        rw [DeviceEntry.read, ip, eoj, all]
        rfl
      · exact .inr ⟨_, _, .property ipRight eojRight shape each none⟩

/-- An entry with a wrong part is not right. -/
theorem FirstWrong.not_right (h : entry.FirstWrong field value) : ¬ entry.Right := by
  intro right
  cases h with
  | ip wrong =>
    have read := right.ip
    rw [wrong] at read
    cases read
  | eoj _ wrong =>
    have read := right.eoj
    rw [wrong] at read
    cases read
  | property _ _ shape _ wrong =>
    have read := right.properties value (shape ▸ List.mem_append_right _ List.mem_cons_self)
    rw [wrong] at read
    cases read

theorem Right.read (h : entry.Right) : ∃ parts, entry.read = .ok parts := by
  rcases entry.read_outcome with ⟨parts, read, -⟩ | ⟨field, value, wrong⟩
  · exact ⟨parts, read⟩
  · exact absurd h wrong.not_right

/-- **The first wrong part of an entry is named.** -/
theorem FirstWrong.read (h : entry.FirstWrong field value) : entry.read = .error (.invalidValue field value) := by
  unfold DeviceEntry.read
  cases h with
  | ip wrong =>
    rw [wrong]
    rfl
  | eoj ipRight wrong =>
    obtain ⟨ip, read⟩ := Option.isSome_iff_exists.mp ipRight
    rw [read, wrong]
    rfl
  | property ipRight eojRight shape right wrong =>
    obtain ⟨ip, readIp⟩ := Option.isSome_iff_exists.mp ipRight
    obtain ⟨eoj, readEoj⟩ := Option.isSome_iff_exists.mp eojRight
    rw [readIp, readEoj, shape, mapM_readProperty_of_wrong right wrong]
    rfl

end DeviceEntry

/-- All entries are right and on the network, or there is a first wrong part. -/
theorem addEntries_outcome (entries : List DeviceEntry) (site : Backend) :
    (∃ after, Backend.addEntries entries site = .ok after ∧ ∀ entry ∈ entries, entry.Right)
    ∨ ∃ field value, FirstOffence entries field value := by
  induction entries generalizing site with
  | nil => exact .inl ⟨site, rfl, by simp⟩
  | cons entry rest ih =>
    rcases entry.read_outcome with ⟨⟨device, properties⟩, read, right⟩ | ⟨field, value, wrong⟩
    · rcases ih (site.withDevice device properties) with ⟨after, all, each⟩
        | ⟨field, value, front, other, back, rfl, each, wrong⟩
      · refine .inl ⟨after, ?_, List.forall_mem_cons.mpr ⟨right, each⟩⟩
        rw [Backend.addEntries, read]
        exact all
      · exact .inr ⟨field, value, entry :: front, other, back, rfl, List.forall_mem_cons.mpr ⟨right, each⟩, wrong⟩
    · exact .inr ⟨field, value, [], entry, rest, rfl, by simp, wrong⟩

/-- **The start ends at the first wrong part of all entries.** -/
theorem FirstOffence.addEntries {entries : List DeviceEntry} {field value : String}
    (h : FirstOffence entries field value) (site : Backend) :
    Backend.addEntries entries site = .error (.invalidValue field value) := by
  obtain ⟨front, entry, back, rfl, right, wrong⟩ := h
  induction front generalizing site with
  | nil =>
    rw [List.nil_append, Backend.addEntries, wrong.read]
    rfl
  | cons first rest ih =>
    obtain ⟨⟨device, properties⟩, read⟩ := (right first List.mem_cons_self).read
    rw [List.cons_append, Backend.addEntries, read]
    exact ih (site.withDevice device properties) fun other mem => right other (List.mem_cons_of_mem _ mem)

/-! ## Settings and launches -/

/-- The devices alone decide on settings with a history and a prompt. -/
theorem check_of_devices {settings : Settings} (size : settings.history.size ≠ 0)
    (prompt : settings.console.prompt ≠ "") :
    settings.check = (Backend.ofEntries settings.devices).map fun _ => () := by
  unfold Settings.check
  rw [if_neg size, if_neg (by rwa [String.isEmpty_iff])]
  exact checkEntries_eq settings.devices .empty

/-- Settings that pass the check have devices that start. -/
theorem starts_of_check {settings : Settings} (passed : settings.check = .ok ()) :
    ∃ site, Backend.ofEntries settings.devices = .ok site := by
  have devices : checkEntries settings.devices = .ok () := by
    unfold Settings.check at passed
    split at passed
    · cases passed
    · split at passed
      · cases passed
      · exact passed
  rw [checkEntries_eq settings.devices .empty] at devices
  exact passes_iff.mp devices

/-- Arguments change no device. -/
theorem applyArguments_devices (arguments : Arguments) (settings : Settings) :
    (Launch.applyArguments arguments settings).1.devices = settings.devices := rfl

/-- The settings that hold have devices that start: they pass the check, or are the standard ones, without devices. -/
theorem starts_of_orStandard (places : Places) (settings : Settings) :
    ∃ site, Backend.ofEntries (Launch.orStandard places settings).1.devices = .ok site := by
  unfold Launch.orStandard
  cases passed : settings.check with
  | ok _ => exact starts_of_check passed
  | error error => exact ⟨.empty, rfl⟩

theorem starts_of_prepare {places : Places} {tree : FileTree} {arguments : Arguments} {launch : Launch}
    (prepared : Launch.prepare places tree arguments = .ok launch) :
    ∃ site, Backend.ofEntries launch.settings.devices = .ok site := by
  unfold Launch.prepare at prepared
  cases found : Settings.find places tree arguments.configFile with
  | error error =>
    rw [found] at prepared
    cases prepared
  | ok file =>
    rw [found] at prepared
    cases prepared
    show ∃ site, Backend.ofEntries (Launch.applyArguments arguments (Launch.orStandard places file.1).1).1.devices
      = .ok site
    rw [applyArguments_devices]
    exact starts_of_orStandard places file.1

/-- **The check and the start agree.** On settings with a history and a prompt the check passes exactly if the site of
their devices can be made; if it does not, both name the same field and text, which are those of the first wrong part
in the order of the file. And whatever the settings file holds and whatever the arguments change, the site of a launch
can be made. -/
theorem check_agrees_with_start :
    (∀ settings : Settings, settings.history.size ≠ 0 → settings.console.prompt ≠ "" →
      (settings.check = .ok () ↔ ∃ site, Backend.ofEntries settings.devices = .ok site)
      ∧ (∀ error, settings.check = .error error ↔ Backend.ofEntries settings.devices = .error error)
      ∧ ∀ error, settings.check = .error error ↔
        ∃ field value, error = .invalidValue field value ∧ FirstOffence settings.devices field value)
    ∧ ∀ places tree arguments launch, Launch.prepare places tree arguments = .ok launch →
      ∃ site, Backend.ofEntries launch.settings.devices = .ok site := by
  refine ⟨fun settings size prompt => ?_, fun places tree arguments launch => starts_of_prepare⟩
  rw [check_of_devices size prompt]
  refine ⟨passes_iff, fun error => names_iff, fun error => ?_⟩
  rw [names_iff]
  constructor
  · intro failed
    rcases addEntries_outcome settings.devices .empty with ⟨site, made, -⟩ | ⟨field, value, wrong⟩
    · cases failed.symm.trans made
    · cases failed.symm.trans (wrong.addEntries .empty)
      exact ⟨field, value, rfl, wrong⟩
  · rintro ⟨field, value, rfl, wrong⟩
    exact wrong.addEntries .empty

/-- A right device, and one with a wrong object and a wrong property. -/
def oneWrongDevice : Settings :=
  { Settings.standard (.ofHome "/home/user") with
    devices := [⟨"10.0.0.1", "0130:1", ["80:30"]⟩, ⟨"10.0.0.2", "0130:0", ["8030"]⟩] }

/-- A settings file with one device. -/
def treeOfOne : FileTree :=
  .ofPaths [("/console.toml", .text "[[devices]]\nip = \"10.0.0.1\"\neoj = \"0130:1\"\nproperties = [\"80:30\"]\n")]

/-- The object is wrong before the property, and is what both name; a file with a right device is started with it. -/
theorem check_agrees_with_start_devices :
    oneWrongDevice.check = .error (.invalidValue "devices.eoj" "0130:0")
    ∧ Backend.ofEntries oneWrongDevice.devices = .error (.invalidValue "devices.eoj" "0130:0")
    ∧ FirstOffence oneWrongDevice.devices "devices.eoj" "0130:0"
    ∧ ∃ launch, Launch.prepare (.ofHome "/home/user") treeOfOne { configFile := some "/console.toml" } = .ok launch
      ∧ launch.settings.devices = [⟨"10.0.0.1", "0130:1", ["80:30"]⟩]
      ∧ ∃ site, Backend.ofEntries launch.settings.devices = .ok site := by
  have refused : oneWrongDevice.check = .error (.invalidValue "devices.eoj" "0130:0") := rfl
  obtain ⟨-, both, first⟩ := check_agrees_with_start.1 oneWrongDevice (by decide) (by decide)
  obtain ⟨field, value, same, wrong⟩ := (first _).mp refused
  cases same
  have loaded : (Launch.prepare (.ofHome "/home/user") treeOfOne { configFile := some "/console.toml" }).toOption.map
      (fun launch => launch.settings.devices) = some [⟨"10.0.0.1", "0130:1", ["80:30"]⟩] := by decide +kernel
  cases prepared : Launch.prepare (.ofHome "/home/user") treeOfOne { configFile := some "/console.toml" } with
  | error error =>
    rw [prepared] at loaded
    cases loaded
  | ok launch =>
    rw [prepared] at loaded
    have devices : launch.settings.devices = [⟨"10.0.0.1", "0130:1", ["80:30"]⟩] := Option.some.inj loaded
    exact ⟨refused, (both _).mp refused, wrong, launch, rfl, devices,
      check_agrees_with_start.2 _ _ _ launch prepared⟩

end DeviceConsole
