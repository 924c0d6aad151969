import DeviceConsole.Proofs.Backend.Sound
import DeviceConsole.Proofs.Reasons
import DeviceConsole.Settings.Network

/-!
# `Proofs.Reachable` — sites that lines reach

A session starts with the devices of a settings file on its network, none of them known, and goes on with lines in
any order, each at its own time, whether they succeed or fail.

* `Backend.lineOn`, `Reaches` — one line, and any number of them;
* `sound_of_reaches` — every site that is reached is sound, nothing known is forgotten, and only a reading that is
  aimed at no known device can miss an answer.
-/

namespace DeviceConsole

open Device (Endpoint Property)

/-! ## Lines -/

/-- Carries out a line on a site: what it gives, and the site afterwards. A line that is no command changes
nothing. -/
def Backend.lineOn (now : Time) (line : String) (backend : Backend) : Dispatcher.Reply × Backend :=
  match backend.directory.parse line with
  | .error error => (.error error, backend)
  | .ok command => carryOut now command backend

/-- The sites that lines reach. -/
inductive Reaches (start : Backend) : Backend → Prop
  | refl : Reaches start start
  | line {backend : Backend} (now : Time) (line : String) :
      Reaches start backend → Reaches start (backend.lineOn now line).2

variable {start backend : Backend}

/-- **A line is a number of changes**, whether it succeeds or fails. -/
theorem lineOn_changes (now : Time) (line : String) (backend : Backend) :
    Changes backend (backend.lineOn now line).2 := by
  unfold Backend.lineOn
  cases parsed : backend.directory.parse line with
  | error error => exact .refl
  | ok command => exact route_changes (Directory.proper_of_parse parsed) now backend

theorem Reaches.changes (h : Reaches start backend) : Changes start backend := by
  induction h with
  | refl => exact .refl
  | line now line _ ih => exact ih.trans (lineOn_changes now line _)

/-! ## The first site -/

/-- Entries put devices on the network and nothing else. -/
theorem addEntries_network {entries : List DeviceEntry} {before after : Backend}
    (h : Backend.addEntries entries before = .ok after) :
    ∃ network, after = { before with network := network } := by
  induction entries generalizing before with
  | nil =>
    cases h
    exact ⟨_, rfl⟩
  | cons entry rest ih =>
    rw [Backend.addEntries] at h
    cases read : entry.read with
    | error error =>
      rw [read] at h
      cases h
    | ok found =>
      rw [read] at h
      obtain ⟨network, rfl⟩ := ih h
      exact ⟨network, rfl⟩

/-- What a device has on the network of some entries is what an entry gives it, or was there before. -/
theorem addEntries_source {entries : List DeviceEntry} {before after : Backend} {device : Endpoint}
    {properties : List Property} (made : Backend.addEntries entries before = .ok after)
    (found : after.network.get? device = some properties) :
    before.network.get? device = some properties ∨ ∃ entry ∈ entries, entry.read = .ok (device, properties) := by
  induction entries generalizing before with
  | nil =>
    cases made
    exact .inl found
  | cons entry rest ih =>
    rw [Backend.addEntries] at made
    cases read : entry.read with
    | error error =>
      rw [read] at made
      cases made
    | ok parts =>
      obtain ⟨own, given⟩ := parts
      rw [read] at made
      rcases ih made with here | ⟨other, later, its⟩
      · by_cases same : device = own
        · subst same
          rw [Backend.withDevice, OrderedMap.get?_insert_self] at here
          cases here
          exact .inr ⟨entry, List.mem_cons_self, read⟩
        · rw [Backend.withDevice, OrderedMap.get?_insert_ne same] at here
          exact .inl here
      · exact .inr ⟨other, List.mem_cons_of_mem _ later, its⟩

/-- **The first site is sound**: nothing is known and nothing has a name. -/
theorem sound_of_ofEntries {entries : List DeviceEntry} (accepted : Backend.ofEntries entries = .ok start) :
    start.Sound start.network.keys := by
  obtain ⟨network, rfl⟩ := addEntries_network accepted
  refine ⟨rfl, ?_, ?_, ?_, ?_⟩
  · intro device known
    cases known
  · intro name device found
    cases found
  · intro name members found
    cases found
  · intro device cache onNetwork found
    cases found

/-! ## Missing answers -/

variable {devices : List Endpoint}

/-- The devices of a group or of a specifier that matches one are known. -/
theorem known_of_resolved (sound : backend.Sound devices) {target : Target} {allowUnknown : Bool}
    {found : List Endpoint} (h : Resolved backend allowUnknown target found) :
    (∀ device ∈ found, backend.known.contains device = true)
    ∨ allowUnknown = true ∧ ∃ specifier, target = .device specifier ∧ backend.findDevices specifier = [] := by
  cases h with
  | members bound => exact .inl (sound.groups _ _ bound).2.2.1
  | one only =>
    left
    intro device mem
    rw [← only] at mem
    exact contains_of_findDevices mem
  | unknown _ nothing allowed => exact .inr ⟨allowed, _, rfl, nothing⟩

/-- **A writing never misses an answer.** -/
theorem writing_answers (sound : backend.Sound devices) (now : Time) (command : SetCommand) :
    Answers (Router.writing now command) backend := by
  unfold Router.writing
  rcases resolve_cases command.target false backend with ⟨found, ran, -⟩ | ⟨error, ran, answered⟩
  · refine FailsFor.bind (.of_ok ran) fun own after same => ?_
    rw [ran] at same
    cases same
    refine FailsFor.bind (FailsFor.mapM (P := (·.Sound devices)) ?_ backend sound) fun _ _ _ => .pure _
    intro device _ between sound
    have operation := @setProperties_atomic between now device command.properties
    refine ⟨sound.changes operation.changes, fun error failed silent silence => ?_⟩
    -- what can be written is known, so the network has it
    obtain ⟨isKnown, gone⟩ := operation.failsFor error failed silent silence
    exact sound.answers isKnown gone
  · exact FailsFor.bind (.of_error ran answered) fun value after same => by rw [ran] at same; cases same

/-- A reading that checks nothing, of a specifier that no known device matches. -/
def GetCommand.Unguarded (backend : Backend) (command : GetCommand) : Prop :=
  command.skipValidation = true
    ∧ ∃ specifier, command.target = .device specifier ∧ backend.findDevices specifier = []

/-- **A reading misses an answer only of an unknown device**, and only if it checks nothing. -/
theorem reading_fails (sound : backend.Sound devices) (now : Time) (command : GetCommand) :
    FailsFor (fun error => ∀ device, error = silence device →
        command.Unguarded backend ∧ backend.known.contains device = false)
      (Router.reading now command) backend := by
  unfold Router.reading
  rcases resolve_cases command.target command.skipValidation backend with
    ⟨found, ran, resolved⟩ | ⟨error, ran, answered⟩
  · refine FailsFor.bind (.of_ok ran) fun own after same => ?_
    rw [ran] at same
    cases same
    refine FailsFor.bind (FailsFor.mapM (P := Changes backend) ?_ backend .refl) fun _ _ _ => .pure _
    intro device mem between changed
    have operation := @getProperties_atomic between now device command.epcs command.skipValidation
    refine ⟨changed.trans operation.changes, fun error failed silent silence => ?_⟩
    obtain ⟨rfl, gone⟩ := operation.failsFor error failed silent silence
    have unknown : ¬ backend.known.contains silent = true := by
      intro isKnown
      exact (sound.changes changed).answers (changed.known_grows isKnown) gone
    rcases known_of_resolved sound resolved with known | unguarded
    · exact absurd (known silent mem) unknown
    · exact ⟨unguarded, Bool.eq_false_iff.mpr unknown⟩
  · refine FailsFor.bind (.of_error ran fun device silent => absurd silent (answered device)) ?_
    intro value after same
    rw [ran] at same
    cases same

/-- A command of a line misses an answer only if it is a reading that checks nothing, of an unknown device. -/
theorem carryOut_silence (sound : backend.Sound devices) {now : Time} {line : String} {command : Command}
    (parsed : backend.directory.parse line = .ok command) {device : Endpoint}
    (h : (carryOut now command backend).1 = .error (silence device)) :
    ∃ own, command = .get own ∧ own.Unguarded backend ∧ backend.known.contains device = false := by
  by_cases isGet : ∃ own, command = .get own
  · obtain ⟨own, rfl⟩ := isGet
    exact ⟨own, rfl, reading_fails sound now own _ h device rfl⟩
  · have answers : Answers (Router.route now command) backend := by
      by_cases isSet : ∃ own, command = .set own
      · obtain ⟨own, rfl⟩ := isSet
        exact writing_answers sound now own
      · exact route_answers now (fun own same => isGet ⟨own, same⟩) fun own same => isSet ⟨own, same⟩
    exact absurd rfl (answers _ h device)

/-! ## All sites -/

/-- **Every site that lines reach is sound**: on the network are the devices of the first site, and what the maps
hold fits together. Nothing known is forgotten later. And a command of a line misses an answer only if it is a
reading that checks nothing, of an unknown device. -/
theorem sound_of_reaches {entries : List DeviceEntry} (accepted : Backend.ofEntries entries = .ok start)
    (reached : Reaches start backend) :
    backend.Sound start.network.keys
    ∧ (∀ later, Reaches backend later → ∀ device,
        backend.known.contains device = true → later.known.contains device = true)
    ∧ ∀ now line command device, backend.directory.parse line = .ok command →
        (carryOut now command backend).1 = .error (silence device) →
        ∃ own, command = .get own ∧ own.Unguarded backend ∧ backend.known.contains device = false := by
  have sound := (sound_of_ofEntries accepted).changes reached.changes
  refine ⟨sound, ?_, ?_⟩
  · intro later onwards device isKnown
    exact onwards.changes.known_grows isKnown
  · intro now line command device parsed missed
    exact carryOut_silence sound parsed missed

/-- The site of one air conditioner. -/
def siteOfOne : Backend := Backend.empty.withDevice ⟨.v4 ⟨10, 0, 0, 1⟩, ⟨⟨0x0130⟩, 1⟩⟩ [⟨⟨0x80⟩, [0x30]⟩]

/-- A reading of an air conditioner at another address. -/
def readingOfAbsent : GetCommand where
  target := .device { ip := some (.v4 ⟨10, 0, 0, 2⟩), classCode := some ⟨0x0130⟩ }
  epcs := [⟨0x80⟩]
  skipValidation := true

/-- The air conditioner is found and gets an alias, and the reading of another one misses its answer. -/
theorem sound_of_reaches_alias :
    ∃ found named, Reaches siteOfOne found ∧ Reaches found named
      ∧ found.known.contains ⟨.v4 ⟨10, 0, 0, 1⟩, ⟨⟨0x0130⟩, 1⟩⟩ = true
      ∧ named.known.contains ⟨.v4 ⟨10, 0, 0, 1⟩, ⟨⟨0x0130⟩, 1⟩⟩ = true
      ∧ named.aliases.get? "ac" = some ⟨.v4 ⟨10, 0, 0, 1⟩, ⟨⟨0x0130⟩, 1⟩⟩
      ∧ found.Sound siteOfOne.network.keys ∧ named.Sound siteOfOne.network.keys
      ∧ found.directory.parse "get 10.0.0.2 0130 80 -skip-validation" = .ok (.get readingOfAbsent)
      ∧ readingOfAbsent.Unguarded found := by
  have accepted : Backend.ofEntries [⟨"10.0.0.1", "0130:1", ["80:30"]⟩] = .ok siteOfOne := rfl
  have reached : Reaches siteOfOne (siteOfOne.lineOn 1 "discover").2 := .line 1 "discover" .refl
  have onwards : Reaches (siteOfOne.lineOn 1 "discover").2
      ((siteOfOne.lineOn 1 "discover").2.lineOn 2 "alias ac 10.0.0.1").2 := .line 2 "alias ac 10.0.0.1" .refl
  have both : Reaches siteOfOne ((siteOfOne.lineOn 1 "discover").2.lineOn 2 "alias ac 10.0.0.1").2 :=
    .line 2 "alias ac 10.0.0.1" reached
  obtain ⟨sound, keeps, misses⟩ := sound_of_reaches accepted reached
  have parsed : (siteOfOne.lineOn 1 "discover").2.directory.parse "get 10.0.0.2 0130 80 -skip-validation"
      = .ok (.get readingOfAbsent) := by decide +kernel
  obtain ⟨own, same, unguarded, -⟩ := misses 2 _ _ ⟨.v4 ⟨10, 0, 0, 2⟩, ⟨⟨0x0130⟩, 1⟩⟩ parsed (by decide +kernel)
  cases same
  have known : (siteOfOne.lineOn 1 "discover").2.known.contains ⟨.v4 ⟨10, 0, 0, 1⟩, ⟨⟨0x0130⟩, 1⟩⟩ = true := by
    decide +kernel
  exact ⟨_, _, reached, onwards, known, keeps _ onwards _ known, by decide +kernel, sound,
    (sound_of_reaches accepted both).1, parsed, unguarded⟩

end DeviceConsole
