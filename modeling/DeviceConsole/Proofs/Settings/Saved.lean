import DeviceConsole.Proofs.Settings.Files
import DeviceConsole.Proofs.Toml.Lines

/-!
# `Proofs.Settings.Saved` — saved settings are loaded again

The text of settings is a document whose sections hold every field, so no standard value and no place of the user who
loads it takes part in what it is read as. What the document holds is told by `document`, and both sides meet there:
the text is read as the document, and the settings of the document are the settings.

* `displayValues`, …, `entryValues`, `document` — what the text of settings holds;
* `ofValue?_document` — the settings of the document;
* `continues_section`, `continues_sections`, `read?_toToml` — the document of the text;
* `ofToml?_toToml` — the two together;
* `load_saved` — settings that are saved to a file and loaded again.
-/

namespace DeviceConsole

namespace Settings

open Format (OutputFormat TableStyle)
open Toml (Value Item Draft Members Continues Opened Defines Fills finished writeLines)

/-! ## What the text holds -/

/-- The values of the section on display. -/
def displayValues (display : DisplaySettings) : List (String × Value) :=
  [("format", .text display.format.name), ("color_output", .truth display.colours),
    ("table_style", .text display.style.name), ("show_timing", .truth display.timing)]

/-- The values of the section on history. -/
def historyValues (history : HistorySettings) : List (String × Value) :=
  [("max_size", .integer history.size), ("file_path", .text history.path), ("persist", .truth history.persist)]

/-- The values of the section on logging. -/
def loggingValues (logging : LoggingSettings) : List (String × Value) :=
  [("level", .text logging.level.name), ("timestamps", .truth logging.timestamps)]

/-- The values of the section on the console. -/
def consoleValues (console : ConsoleSettings) : List (String × Value) :=
  [("prompt", .text console.prompt), ("debug", .truth console.debug)]

/-- The values of a device. -/
def entryValues (entry : DeviceEntry) : List (String × Value) :=
  [("ip", .text entry.ip), ("eoj", .text entry.eoj), ("properties", .array (entry.properties.map .text))]

/-- The values of settings. Devices stand at the end, and in front if there are none. -/
def document (settings : Settings) : List (String × Value) :=
  (if settings.devices.isEmpty then [("devices", .array [])] else []) ++
    [("display", .table (displayValues settings.display)), ("history", .table (historyValues settings.history)),
      ("logging", .table (loggingValues settings.logging)), ("console", .table (consoleValues settings.console))] ++
    (if settings.devices.isEmpty then []
      else [("devices", .array (settings.devices.map fun entry => .table (entryValues entry)))])

/-! ## The settings of the document -/

variable {settings : Settings} {places : Places}

theorem displaySettings?_values (display : DisplaySettings) :
    displaySettings? (.table (displayValues display)) = some display := by
  have format : OutputFormat.ofName? display.format.name = some display.format := by
    cases display.format <;> rfl
  have style : TableStyle.ofName? display.style.name = some display.style := by
    cases display.style <;> rfl
  show (do return {
    format := ← OutputFormat.ofName? display.format.name
    colours := display.colours
    style := ← TableStyle.ofName? display.style.name
    timing := display.timing } : Option DisplaySettings) = _
  rw [format, style]
  rfl

theorem historySettings?_values {history : HistorySettings} (fits : history.size ≤ largestNumber) :
    historySettings? places (.table (historyValues history)) = some history := by
  have size : size? (.integer history.size) = some history.size := by
    unfold largestNumber at fits
    rw [size?, if_pos ⟨by omega, by omega⟩, Int.toNat_natCast]
  show (do return {
    size := ← size? (.integer history.size)
    path := history.path
    persist := history.persist } : Option HistorySettings) = _
  rw [size]
  rfl

theorem loggingSettings?_values (logging : LoggingSettings) :
    loggingSettings? (.table (loggingValues logging)) = some logging := by
  have level : LogLevel.ofName? logging.level.name = some logging.level := by
    cases logging.level <;> rfl
  show (do return { level := ← LogLevel.ofName? logging.level.name, timestamps := logging.timestamps } : Option LoggingSettings) = _
  rw [level]
  rfl

theorem consoleSettings?_values (console : ConsoleSettings) :
    consoleSettings? (.table (consoleValues console)) = some console := rfl

/-- A list is read item by item. -/
theorem list?_map {α : Type} {read? : Value → Option α} {write : α → Value} (items : List α)
    (readBack : ∀ item, read? (write item) = some item) : list? read? (.array (items.map write)) = some items := by
  show (items.map write).mapM read? = some items
  induction items with
  | nil => rfl
  | cons item rest ih =>
    rw [List.map_cons, List.mapM_cons, readBack, ih]
    rfl

theorem deviceEntry?_values (entry : DeviceEntry) : deviceEntry? (.table (entryValues entry)) = some entry := by
  have properties : list? text? (.array (entry.properties.map .text)) = some entry.properties :=
    list?_map entry.properties fun _ => rfl
  show (do return {
    ip := entry.ip
    eoj := entry.eoj
    properties := ← list? text? (.array (entry.properties.map .text)) } : Option DeviceEntry) = _
  rw [properties]
  rfl

/-- The document holds every field. -/
theorem member?_document (settings : Settings) :
    (Value.table (document settings)).member? "display" = some (.table (displayValues settings.display))
      ∧ (Value.table (document settings)).member? "history" = some (.table (historyValues settings.history))
      ∧ (Value.table (document settings)).member? "logging" = some (.table (loggingValues settings.logging))
      ∧ (Value.table (document settings)).member? "console" = some (.table (consoleValues settings.console))
      ∧ (Value.table (document settings)).member? "devices"
          = some (.array (settings.devices.map fun entry => .table (entryValues entry))) := by
  obtain ⟨display, history, logging, console, devices⟩ := settings
  cases devices with
  | nil => exact ⟨rfl, rfl, rfl, rfl, rfl⟩
  | cons first rest => exact ⟨rfl, rfl, rfl, rfl, rfl⟩

/-- **The settings of the document are the settings**, whoever loads them. -/
theorem ofValue?_document (places : Places) (fits : settings.history.size ≤ largestNumber) :
    ofValue? places (.table (document settings)) = some settings := by
  have devices : list? deviceEntry? (.array (settings.devices.map fun entry => .table (entryValues entry)))
      = some settings.devices := list?_map settings.devices deviceEntry?_values
  obtain ⟨display, history, logging, console, entries⟩ := member?_document settings
  rw [ofValue?, display, history, logging, console, entries]
  show (do return {
    display := ← displaySettings? (.table (displayValues settings.display))
    history := ← historySettings? places (.table (historyValues settings.history))
    logging := ← loggingSettings? (.table (loggingValues settings.logging))
    console := ← consoleSettings? (.table (consoleValues settings.console))
    devices := ← list? deviceEntry? (.array (settings.devices.map fun entry => .table (entryValues entry)))
    } : Option Settings) = _
  rw [displaySettings?_values, historySettings?_values fits, loggingSettings?_values, consoleSettings?_values, devices]
  rfl

/-! ## The document of the text -/

section Sections

variable {draft : Draft} {part : Section} {header : List String} {place : Members → Members} {before : Members}
  {values : List (String × Value)} {comment : List Char}

/-- The characters of sections. -/
def writeSections (parts : List Section) : List Char := parts.flatMap fun part => part.write.toList

theorem writeSections_cons (part : Section) (parts : List Section) :
    writeSections (part :: parts) = part.write.toList ++ writeSections parts := rfl

theorem toList_write_section (part : Section) :
    part.write.toList = part.comment.toList ++ (part.header.toList ++ ['\n'] ++ writeLines part.lines) := by
  rw [Section.write, writeLines]
  simp [String.toList_join, List.flatMap_map]

/-- A section adds its values to the table that its header opens. -/
theorem continues_section (part : Section) (remark : Continues draft part.comment.toList draft)
    (opens : Continues draft (part.header.toList ++ ['\n']) ⟨place [], header⟩) (opened : Opened header place)
    (fills : Fills part.lines values) : Continues draft part.write.toList ⟨place (finished values), header⟩ := by
  rw [toList_write_section]
  exact remark.append (opens.append (Toml.continues_definitions opened fills.defines fills.distinct))

/-- A section of a name that is new. -/
theorem continues_table {name note headed : String} {lines : List (String × String)} (isName : Toml.IsName name)
    (fresh : name ∉ Toml.names before) (remark : ∀ draft, Continues draft note.toList draft)
    (brackets : headed.toList = '[' :: (name.toList ++ [']'])) (fills : Fills lines values) :
    Continues ⟨before, header⟩ (Section.write ⟨note, headed, lines⟩).toList
      ⟨before ++ [(name, Item.table .named (finished values))], [name]⟩ := by
  have opens := Toml.continues_header ⟨before, header⟩ isName (Toml.open?_fresh fresh)
  have line : headed.toList ++ ['\n'] = '[' :: (name.toList ++ [']', '\n']) := by
    rw [brackets]
    simp
  rw [← line] at opens
  exact continues_section ⟨note, headed, lines⟩ (remark _) opens (Toml.opened_table fresh) fills

theorem defines_text {name : String} (isName : Toml.IsName name) (text : String) :
    Defines (name, Toml.write text) (name, .text text) := ⟨rfl, isName, Toml.denotes_text text⟩

theorem defines_truth {name : String} (isName : Toml.IsName name) (value : Bool) :
    Defines (name, writeTruth value) (name, .truth value) := ⟨rfl, isName, Toml.denotes_truth value⟩

theorem defines_size {name : String} (isName : Toml.IsName name) {count : Nat} (fits : count ≤ largestNumber) :
    Defines (name, String.ofList (Text.Decimal.write count)) (name, .integer count) := by
  refine ⟨rfl, isName, ?_⟩
  rw [String.toList_ofList]
  exact Toml.denotes_size fits

theorem defines_texts {name : String} (isName : Toml.IsName name) (texts : List String) :
    Defines (name, writeTexts texts) (name, .array (texts.map .text)) := ⟨rfl, isName, Toml.denotes_texts texts⟩

theorem fills_device (note : String) (entry : DeviceEntry) :
    Fills (deviceSection note entry).lines (entryValues entry) where
  defines := .cons (defines_text (by decide) _) (.cons (defines_text (by decide) _)
    (.cons (defines_texts (by decide) _) .nil))
  distinct := show ["ip", "eoj", "properties"].Nodup by decide

/-- A device is added to the devices in front of it. -/
theorem continues_device {root : Members} {done : List Members} (note : String) (entry : DeviceEntry)
    (fresh : "devices" ∉ Toml.names before) (remark : ∀ draft, Continues draft note.toList draft)
    (next : Toml.openNext? ["devices"] root = some (before ++ [("devices", Item.tables (done ++ [[]]))])) :
    Continues ⟨root, header⟩ (deviceSection note entry).write.toList
      ⟨before ++ [("devices", Item.tables (done ++ [finished (entryValues entry)]))], ["devices"]⟩ := by
  have headed : (deviceSection note entry).header.toList ++ ['\n']
      = '[' :: '[' :: ("devices".toList ++ [']', ']', '\n']) := by
    simp [deviceSection]
  have opens := Toml.continues_nextHeader ⟨root, header⟩ (show Toml.IsName "devices" by decide) next
  rw [← headed] at opens
  exact continues_section (deviceSection note entry) (remark _) opens (Toml.opened_tables fresh done)
    (fills_device note entry)

/-- Further devices are added one after the other. -/
theorem continues_devices (entries : List DeviceEntry) (done : List Members) (fresh : "devices" ∉ Toml.names before) :
    Continues ⟨before ++ [("devices", Item.tables done)], ["devices"]⟩
      (writeSections (entries.map (deviceSection "\n")))
      ⟨before ++ [("devices", Item.tables (done ++ entries.map fun entry => finished (entryValues entry)))], ["devices"]⟩ := by
  induction entries generalizing done with
  | nil =>
    rw [List.map_nil, List.map_nil, List.append_nil]
    exact .nil _
  | cons entry rest ih =>
    have others := ih (done ++ [finished (entryValues entry)])
    rw [List.append_assoc] at others
    exact (continues_device "\n" entry fresh Toml.continues_blank (Toml.openNext?_last fresh)).append others

/-- A comment on a line of its own. -/
theorem continues_remark {note : String} (body : String) (plain : body.toList.all Toml.isTextChar = true)
    (whole : note = "#" ++ body ++ "\n") (draft : Draft) : Continues draft note.toList draft := by
  rw [whole, String.toList_append, String.toList_append]
  exact Toml.continues_comment draft (List.all_eq_true.mp plain)

/-- A comment with a blank line above it. -/
theorem continues_spacedRemark {note : String} (body : String) (plain : body.toList.all Toml.isTextChar = true)
    (whole : note = "\n#" ++ body ++ "\n") (draft : Draft) : Continues draft note.toList draft := by
  rw [whole, String.toList_append, String.toList_append]
  exact (Toml.continues_blank draft).append (Toml.continues_comment draft (List.all_eq_true.mp plain))

/-- The tables of the sections that settings always have. -/
def tables (settings : Settings) : Members :=
  [("display", .table .named (finished (displayValues settings.display))),
    ("history", .table .named (finished (historyValues settings.history))),
    ("logging", .table .named (finished (loggingValues settings.logging))),
    ("console", .table .named (finished (consoleValues settings.console)))]

/-- The sections of settings: those that they always have, and then the devices. -/
theorem continues_sections (before : Members) (fits : settings.history.size ≤ largestNumber) {after : Draft}
    (fresh : ∀ name ∈ ["display", "history", "logging", "console"], name ∉ Toml.names before)
    (devices : Continues ⟨before ++ tables settings, ["console"]⟩ (writeSections (deviceSections settings.devices))
      after) :
    Continues ⟨before, []⟩ (writeSections settings.sections) after := by
  have display : Fills _ (displayValues settings.display) :=
    ⟨.cons (defines_text (by decide) _) (.cons (defines_truth (by decide) _)
      (.cons (defines_text (by decide) _) (.cons (defines_truth (by decide) _) .nil))),
      show ["format", "color_output", "table_style", "show_timing"].Nodup by decide⟩
  have history : Fills _ (historyValues settings.history) :=
    ⟨.cons (defines_size (by decide) fits) (.cons (defines_text (by decide) _)
      (.cons (defines_truth (by decide) _) .nil)), show ["max_size", "file_path", "persist"].Nodup by decide⟩
  have logging : Fills _ (loggingValues settings.logging) :=
    ⟨.cons (defines_text (by decide) _) (.cons (defines_truth (by decide) _) .nil),
      show ["level", "timestamps"].Nodup by decide⟩
  have console : Fills _ (consoleValues settings.console) :=
    ⟨.cons (defines_text (by decide) _) (.cons (defines_truth (by decide) _) .nil),
      show ["prompt", "debug"].Nodup by decide⟩
  rw [sections, List.cons_append, List.cons_append, List.cons_append, List.cons_append, List.nil_append,
    writeSections_cons, writeSections_cons, writeSections_cons, writeSections_cons]
  refine Continues.append (continues_table (show Toml.IsName "display" by decide) (fresh _ (by decide))
    (continues_remark " Output format: table, json, json-pretty or compact" (by rfl) (by rfl)) rfl display) ?_
  refine Continues.append (continues_table (show Toml.IsName "history" by decide)
    (Toml.not_mem_names_concat (fresh _ (by decide)) (by decide))
    (continues_spacedRemark " Line history" (by rfl) (by rfl)) rfl history) ?_
  refine Continues.append (continues_table (show Toml.IsName "logging" by decide)
    (Toml.not_mem_names_concat (Toml.not_mem_names_concat (fresh _ (by decide)) (by decide)) (by decide))
    (continues_spacedRemark " Log level: error, warn, info, debug or trace" (by rfl) (by rfl)) rfl logging) ?_
  refine Continues.append (continues_table (show Toml.IsName "console" by decide)
    (Toml.not_mem_names_concat (Toml.not_mem_names_concat (Toml.not_mem_names_concat (fresh _ (by decide))
      (by decide)) (by decide)) (by decide))
    (continues_spacedRemark " Interactive console" (by rfl) (by rfl)) rfl console) ?_
  rw [List.append_assoc, List.append_assoc, List.append_assoc]
  exact devices

/-- The text of settings without its first line, which only settings without devices have. -/
theorem toToml_eq (fits : settings.history.size ≤ largestNumber) :
    ∃ text, settings.toToml = .ok text
      ∧ text.toList = (if settings.devices.isEmpty then "devices = []\n".toList else [])
          ++ writeSections settings.sections := by
  rw [toToml, if_neg (Nat.not_lt_of_le fits)]
  refine ⟨_, rfl, ?_⟩
  rw [String.toList_append, String.toList_join, List.flatMap_map]
  cases settings.devices.isEmpty with
  | true => rfl
  | false => rfl

/-- The draft that the text of settings without devices leads to. -/
theorem continues_none (fits : settings.history.size ≤ largestNumber) (none : settings.devices = []) :
    Continues {} ("devices = []\n".toList ++ writeSections settings.sections)
      ⟨("devices", .finished (.array [])) :: tables settings, ["console"]⟩ := by
  have line : Continues {} "devices = []\n".toList ⟨[("devices", .finished (.array []))], []⟩ :=
    Toml.continues_definition {} (show Toml.IsName "devices" by decide) (Toml.denotes_texts []) rfl
  refine line.append (continues_sections [("devices", .finished (.array []))] fits (by decide) ?_)
  rw [none]
  exact .nil _

/-- The draft that the text of settings with devices leads to. -/
theorem continues_some (fits : settings.history.size ≤ largestNumber) {first : DeviceEntry} {rest : List DeviceEntry}
    (some_device : settings.devices = first :: rest) :
    Continues {} (writeSections settings.sections)
      ⟨tables settings ++ [("devices", Item.tables (settings.devices.map fun entry => finished (entryValues entry)))],
        ["devices"]⟩ := by
  have fresh : "devices" ∉ Toml.names (tables settings) :=
    show "devices" ∉ ["display", "history", "logging", "console"] by decide
  refine continues_sections [] fits (by decide) ?_
  rw [some_device]
  have opens : Toml.openNext? ["devices"] (tables settings) = some (tables settings ++ [("devices", Item.tables ([] ++ [[]]))]) :=
    Toml.openNext?_fresh fresh
  have remark := continues_spacedRemark " Simulated devices; properties are \"EPC:EDT\" in hex" (by rfl) rfl
  exact (continues_device _ first fresh remark opens).append
    (continues_devices rest [finished (entryValues first)] fresh)

theorem membersValue_tables (settings : Settings) :
    Toml.membersValue (tables settings)
      = [("display", .table (displayValues settings.display)), ("history", .table (historyValues settings.history)),
        ("logging", .table (loggingValues settings.logging)), ("console", .table (consoleValues settings.console))] := by
  show [("display", Value.table (Toml.membersValue (finished (displayValues settings.display)))),
    ("history", .table (Toml.membersValue (finished (historyValues settings.history)))),
    ("logging", .table (Toml.membersValue (finished (loggingValues settings.logging)))),
    ("console", .table (Toml.membersValue (finished (consoleValues settings.console))))] = _
  rw [Toml.membersValue_finished, Toml.membersValue_finished, Toml.membersValue_finished, Toml.membersValue_finished]

/-- A document is read from the lines that build it, if no byte order mark is taken from its front. -/
theorem read?_of_continues {text : String} {c : Char} {after : Draft} (begins : text.toList.head? = some c)
    (noMark : c.toNat ≠ 0xFEFF) (continues : Continues {} text.toList after) :
    Toml.read? text = some (.table (Toml.membersValue after.root)) := by
  have whole : Toml.dropMark text.toList = text.toList := by
    cases chars : text.toList with
    | nil => rfl
    | cons first more =>
      rw [chars] at begins
      rw [Toml.dropMark, if_neg]
      rwa [Option.some.inj begins]
  show (Toml.readLines? (Toml.dropMark text.toList).length {} (Toml.dropMark text.toList)).map _ = _
  rw [whole, Toml.readLines?_of_continues continues]
  rfl

/-- **The text of settings is a document that holds them.** -/
theorem read?_toToml (fits : settings.history.size ≤ largestNumber) :
    ∃ text, settings.toToml = .ok text ∧ Toml.read? text = some (.table (document settings)) := by
  obtain ⟨text, written, chars⟩ := toToml_eq fits
  refine ⟨text, written, ?_⟩
  cases devices : settings.devices with
  | nil =>
    have whole : text.toList = "devices = []\n".toList ++ writeSections settings.sections := by
      rw [chars, devices, List.isEmpty_nil, if_pos rfl]
    have continues := continues_none fits devices
    rw [← whole] at continues
    have begins : text.toList.head? = some 'd' := by
      rw [whole, List.head?_append]
      rfl
    rw [read?_of_continues begins (by decide) continues, Toml.membersValue, membersValue_tables, document, devices]
    rfl
  | cons first rest =>
    have whole : text.toList = writeSections settings.sections := by
      rw [chars, devices, List.isEmpty_cons, if_neg Bool.false_ne_true, List.nil_append]
    have continues := continues_some fits devices
    rw [← whole] at continues
    have note : "# Output format: table, json, json-pretty or compact\n".toList.head? = some '#' := by decide
    have begins : text.toList.head? = some '#' := by
      rw [whole, sections, List.cons_append, writeSections_cons, toList_write_section, List.head?_append,
        List.head?_append]
      dsimp only
      rw [note]
      rfl
    rw [read?_of_continues begins (by decide) continues, Toml.membersValue_append, membersValue_tables,
      Toml.membersValue_array, document, devices]
    rfl

end Sections

/-! ## Settings files -/

/-- The text of settings is read as the settings, whoever reads it. -/
theorem ofToml?_toToml (settings : Settings) (fits : settings.history.size ≤ largestNumber) :
    ∃ text, settings.toToml = .ok text ∧ ∀ places, ofToml? places text = some settings := by
  obtain ⟨text, written, read⟩ := read?_toToml fits
  refine ⟨text, written, ?_⟩
  intro places
  rw [ofToml?, read]
  exact ofValue?_document places fits

/-- **Saved settings are loaded again as they are**, and to save them once more writes the same text. This holds of all
settings whose history has a size that a settings file can hold. What is loaded depends on the text at the path alone:
not on the tree that the file has come to, and not on the places of the user who loads it. -/
theorem load_saved (settings : Settings) (fits : settings.history.size ≤ 2 ^ 63 - 1) :
    ∃ text, settings.toToml = .ok text
      ∧ (∀ (places : Places) (tree : FileTree) (path : String), tree.entry path = .file (.text text) →
          load places tree path = .ok settings)
      ∧ ∀ (tree : FileTree) (path : String), tree.entryAt [] = .folder → tree.canWrite path = true →
          save tree path settings = .ok text
          ∧ ∃ after, tree.put? path text = some after
            ∧ ∀ places : Places, ∃ reloaded, load places after path = .ok reloaded ∧ reloaded = settings
              ∧ save after path reloaded = .ok text := by
  obtain ⟨text, written, read⟩ := ofToml?_toToml settings fits
  have loads : ∀ (places : Places) (tree : FileTree) (path : String), tree.entry path = .file (.text text) →
      load places tree path = .ok settings := by
    intro places tree path there
    rw [load, there]
    simp only [read places]
  have saves : ∀ (tree : FileTree) (path : String), tree.canWrite path = true → save tree path settings = .ok text := by
    intro tree path writable
    rw [save, if_pos writable, written]
    rfl
  refine ⟨text, written, loads, ?_⟩
  intro tree path atHand writable
  obtain ⟨after, puts⟩ : ∃ after, tree.put? path text = some after := by
    obtain ⟨-, -, made, makes, -⟩ := FileTree.canWrite_iff.mp writable
    rw [FileTree.put?, if_pos writable, makes]
    exact ⟨_, rfl⟩
  obtain ⟨there, again⟩ := FileTree.entry_put atHand puts
  exact ⟨saves tree path writable, after, puts, fun places =>
    ⟨settings, loads places after path there, rfl, saves after path again⟩⟩

/-- Settings with a prompt that no simple form can write, and with a device that has no properties. -/
def settingsOfTwo : Settings :=
  ⟨{ format := .jsonPretty }, { size := 2 ^ 63 - 1, path := "/home/ann/lines" }, { level := .trace },
    { prompt := "\'\'\'\"\"\"\\\n\r> " }, [⟨"10.0.0.1", "0130:1", ["80:30", ""]⟩, ⟨"10.0.0.2", "0130", []⟩]⟩

/-- They are saved where there are no folders so far, and another user loads them. -/
theorem load_saved_two :
    settingsOfTwo.history.size ≤ 2 ^ 63 - 1
      ∧ FileTree.canWrite ⟨[], []⟩ "/home/ann/.config/console.toml" = true
      ∧ ∃ text after, save ⟨[], []⟩ "/home/ann/.config/console.toml" settingsOfTwo = .ok text
        ∧ FileTree.put? ⟨[], []⟩ "/home/ann/.config/console.toml" text = some after
        ∧ load (Places.ofHome "/home/bob") after "/home/ann/.config/console.toml" = .ok settingsOfTwo
        ∧ save after "/home/ann/.config/console.toml" settingsOfTwo = .ok text := by
  have fits : settingsOfTwo.history.size ≤ 2 ^ 63 - 1 := by decide
  have writable : FileTree.canWrite ⟨[], []⟩ "/home/ann/.config/console.toml" = true := by decide +kernel
  obtain ⟨text, -, -, files⟩ := load_saved settingsOfTwo fits
  obtain ⟨saved, after, puts, loads⟩ := files ⟨[], []⟩ "/home/ann/.config/console.toml" (by decide) writable
  obtain ⟨reloaded, loaded, rfl, again⟩ := loads (Places.ofHome "/home/bob")
  exact ⟨fits, writable, text, after, saved, puts, loaded, again⟩

end Settings

end DeviceConsole
