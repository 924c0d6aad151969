import DeviceConsole.Format.Formatter
import DeviceConsole.Proofs.Net.Unique
import DeviceConsole.Proofs.OrderedMap
import DeviceConsole.Proofs.Partition

/-!
# `Proofs.Format.Facts` — what a reader learns from an answer

A listing is shown as a table, as JSON or in compact lines, and each form treats a code that a row shows twice in a way
of its own: the table has a cell for the first value, JSON keeps the last one, and a compact line has both. Here each
form is read back as facts about devices, codes and values, without a look at the rows that it was made of.

A compact line is cut at blanks, line breaks and equals signs. None of them stands in an address, an object, a code or
a value, so nothing is cut that belongs together (`compactFacts_compact`). The other two forms need rows that show one
value of a code (`Steady`).

* `Fact`, `DeviceRow.facts` — what a row tells;
* `compactFacts`, `documentFacts`, `Grid.facts` — the readers;
* `compactFacts_compact` — **compact lines tell all that the rows tell**, in order;
* `mem_documentFacts` — a document tells the same facts;
* `codes_deviceGrid`, `mem_facts_deviceGrid` — the columns of a table, and the facts in its cells.
-/

namespace DeviceConsole

open Device (ClassCode Endpoint Eoj Epc Property)
open Device.PropertyTable (classes common describeValue exists_value_of_mem shown_describeValue)
open Format
open Text

/-! ## Facts -/

/-- What is told of a property: the address and the object of a device, the code and the value, as they are shown. -/
structure Fact where
  ip : String
  eoj : String
  epc : String
  value : String
  deriving DecidableEq, Repr

/-- What a row tells of a property. -/
def DeviceRow.fact (row : DeviceRow) (shown : PropertyRow) : Fact :=
  ⟨row.device.ip.toText, row.device.eoj.toText, shown.epc.toText, shown.value⟩

/-- What a row tells. -/
def DeviceRow.facts (row : DeviceRow) : List Fact := row.properties.map row.fact

/-- The codes that a row shows. -/
def DeviceRow.epcs (row : DeviceRow) : List Epc := row.properties.map PropertyRow.epc

/-- What rows tell. -/
def factsOf (rows : List DeviceRow) : List Fact := rows.flatMap DeviceRow.facts

theorem mem_facts {row : DeviceRow} {fact : Fact} :
    fact ∈ row.facts ↔ ∃ shown ∈ row.properties, row.fact shown = fact := List.mem_map

theorem mem_factsOf {rows : List DeviceRow} {fact : Fact} :
    fact ∈ factsOf rows ↔ ∃ row ∈ rows, ∃ shown ∈ row.properties, row.fact shown = fact := by
  simp [factsOf, mem_facts]

/-! ## Reading compact lines -/

/-- What an entry behind a device tells. -/
def entryFacts (ip eoj entry : List Char) : List Fact :=
  match entry.splitOn '=' with
  | [epc, value] => [⟨String.ofList ip, String.ofList eoj, String.ofList epc, String.ofList value⟩]
  | _ => []

/-- What a line tells: its first two words are the device, each further one is a code with its value. -/
def lineFacts (line : List Char) : List Fact :=
  match line.splitOn ' ' with
  | ip :: eoj :: entries => entries.flatMap (entryFacts ip eoj)
  | _ => []

/-- What compact lines tell. -/
def compactFacts (text : String) : List Fact := (text.toList.splitOn '\n').flatMap lineFacts

/-! ## Reading documents -/

namespace Json.Value

/-- The member of an object that has a name. -/
def member? (name : String) : Value → Option Value
  | .object members => lookUp members (some name)
  | _ => none

/-- The text in a member. -/
def textOf? (name : String) (value : Value) : Option String :=
  match value.member? name with
  | some (.text written) => written
  | _ => none

/-- The members of an object. -/
def members : Value → List (Option String × Value)
  | .object members => members
  | _ => []

end Json.Value

/-- What a member of the properties of a device tells. -/
def memberFact? (ip eoj : String) (member : Option String × Json.Value) : Option Fact := do
  let epc ← member.1
  let value ← member.2.textOf? "value"
  return ⟨ip, eoj, epc, value⟩

/-- What an item of a document tells. -/
def itemFacts (item : Json.Value) : List Fact :=
  match item.textOf? "ip", item.textOf? "eoj", item.member? "properties" with
  | some ip, some eoj, some properties => properties.members.filterMap (memberFact? ip eoj)
  | _, _, _ => []

/-- What a document tells. -/
def documentFacts (document : Json.Value) : List Fact := document.items.flatMap itemFacts

/-! ## Reading tables -/

namespace Format.Grid

/-- The codes over the columns behind the address, the object and the alias: the first words of the headings. -/
def codes (grid : Grid) : List String :=
  (grid.header.drop 3).map fun heading => String.ofList (heading.toList.takeWhile (· ≠ ' '))

/-- What a record tells. An empty cell tells nothing. -/
def recordFacts (codes : List String) : List String → List Fact
  | ip :: eoj :: _ :: cells => (codes.zip cells).filterMap fun (epc, value) =>
      if value = "" then none else some ⟨ip, eoj, epc, value⟩
  | _ => []

/-- What a table tells. -/
def facts (grid : Grid) : List Fact := grid.records.flatMap (recordFacts grid.codes)

end Format.Grid

/-! ## Texts that are not cut -/

/-- The characters at which compact lines are cut. -/
def isSeparator (c : Char) : Bool := c = ' ' || c = '\n' || c = '='

/-- Characters that are cut nowhere. -/
def Whole (text : List Char) : Prop := ∀ c ∈ text, isSeparator c = false

instance (text : List Char) : Decidable (Whole text) :=
  decidable_of_bool (!text.any isSeparator) (by simp [Whole])

theorem Whole.append {front back : List Char} (first : Whole front) (second : Whole back) : Whole (front ++ back) := by
  intro c mem
  exact (List.mem_append.mp mem).elim (first c) (second c)

theorem Whole.cons {c : Char} {text : List Char} (own : isSeparator c = false) (rest : Whole text) :
    Whole (c :: text) := by
  intro other mem
  rcases List.mem_cons.mp mem with rfl | later
  · exact own
  · exact rest other later

theorem Whole.not_mem {text : List Char} {c : Char} (whole : Whole text) (cuts : isSeparator c = true) : c ∉ text := by
  intro mem
  rw [whole c mem] at cuts
  cases cuts

theorem isSeparator_digitChar {digit : Nat} (small : digit < 16) : isSeparator (Hex.digitChar digit) = false := by
  have all : ∀ digit ∈ List.range 16, isSeparator (Hex.digitChar digit) = false := by decide
  exact all digit (List.mem_range.mpr small)

theorem isSeparator_decimal {digit : Nat} (small : digit < 10) : isSeparator (Decimal.digitChar digit) = false := by
  have all : ∀ digit ∈ List.range 10, isSeparator (Decimal.digitChar digit) = false := by decide
  exact all digit (List.mem_range.mpr small)

theorem whole_fixed (count value : Nat) : Whole (Hex.fixed count value) := by
  intro c mem
  obtain ⟨digit, small, rfl⟩ := Hex.mem_fixed mem
  exact isSeparator_digitChar small

theorem whole_dotted (address : Net.Ipv4) : Whole address.write := by
  intro c mem
  rcases Net.Ipv4.mem_write mem with rfl | ⟨digit, small, rfl⟩
  · rfl
  · exact isSeparator_decimal small

theorem whole_writeGroups (groups : List UInt16) : Whole (Net.Ipv6.writeGroups groups) := by
  have digits : ∀ digit ∈ List.range 16, isSeparator (Hex.lowerDigitChar digit) = false := by decide
  intro c mem
  rcases Net.Ipv6.mem_writeGroups mem with rfl | ⟨digit, small, rfl⟩
  · rfl
  · exact digits digit (List.mem_range.mpr small)

theorem whole_ip (ip : Net.IpAddress) : Whole ip.toText.toList := by
  rw [Net.IpAddress.toText, String.toList_ofList]
  cases ip with
  | v4 address => exact whole_dotted address
  | v6 address =>
    show Whole address.write
    have form := address.form_write
    generalize address.write = text at form
    cases form with
    | @mapped inner _ =>
      have marks : Whole "::ffff:".toList := by decide
      exact marks.append (whole_dotted inner)
    | full => exact whole_writeGroups _
    | compressed _ _ => exact (whole_writeGroups _).append (.cons rfl (.cons rfl (whole_writeGroups _)))

theorem whole_epc (epc : Epc) : Whole epc.toText.toList := by
  rw [Epc.toText, String.toList_ofList]
  exact whole_fixed _ _

theorem whole_eoj (eoj : Eoj) : Whole eoj.toText.toList := by
  have number : Whole (Decimal.write eoj.instanceCode.toNat) := by
    intro c mem
    obtain ⟨digit, small, rfl⟩ := Decimal.mem_write mem
    exact isSeparator_decimal small
  have chars : eoj.toText.toList
      = Hex.fixed 4 eoj.classCode.value.toNat ++ ':' :: Decimal.write eoj.instanceCode.toNat := by
    simp [Eoj.toText, ClassCode.toText]
  rw [chars]
  exact (whole_fixed _ _).append (.cons rfl number)

/-- **No value is cut**: it is shown by a name of the table or in hexadecimal. -/
theorem whole_describeValue (classCode : ClassCode) (property : Property) :
    Whole (describeValue classCode property).toList := by
  have shown := shown_describeValue classCode property
  generalize describeValue classCode property = text at shown
  cases shown with
  | named mem _ =>
    have table : ∀ description ∈ classes.flatMap Device.PropertyTable.ClassDescription.properties ++ common,
        ∀ value ∈ description.values, Whole value.1.toList := by decide
    obtain ⟨description, listed, value, inValues, rfl⟩ := exists_value_of_mem mem
    exact table description listed value inValues
  | hex =>
    intro c mem
    rw [Device.edtText, String.toList_ofList] at mem
    obtain ⟨digit, small, rfl⟩ := Hex.mem_writeBytes mem
    exact isSeparator_digitChar small

/-! ## Facts in compact lines -/

/-- What is told by pieces that are joined is told by each of them, if nothing stands for no piece. -/
theorem flatMap_splitOn_intercalate {α : Type} {separator : Char} {pieces : List (List Char)}
    {told : List Char → List α} (nothing : told [] = []) (whole : ∀ piece ∈ pieces, separator ∉ piece) :
    (([separator].intercalate pieces).splitOn separator).flatMap told = pieces.flatMap told := by
  cases pieces with
  | nil =>
    rw [List.intercalate_nil, List.splitOn_nil]
    simp [nothing]
  | cons first rest => rw [List.splitOn_intercalate separator whole (List.cons_ne_nil first rest)]

/-- The entry of a property behind a device. -/
def entryOf (shown : PropertyRow) : List Char := shown.epc.toText.toList ++ '=' :: shown.value.toList

theorem toList_compactRow (row : DeviceRow) :
    (compactRow row).toList = row.device.ip.toText.toList
      ++ ' ' :: (row.device.eoj.toText.toList ++ ' ' :: [' '].intercalate (row.properties.map entryOf)) := by
  simp [compactRow, Endpoint.toText, String.toList_intercalate, List.map_map, Function.comp_def]
  rfl

/-- No value of a row is cut. -/
def DeviceRow.Plain (row : DeviceRow) : Prop := ∀ shown ∈ row.properties, Whole shown.value.toList

theorem not_mem_entryOf {shown : PropertyRow} (whole : Whole shown.value.toList) {c : Char}
    (cuts : isSeparator c = true) (other : c ≠ '=') : c ∉ entryOf shown := by
  rw [entryOf, List.mem_append, List.mem_cons]
  rintro (inCode | clash | inValue)
  · exact (whole_epc _).not_mem cuts inCode
  · exact other clash
  · exact whole.not_mem cuts inValue

theorem entryFacts_entryOf (row : DeviceRow) {shown : PropertyRow} (whole : Whole shown.value.toList) :
    entryFacts row.device.ip.toText.toList row.device.eoj.toText.toList (entryOf shown) = [row.fact shown] := by
  have cut : (entryOf shown).splitOn '=' = [shown.epc.toText.toList, shown.value.toList] := by
    have joined : entryOf shown = ['='].intercalate [shown.epc.toText.toList, shown.value.toList] := by
      rw [List.intercalate_cons_cons, List.intercalate_singleton, List.append_assoc]
      rfl
    rw [joined]
    refine List.splitOn_intercalate '=' (fun piece mem => ?_) (List.cons_ne_nil _ _)
    rcases List.mem_pair.mp mem with rfl | rfl
    · exact (whole_epc _).not_mem rfl
    · exact whole.not_mem rfl
  rw [entryFacts, cut]
  simp [DeviceRow.fact]

/-- **A compact line tells all that its row tells.** -/
theorem lineFacts_compactRow {row : DeviceRow} (plain : row.Plain) : lineFacts (compactRow row).toList = row.facts := by
  have cut : (compactRow row).toList.splitOn ' ' = row.device.ip.toText.toList :: row.device.eoj.toText.toList
      :: ([' '].intercalate (row.properties.map entryOf)).splitOn ' ' := by
    rw [toList_compactRow, List.splitOn_append_cons_self_of_not_mem ((whole_ip _).not_mem rfl),
      List.splitOn_append_cons_self_of_not_mem ((whole_eoj _).not_mem rfl)]
  have whole : ∀ entry ∈ row.properties.map entryOf, ' ' ∉ entry := by
    intro entry mem
    obtain ⟨shown, inRow, rfl⟩ := List.mem_map.mp mem
    exact not_mem_entryOf (plain shown inRow) rfl (by decide)
  rw [lineFacts, cut]
  show List.flatMap _ _ = _
  -- a row without properties ends in a blank, and what is behind it tells nothing
  rw [flatMap_splitOn_intercalate rfl whole, List.flatMap_map, DeviceRow.facts, List.map_eq_flatMap]
  exact List.flatMap_congr fun shown inRow => entryFacts_entryOf row (plain shown inRow)

theorem not_mem_intercalate {separator c : Char} {pieces : List (List Char)} (other : c ≠ separator)
    (absent : ∀ piece ∈ pieces, c ∉ piece) : c ∉ [separator].intercalate pieces := by
  induction pieces with
  | nil => exact List.not_mem_nil
  | cons piece rest ih =>
    have here := absent piece List.mem_cons_self
    have behind := ih fun piece mem => absent piece (List.mem_cons_of_mem _ mem)
    cases rest with
    | nil =>
      rw [List.intercalate_singleton]
      exact here
    | cons next more =>
      rw [List.intercalate_cons_cons]
      simp [here, other, behind]

theorem newline_not_mem_compactRow {row : DeviceRow} (plain : row.Plain) : '\n' ∉ (compactRow row).toList := by
  have entries : '\n' ∉ [' '].intercalate (row.properties.map entryOf) := by
    refine not_mem_intercalate (by decide) fun entry mem => ?_
    obtain ⟨shown, inRow, rfl⟩ := List.mem_map.mp mem
    exact not_mem_entryOf (plain shown inRow) rfl (by decide)
  have address := (whole_ip row.device.ip).not_mem (c := '\n') rfl
  have object := (whole_eoj row.device.eoj).not_mem (c := '\n') rfl
  rw [toList_compactRow]
  simp [address, object, entries]

/-- **Compact lines tell all that the rows tell**, in order. -/
theorem compactFacts_compact {rows : List DeviceRow} (plain : ∀ row ∈ rows, row.Plain) :
    compactFacts (compact (.devices rows)) = factsOf rows := by
  have lines : (compact (.devices rows)).toList = ['\n'].intercalate (rows.map fun row => (compactRow row).toList) := by
    simp [compact, String.toList_intercalate, List.map_map, Function.comp_def]
  have whole : ∀ line ∈ rows.map (fun row => (compactRow row).toList), '\n' ∉ line := by
    intro line mem
    obtain ⟨row, inRows, rfl⟩ := List.mem_map.mp mem
    exact newline_not_mem_compactRow (plain row inRows)
  -- where there are no rows there is one empty line
  rw [compactFacts, lines, flatMap_splitOn_intercalate rfl whole, List.flatMap_map, factsOf]
  exact List.flatMap_congr fun row inRows => lineFacts_compactRow (plain row inRows)

/-! ## Facts in documents -/

/-- A row shows one value of each code: properties of one code are shown alike. -/
def DeviceRow.Steady (row : DeviceRow) : Prop :=
  ∀ shown ∈ row.properties, ∀ other ∈ row.properties, shown.epc = other.epc → shown = other

theorem lookUp_map_some {members : List (String × Json.Value)} (name : String) :
    lookUp (members.map fun member => (some member.1, member.2)) (some name) = lookUp members name := by
  induction members with
  | nil => rfl
  | cons member rest ih =>
    rw [List.map_cons, lookUp_cons, lookUp_cons, ih]
    simp only [Option.some.injEq]

/-- **Of a repeated name an object has the last member.** -/
theorem member?_sorted (members : List (String × Json.Value)) (name : String) :
    (Json.Value.sorted members).member? name = lookUp members.reverse name :=
  (lookUp_map_some name).trans (lookUp_insertEntries members name)

/-- The properties of a row, as they are put into its document. -/
def propertyMembers (row : DeviceRow) : List (String × Json.Value) :=
  row.properties.map fun shown => (shown.epc.toText, propertyDocument shown)

/-- **What stands in the document of a row.** -/
theorem members_deviceDocument (row : DeviceRow) :
    (deviceDocument row).textOf? "ip" = some row.device.ip.toText
      ∧ (deviceDocument row).textOf? "eoj" = some row.device.eoj.toText
      ∧ (deviceDocument row).member? "properties" = some (.sorted (propertyMembers row)) := by
  refine ⟨?_, ?_, ?_⟩
  · simp [Json.Value.textOf?, deviceDocument, endpointMembers, member?_sorted, lookUp_cons, Json.Value.ofText]
  · simp [Json.Value.textOf?, deviceDocument, endpointMembers, member?_sorted, lookUp_cons, Json.Value.ofText]
  · simp [deviceDocument, endpointMembers, member?_sorted, lookUp_cons, propertyMembers]

theorem textOf?_propertyDocument (shown : PropertyRow) :
    (propertyDocument shown).textOf? "value" = some shown.value := by
  simp [Json.Value.textOf?, propertyDocument, member?_sorted, lookUp_cons, Json.Value.ofText]

theorem memberFact?_property (row : DeviceRow) (shown : PropertyRow) :
    memberFact? row.device.ip.toText row.device.eoj.toText (some shown.epc.toText, propertyDocument shown)
      = some (row.fact shown) := by
  simp [memberFact?, textOf?_propertyDocument, DeviceRow.fact]

/-- **The document of a row tells what the row tells**, though only the last property of a code is in it. -/
theorem mem_itemFacts {row : DeviceRow} (steady : row.Steady) {fact : Fact} :
    fact ∈ itemFacts (deviceDocument row) ↔ fact ∈ row.facts := by
  obtain ⟨ip, eoj, properties⟩ := members_deviceDocument row
  -- a name that is repeated is a repeated code, and the row shows the same for it
  have alike : ∀ entry ∈ propertyMembers row, ∀ other ∈ propertyMembers row, entry.1 = other.1 → entry = other := by
    intro entry mem other otherMem same
    obtain ⟨shown, inRow, rfl⟩ := List.mem_map.mp mem
    obtain ⟨again, alsoInRow, rfl⟩ := List.mem_map.mp otherMem
    rw [steady shown inRow again alsoInRow (Epc.toText_injective same)]
  have told : itemFacts (deviceDocument row)
      = (insertEntries (propertyMembers row)).filterMap fun member =>
          memberFact? row.device.ip.toText row.device.eoj.toText (some member.1, member.2) := by
    rw [itemFacts, ip, eoj, properties]
    exact List.filterMap_map
  rw [told, List.mem_filterMap, mem_facts]
  constructor
  · rintro ⟨member, mem, tells⟩
    obtain ⟨shown, inRow, rfl⟩ := List.mem_map.mp ((mem_insertEntries alike).mp mem)
    rw [memberFact?_property] at tells
    exact ⟨shown, inRow, Option.some.inj tells⟩
  · rintro ⟨shown, inRow, rfl⟩
    exact ⟨_, (mem_insertEntries alike).mpr (List.mem_map_of_mem inRow), memberFact?_property row shown⟩

/-- **A document tells what the rows tell.** -/
theorem mem_documentFacts {rows : List DeviceRow} (steady : ∀ row ∈ rows, row.Steady) {fact : Fact} :
    fact ∈ documentFacts (document (.devices rows)) ↔ fact ∈ factsOf rows := by
  have items : (document (.devices rows)).items = rows.map deviceDocument := rfl
  rw [documentFacts, items, List.flatMap_map, factsOf, List.mem_flatMap, List.mem_flatMap]
  exact exists_congr fun row => and_congr_right fun inRows => mem_itemFacts (steady row inRows)

/-- **The properties in the document of a row have one member for each code.** -/
theorem properties_deviceDocument (row : DeviceRow) :
    ∃ members, (deviceDocument row).member? "properties" = some (.record members)
      ∧ (members.map Prod.fst).Perm (row.epcs.eraseDups.map Epc.toText) := by
  refine ⟨insertEntries (propertyMembers row), (members_deviceDocument row).2.2, ?_⟩
  refine (keys_insertEntries (propertyMembers row)).trans ?_
  have once : (row.epcs.eraseDups.map Epc.toText).Nodup :=
    (nodup_eraseDups row.epcs).map fun _ _ => Epc.toText_injective
  refine (List.perm_ext_iff_of_nodup (nodup_eraseDups _) once).mpr fun name => ?_
  simp [propertyMembers, DeviceRow.epcs]

/-! ## Facts in tables -/

/-- The codes that rows show, each once, in the order of first appearance. -/
def columnsOf (rows : List DeviceRow) : List Epc := (rows.flatMap DeviceRow.epcs).eraseDups

/-- A column is added for a code that has none yet, whatever columns there are. -/
theorem map_fst_addColumns (properties : List PropertyRow) (shown : List (Epc × Option String)) :
    (properties.foldl (fun shown property =>
        if shown.any fun entry => entry.1 = property.epc then shown
        else shown ++ [(property.epc, property.name)]) shown).map Prod.fst
      = addAllNew (shown.map Prod.fst) (properties.map PropertyRow.epc) := by
  induction properties generalizing shown with
  | nil => rfl
  | cons property rest ih =>
    have step : (if shown.any fun entry => entry.1 = property.epc then shown
        else shown ++ [(property.epc, property.name)]).map Prod.fst
        = addNew (shown.map Prod.fst) property.epc := by
      have there : (shown.any fun entry => entry.1 = property.epc) = true ↔ property.epc ∈ shown.map Prod.fst := by
        simp
      rw [addNew, apply_ite (List.map Prod.fst), List.map_append]
      exact if_congr there rfl rfl
    rw [List.foldl_cons, ih, step]
    rfl

/-- **The columns of properties are the codes in order of first appearance.** -/
theorem map_fst_shownEpcs (rows : List DeviceRow) : (Format.shownEpcs rows).map Prod.fst = columnsOf rows := by
  rw [Format.shownEpcs, map_fst_addColumns, List.map_nil, addAllNew_nil, List.map_flatMap]
  rfl

/-- The first word of a heading is the code. -/
theorem firstWord_epcHeading (entry : Epc × Option String) :
    (epcHeading entry).toList.takeWhile (· ≠ ' ') = entry.1.toText.toList := by
  have whole : ∀ c ∈ entry.1.toText.toList, decide (c ≠ ' ') = true := by
    intro c mem
    exact decide_eq_true fun blank => (whole_epc entry.1).not_mem rfl (blank ▸ mem)
  obtain ⟨epc, name⟩ := entry
  cases name with
  | none => exact List.takeWhile_eq_self_iff.mpr whole
  | some name =>
    have heading : (epcHeading (epc, some name)).toList = epc.toText.toList ++ ' ' :: name.toList := by
      simp [epcHeading]
    rw [heading, List.takeWhile_append_of_pos whole]
    simp

theorem codes_deviceGrid (rows : List DeviceRow) :
    (deviceGrid rows).codes = (columnsOf rows).map Epc.toText := by
  have headings : (deviceGrid rows).header.drop 3 = (Format.shownEpcs rows).map epcHeading := rfl
  rw [Format.Grid.codes, headings, List.map_map, ← map_fst_shownEpcs, List.map_map]
  refine List.map_congr_left fun entry _ => ?_
  show String.ofList _ = _
  rw [firstWord_epcHeading, String.ofList_toList]
  rfl

/-- **A cell is empty, or it shows a value of its row**: empty it is for a code that the row does not have. -/
theorem valueOf_cases (row : DeviceRow) (epc : Epc) :
    (epc ∉ row.epcs ∧ valueOf row epc = "")
      ∨ ∃ shown ∈ row.properties, shown.epc = epc ∧ valueOf row epc = shown.value := by
  unfold valueOf
  cases found : row.properties.find? fun property => property.epc = epc with
  | none =>
    refine .inl ⟨fun has => ?_, rfl⟩
    obtain ⟨shown, inRow, code⟩ := List.mem_map.mp has
    exact List.find?_eq_none.mp found shown inRow (decide_eq_true code)
  | some first => exact .inr ⟨first, List.mem_of_find?_eq_some found, by simpa using List.find?_some found, rfl⟩

/-- The cell of a code that a row has shows its one value. -/
theorem valueOf_of_mem {row : DeviceRow} (steady : row.Steady) {shown : PropertyRow} (mem : shown ∈ row.properties) :
    valueOf row shown.epc = shown.value := by
  rcases valueOf_cases row shown.epc with ⟨absent, -⟩ | ⟨first, inRow, code, value⟩
  · exact absurd (List.mem_map_of_mem mem) absent
  · rw [value, steady first inRow shown mem code]

/-- A record has a cell for each column behind those of the device. -/
theorem deviceRecord_eq (rows : List DeviceRow) (row : DeviceRow) :
    deviceRecord (Format.shownEpcs rows) row
      = row.device.ip.toText :: row.device.eoj.toText :: row.aliasName.getD ""
        :: (columnsOf rows).map (valueOf row) := by
  rw [← map_fst_shownEpcs, List.map_map]
  rfl

/-- **A record tells what its row tells**, apart from empty values. -/
theorem mem_recordFacts {rows : List DeviceRow} {row : DeviceRow} (inRows : row ∈ rows) (steady : row.Steady)
    {fact : Fact} :
    fact ∈ Grid.recordFacts (deviceGrid rows).codes (deviceRecord (Format.shownEpcs rows) row)
      ↔ fact ∈ row.facts ∧ fact.value ≠ "" := by
  rw [codes_deviceGrid, deviceRecord_eq, mem_facts]
  show fact ∈ List.filterMap _ (List.zip _ _) ↔ _
  rw [List.zip_map', List.mem_filterMap]
  constructor
  · rintro ⟨cell, mem, tells⟩
    obtain ⟨epc, -, rfl⟩ := List.mem_map.mp mem
    -- an empty cell tells nothing, so it may stand for either
    rcases valueOf_cases row epc with ⟨-, empty⟩ | ⟨shown, inRow, rfl, value⟩
    · simp [empty] at tells
    · rw [value] at tells
      by_cases empty : shown.value = ""
      · simp [empty] at tells
      · simp only [if_neg empty, Option.some.injEq] at tells
        subst tells
        exact ⟨⟨shown, inRow, rfl⟩, empty⟩
  · rintro ⟨⟨shown, inRow, rfl⟩, some_value⟩
    have column : shown.epc ∈ columnsOf rows :=
      List.mem_eraseDups.mpr (List.mem_flatMap.mpr ⟨row, inRows, List.mem_map_of_mem inRow⟩)
    refine ⟨_, List.mem_map_of_mem column, ?_⟩
    have value := valueOf_of_mem steady inRow
    simp only [value]
    exact if_neg some_value

theorem mem_facts_deviceGrid {rows : List DeviceRow} (steady : ∀ row ∈ rows, row.Steady) {fact : Fact} :
    fact ∈ (deviceGrid rows).facts ↔ fact ∈ factsOf rows ∧ fact.value ≠ "" := by
  have records : (deviceGrid rows).records = rows.map (deviceRecord (Format.shownEpcs rows)) := rfl
  rw [Format.Grid.facts, records, List.flatMap_map, factsOf, List.mem_flatMap, List.mem_flatMap]
  constructor
  · rintro ⟨row, inRows, tells⟩
    obtain ⟨told, value⟩ := (mem_recordFacts inRows (steady row inRows)).mp tells
    exact ⟨⟨row, inRows, told⟩, value⟩
  · rintro ⟨⟨row, inRows, told⟩, value⟩
    exact ⟨row, inRows, (mem_recordFacts inRows (steady row inRows)).mpr ⟨told, value⟩⟩

end DeviceConsole
