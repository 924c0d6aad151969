import DeviceConsole.Proofs.Command.Written
import Mathlib.Data.List.Basic

/-!
# `Proofs.Command.Listing` — the lines that list devices

A listing may name a device and then goes on with items in any order. The device is optional and comes first, so
the first item stands where a device may stand. Most items cannot be taken for one. A property code can, if it
starts with a letter: it is a word that an alias may be. As an item on its own it is recognised later, when the
listing is built. With a value behind it, it is not: the device has taken the code, and a colon is left
(`Captured`).

* `parse_listing` — a listing is read as it is meant, unless its first item is captured, and only then not;
* `foldlM_addItem` — what the items of a line add to a listing.
-/

namespace DeviceConsole

open Device (ClassCode Epc Property)
open Grammar

variable {directory : Directory}

/-! ## Items -/

/-- An item of a listing as it is typed. -/
inductive ListItem where
  | showAll
  | showKnown
  | grouped (epc : Typed Epc.ofText?)
  | holding (property : TypedProperty)
  | shown (epc : Typed Epc.ofText?)

namespace ListItem

/-- The words of the item. -/
def text : ListItem → String
  | showAll => "-all"
  | showKnown => "-props"
  | grouped epc => "-group-by" ++ " " ++ epc.text
  | holding property => property.text
  | shown epc => epc.text

/-- The marks of the item. -/
def front : ListItem → List Mark
  | showAll => [.word "-all"]
  | showKnown => [.word "-props"]
  | grouped epc => [.word "-group-by", .word epc.text]
  | holding property => property.front
  | shown epc => [.word epc.text]

/-- The item as the grammar reads it. -/
def matched : ListItem → Matched
  | showAll => .keyword .listOption "-all"
  | showKnown => .keyword .listOption "-props"
  | grouped epc => .groupBy epc.value
  | holding property => .property (.raw property.value.epc property.value.edt)
  | shown epc => .epc epc.value

/-- The property by which the item groups. -/
def groupBy? : ListItem → Option Epc
  | grouped epc => some epc.value
  | _ => none

/-- The value that the item asks for. -/
def property? : ListItem → Option Property
  | holding property => some property.value
  | _ => none

/-- The property that the item shows. -/
def epc? : ListItem → Option Epc
  | shown epc => some epc.value
  | _ => none

/-- Whether the item is the option that shows everything. -/
def isAll : ListItem → Bool
  | showAll => true
  | _ => false

/-- Whether the item is the option that shows what has a description. -/
def isKnown : ListItem → Bool
  | showKnown => true
  | _ => false

theorem spells (item : ListItem) : Spells item.text item.front := by
  cases item with
  | showAll => exact .word (by decide)
  | showKnown => exact .word (by decide)
  | grouped epc => exact (Spells.word (by decide)).blank (.word epc.isWord)
  | holding property => exact property.spells
  | shown epc => exact .word epc.isWord

theorem front_ne_nil (item : ListItem) : item.front ≠ [] := by
  cases item <;> simp [front, TypedProperty.front]

/-- Every item starts with a word: an option or a property code. -/
theorem head_front (item : ListItem) :
    (∃ text rest, item.front = .word text :: rest ∧ text.toList.head? = some '-')
    ∨ ∃ (epc : Typed Epc.ofText?) (rest : List Mark), item.front = .word epc.text :: rest := by
  cases item with
  | showAll => exact .inl ⟨"-all", [], rfl, by decide⟩
  | showKnown => exact .inl ⟨"-props", [], rfl, by decide⟩
  | grouped epc => exact .inl ⟨"-group-by", [.word epc.text], rfl, by decide⟩
  | holding property => exact .inr ⟨property.epc, [.colon, .word property.edt.text], rfl⟩
  | shown epc => exact .inr ⟨epc, [], rfl⟩

end ListItem

/-! ## What a line means -/

/-- The words of a listing. -/
def listingWords (keyword : String) (device : Option TypedDevice) (items : List ListItem) : List String :=
  keyword :: ((device.map TypedDevice.text).toList ++ items.map ListItem.text)

/-- The listing that is meant: the device, what the items name in the order in which they stand, the last
grouping, and the widest mode that is asked for. -/
def listingMeant (device : Option TypedDevice) (items : List ListItem) : DevicesCommand where
  target := device.map fun device => .device device.specifier
  mode :=
    if items.any ListItem.isAll then .all
    else if items.any ListItem.isKnown then .known
    else if items.any fun item => item.epc?.isSome then .epc
    else .default
  epcs := items.filterMap ListItem.epc?
  properties := items.filterMap ListItem.property?
  groupBy := (items.filterMap ListItem.groupBy?).getLast?

/-- The first item is taken for a device: it is a value of a property whose code starts with a letter, and no
device stands in front of it. -/
def Captured : Option TypedDevice → List ListItem → Prop
  | none, .holding property :: _ => 0xA0 ≤ property.epc.value.value
  | _, _ => False

/-! ## A property code where a device may stand -/

/-- A property code is two hexadecimal digits, the first of which is decimal up to `9F`. -/
theorem chars_of_epc (epc : Typed Epc.ofText?) :
    ∃ first second, epc.text.toList = [first, second] ∧ (Text.Hex.digitValue? first).isSome = true
      ∧ (Text.Hex.digitValue? second).isSome = true
      ∧ ((Text.Decimal.digitValue? first).isSome = true ↔ epc.value.value < 0xA0) := by
  obtain ⟨text, value, isWord, reads⟩ := epc
  obtain ⟨number, read, rfl⟩ := Option.map_eq_some_iff.mp reads
  unfold Text.Hex.readNumber? at read
  split at read
  · next two =>
    obtain ⟨first, second, chars⟩ := List.length_eq_two.mp two
    rw [chars] at read
    show ∃ first second, text.toList = [first, second] ∧ _
    refine ⟨first, second, chars, ?_⟩
    have digits := Text.Hex.isSome_of_readDigits? read
    obtain ⟨high, highRead⟩ := Option.isSome_iff_exists.mp (digits first List.mem_cons_self)
    obtain ⟨low, lowRead⟩ := Option.isSome_iff_exists.mp (digits second (List.mem_cons_of_mem _ List.mem_cons_self))
    refine ⟨by rw [highRead]; rfl, by rw [lowRead]; rfl, ?_⟩
    -- with two digits the first decides whether the number is below `A0`
    have same : number = high * 16 + low := by
      have folded : Text.Hex.readDigits? [first, second] = some ((0 * 16 + high) * 16 + low) := by
        simp [Text.Hex.readDigits?, highRead, lowRead]
      rw [folded, Option.some.injEq] at read
      omega
    have decimal := Text.Hex.lt_of_digitValue? highRead
    have hex := (Text.Hex.lt_of_digitValue? lowRead).1
    show _ ↔ UInt8.ofNat number < 0xA0
    rw [decimal.2, UInt8.lt_iff_toNat_lt, same, UInt8.toNat_ofNat']
    show high < 10 ↔ _ < 160
    omega
  · simp at read

/-- A property code is neither an address nor an object nor a group. -/
theorem refuses_place_of_epc (epc : Typed Epc.ofText?) {after : List Mark} :
    Refuses ipAddressNode (.word epc.text :: after) ∧ Refuses eojNode (.word epc.text :: after)
      ∧ Refuses groupNameNode (.word epc.text :: after) := by
  obtain ⟨first, second, chars, high, low, -⟩ := chars_of_epc epc
  have digits : ∀ c ∈ epc.text.toList, (Text.Hex.digitValue? c).isSome = true := by
    rw [chars]
    simp [high, low]
  refine ⟨?_, refuses_object (@noObject_epc epc after).2, refuses_leaf (if_neg ?_)⟩
  · refine refuses_leaf ?_
    rw [Conversion.ipAddress, Conversion.ofWord, Net.IpAddress.ofText?_of_digits digits]
    rfl
  · rw [chars, List.head?_cons, Option.some.injEq]
    rintro rfl
    exact absurd high (by decide)

/-- What an alias makes of a property code. -/
theorem deviceAlias_epc (epc : Typed Epc.ofText?) :
    Conversion.deviceAlias .deviceAlias (.word epc.text)
      = if 0xA0 ≤ epc.value.value then some (.name .deviceAlias epc.text) else none := by
  obtain ⟨first, second, chars, high, -, decimal⟩ := chars_of_epc epc
  have dash : (first == '-') = false := by
    rw [beq_eq_false_iff_ne]
    rintro rfl
    exact absurd high (by decide)
  have at_sign : (first == '@') = false := by
    rw [beq_eq_false_iff_ne]
    rintro rfl
    exact absurd high (by decide)
  -- what is left of the conversion is the question whether the first character is a decimal digit
  rw [Conversion.deviceAlias, Conversion.ofWord, chars]
  simp only [dash, at_sign, Bool.false_or]
  by_cases small : epc.value.value < 0xA0
  · rw [if_pos (decimal.mpr small), if_neg (UInt8.not_le.mpr small)]
  · rw [if_neg (fun digit => small (decimal.mp digit)), if_pos (UInt8.not_lt.mp small)]

/-- A property code that starts with a letter is taken for a device. -/
theorem takes_device_of_letter (epc : Typed Epc.ofText?) (letter : 0xA0 ≤ epc.value.value)
    {after : List Mark} : Takes deviceNode (.word epc.text :: after) (.device (.aliased epc.text)) after := by
  obtain ⟨noAddress, noObject, noGroup⟩ := @refuses_place_of_epc epc after
  have named : Takes (leaf .deviceAlias .word (Conversion.deviceAlias .deviceAlias))
      (.word epc.text :: after) (.name .deviceAlias epc.text) after :=
    takes_leaf ((deviceAlias_epc epc).trans (if_pos letter))
  exact Takes.composite (.alt_tail (Refuses.seq_head noAddress) (.alt_tail noObject
    (.alt_tail noGroup (.alt_head named)))) rfl

/-- One that starts with a digit is not. -/
theorem refuses_device_of_digit (epc : Typed Epc.ofText?) (digit : ¬ 0xA0 ≤ epc.value.value)
    {after : List Mark} : Refuses deviceNode (.word epc.text :: after) := by
  obtain ⟨noAddress, noObject, noGroup⟩ := @refuses_place_of_epc epc after
  have unnamed : Refuses (leaf .deviceAlias .word (Conversion.deviceAlias .deviceAlias))
      (.word epc.text :: after) := refuses_leaf ((deviceAlias_epc epc).trans (if_neg digit))
  exact Refuses.composite (.alt_cons (Refuses.seq_head noAddress) (.alt_cons noObject
    (.alt_cons noGroup (.alt_cons unnamed .alt_nil))))

/-! ## Items on the line -/

/-- The items of a listing, one of them. -/
def itemNode : Node :=
  .alt [wordNode .listOption "-all", wordNode .listOption "-props", groupByNode, propertyNode, epcNode]

theorem noObject_items (items : List ListItem) : NoObject (items.flatMap ListItem.front ++ [.stop]) := by
  cases items with
  | nil => exact noObject_stop
  | cons item rest =>
    rw [List.flatMap_cons]
    rcases item.head_front with ⟨text, more, front, dash⟩ | ⟨epc, more, front⟩
    · obtain ⟨chars, eq⟩ := List.head?_eq_some_iff.mp dash
      rw [front]
      exact noObject_word (classCode_of_head eq (by decide))
    · rw [front]
      exact noObject_epc epc

theorem ne_of_epc (epc : Typed Epc.ofText?) {label : String} (h : Epc.ofText? label = none) :
    epc.text ≠ label := by
  rintro rfl
  rw [epc.reads] at h
  exact absurd h (by simp)

/-- A property code is no option. -/
theorem takes_behind_options (epc : Typed Epc.ofText?) {before after : List Mark} {result : Matched}
    (h : Takes (.alt [propertyNode, epcNode]) (.word epc.text :: before) result after) :
    Takes itemNode (.word epc.text :: before) result after :=
  .alt_tail (refuses_keyword (ne_of_epc epc (by decide)))
    (.alt_tail (refuses_keyword (ne_of_epc epc (by decide)))
      (.alt_tail (.composite (.seq_head (refuses_keyword (ne_of_epc epc (by decide))))) h))

/-- An item is taken in front of anything but a colon. -/
theorem ListItem.takes (item : ListItem) {after : List Mark} (ends : after.head? ≠ some .colon) :
    Takes itemNode (item.front ++ after) item.matched after := by
  cases item with
  | showAll => exact .alt_head takes_keyword
  | showKnown => exact .alt_tail (refuses_keyword (by decide)) (.alt_head takes_keyword)
  | grouped epc =>
    refine .alt_tail (refuses_keyword (by decide)) (.alt_tail (refuses_keyword (by decide)) (.alt_head ?_))
    exact Takes.composite (.seq (.cons takes_keyword (.cons (takes_epc epc) .nil))) rfl
  | holding property => exact takes_behind_options property.epc (.alt_head property.takes)
  | shown epc =>
    exact takes_behind_options epc
      (.alt_tail (refuses_property_of_epc epc ends) (.alt_head (takes_epc epc)))

/-- In front of a colon or the end of the line there is no item. -/
theorem refuses_item_of_no_word {after : List Mark} (h : ∀ text, after.head? ≠ some (.word text)) :
    Refuses itemNode after :=
  .alt_cons (refuses_keyword_of_no_word h) (.alt_cons (refuses_keyword_of_no_word h)
    (.alt_cons (.composite (.seq_head (refuses_keyword_of_no_word h)))
      (.alt_cons (refuses_property_of_no_word h) (.alt_cons (refuses_leaf_of_no_word h) .alt_nil))))

theorem takesMany_items (items : List ListItem) :
    TakesMany itemNode (items.flatMap ListItem.front ++ [.stop]) (items.map ListItem.matched) [.stop] :=
  TakesMany.of_items (fun item later _ => item.takes (noObject_items later).1)
    (fun item _ => item.front_ne_nil) (refuses_item_of_no_word (by simp))

/-! ## What the items add -/

/-- A listing under construction with more items behind it. -/
def Directory.Draft.extend (draft : Directory.Draft) (items : List ListItem) : Directory.Draft where
  command := { draft.command with
    epcs := draft.command.epcs ++ items.filterMap ListItem.epc?
    properties := draft.command.properties ++ items.filterMap ListItem.property?
    groupBy := (items.filterMap ListItem.groupBy?).getLast?.or draft.command.groupBy }
  showAll := draft.showAll || items.any ListItem.isAll
  showKnown := draft.showKnown || items.any ListItem.isKnown

theorem Directory.Draft.extend_nil (draft : Directory.Draft) : draft.extend [] = draft := by
  simp [extend]

theorem Directory.Draft.extend_cons (draft : Directory.Draft) (item : ListItem) (rest : List ListItem) :
    (draft.extend [item]).extend rest = draft.extend (item :: rest) := by
  show _ = draft.extend ([item] ++ rest)
  simp only [extend, List.filterMap_append, List.getLast?_append, List.any_append, List.append_assoc,
    Option.or_assoc, Bool.or_assoc]

/-- One item adds what it says. -/
theorem addItem_matched (draft : Directory.Draft) (item : ListItem) :
    directory.addItem draft item.matched = .ok (draft.extend [item]) := by
  cases item <;>
    simp [ListItem.matched, Directory.addItem, Directory.Draft.extend, Directory.Draft.addEpc,
      Directory.Draft.addProperty, Directory.property, Except.map, List.filterMap_cons, ListItem.epc?,
      ListItem.property?, ListItem.groupBy?, ListItem.isAll, ListItem.isKnown, TypedProperty.value]

/-- **The items of a line add what they say**, one after the other. -/
theorem foldlM_addItem (draft : Directory.Draft) (items : List ListItem) :
    (items.map ListItem.matched).foldlM directory.addItem draft = .ok (draft.extend items) := by
  induction items generalizing draft with
  | nil => rw [draft.extend_nil]; rfl
  | cons item rest ih =>
    rw [List.map_cons, List.foldlM_cons, addItem_matched]
    show (rest.map ListItem.matched).foldlM directory.addItem (draft.extend [item]) = _
    rw [ih, draft.extend_cons]

theorem devices_items (items : List ListItem) :
    directory.devices (items.map ListItem.matched) = .ok (Directory.Draft.extend {} items).finish := by
  unfold Directory.devices
  rw [foldlM_addItem]
  rfl

theorem devices_first {first : Matched} {draft : Directory.Draft}
    (h : directory.addItem {} first = .ok draft) (items : List ListItem) :
    directory.devices (first :: items.map ListItem.matched) = .ok (draft.extend items).finish := by
  unfold Directory.devices
  rw [List.foldlM_cons, h]
  show Except.map _ ((items.map ListItem.matched).foldlM directory.addItem draft) = _
  rw [foldlM_addItem]
  rfl

theorem isEmpty_epcs (items : List ListItem) :
    (items.filterMap ListItem.epc?).isEmpty = !items.any fun item => item.epc?.isSome := by
  induction items with
  | nil => rfl
  | cons item rest ih =>
    cases item with
    | shown epc => rfl
    | _ => exact ih

/-- The finished listing of a target and items is the one that is meant. -/
theorem finish_extend (target : Option Target) (items : List ListItem) :
    (Directory.Draft.extend { command := { target := target } } items).finish
      = { listingMeant none items with target := target } := by
  have shown := isEmpty_epcs items
  unfold Directory.Draft.finish Directory.Draft.mode Directory.Draft.extend listingMeant
  simp only [List.nil_append, Option.or_none, Bool.false_or, shown]
  cases items.any fun item => item.epc?.isSome <;> rfl

theorem Grammar.TypedDevice.numbered (device : TypedDevice) :
    ∀ number ∈ device.specifier.instanceCode, number ≠ 0 := by
  have read : ∀ object : TypedObject, ∀ number ∈ object.instanceCode.map Typed.value, number ≠ 0 := by
    rintro object number mem rfl
    obtain ⟨typed, -, value⟩ := Option.map_eq_some_iff.mp mem
    have least := (instanceCode_of_read typed.reads).2
    rw [value] at least
    exact absurd least (by decide)
  rcases device with ⟨ip, _ | object⟩ | object
  · rintro number ⟨⟩
  · exact read object
  · exact read object

/-! ## Whole lines -/

/-- What stands in front is taken for the device of the listing, or nothing is; together with the items behind it
this is the listing that is meant. -/
theorem takes_front (noAlias : ∀ name, directory.alias? name = none) {device : Option TypedDevice}
    {items : List ListItem} (free : ¬ Captured device items) :
    ∃ front, ∃ rest : List ListItem, Takes (.optional deviceNode)
        ((device.map TypedDevice.front).getD [] ++ (items.flatMap ListItem.front ++ [.stop])) front
        (rest.flatMap ListItem.front ++ [.stop])
      ∧ directory.devices (front.items ++ rest.map ListItem.matched) = .ok (listingMeant device items) := by
  cases device with
  | some device =>
    refine ⟨.device (.ofSpecifier device.specifier), items, ?_, ?_⟩
    · exact (device.takes (TypedDevice.EndsBefore.of_noObject (noObject_items items))).optional
    · have first : directory.addItem {} (.device (.ofSpecifier device.specifier))
          = .ok { command := { target := some (.device device.specifier) } } := by
        show ((directory.specifier _).map _).map _ = _
        rw [directory.specifier_ofSpecifier device.numbered]
        rfl
      refine (devices_first first items).trans ?_
      rw [finish_extend]
      rfl
  | none =>
    -- without a device the first item stands in its place
    have plain : Refuses deviceNode (items.flatMap ListItem.front ++ [.stop]) →
        ∃ front, ∃ rest : List ListItem, Takes (.optional deviceNode)
          (items.flatMap ListItem.front ++ [.stop]) front (rest.flatMap ListItem.front ++ [.stop])
        ∧ directory.devices (front.items ++ rest.map ListItem.matched) = .ok (listingMeant none items) := by
      intro refuses
      refine ⟨.skipped, items, .skip refuses, ?_⟩
      exact (devices_items items).trans (congrArg Except.ok (finish_extend none items))
    show ∃ front, ∃ rest : List ListItem,
      Takes (.optional deviceNode) (items.flatMap ListItem.front ++ [.stop]) front _ ∧ _
    rcases items with _ | ⟨_ | _ | epc | property | epc, rest⟩
    · exact plain refuses_device_stop
    · exact plain (refuses_device_of_dash (by decide))
    · exact plain (refuses_device_of_dash (by decide))
    · exact plain (refuses_device_of_dash (by decide))
    · exact plain (refuses_device_of_digit property.epc free)
    · by_cases letter : 0xA0 ≤ epc.value.value
      · refine ⟨.device (.aliased epc.text), rest, (takes_device_of_letter epc letter).optional, ?_⟩
        -- no alias has this name, so the word is read as the code that it is
        have first : directory.addItem {} (.device (.aliased epc.text))
            = .ok (Directory.Draft.extend {} [.shown epc]) := by
          simp only [Directory.addItem, noAlias, epc.reads]
          rfl
        refine (devices_first first rest).trans ?_
        rw [Directory.Draft.extend_cons]
        exact congrArg Except.ok (finish_extend none (.shown epc :: rest))
      · exact plain (refuses_device_of_digit epc letter)

theorem spells_listing (device : Option TypedDevice) (items : List ListItem) :
    SpellsAll ((device.map TypedDevice.text).toList ++ items.map ListItem.text)
      ((device.map TypedDevice.front).getD [] ++ items.flatMap ListItem.front) := by
  have texts : SpellsAll (items.map ListItem.text) (items.flatMap ListItem.front) :=
    .map fun item _ => item.spells
  cases device with
  | none => exact texts
  | some device => exact .cons device.spells texts

theorem Directory.buildNamed_listing (directory : Directory) {keyword : String}
    (h : keyword = "devices" ∨ keyword = "list") (items : List Matched) :
    directory.buildNamed keyword items = (directory.devices items).map .devices := by
  rcases h with rfl | rfl <;> rfl

/-- A listing, if what may stand in front leaves the items to be taken: it gives what they give together. -/
theorem parse_listing_of_marks {keyword line : String} (named : keyword = "devices" ∨ keyword = "list")
    {before rest : List Mark} {device : Matched} {items : List Matched}
    (marked : marks (tokenize line) = .word keyword :: before) (takes : Takes (.optional deviceNode) before device rest)
    (many : TakesMany itemNode rest items [.stop]) (leaves : itemsOfAll items = items) :
    directory.parse line = (directory.devices (device.items ++ items)).map .devices := by
  obtain ⟨result, takesItems, own⟩ := takes_any_number many
  have mem : (["devices", "list"], devicesCommand) ∈ commandTable := by simp [commandTable]
  have key : keyword ∈ ["devices", "list"] := by simpa using named
  have taken : Takes devicesCommand (.word keyword :: before) (.seq [.keyword .command keyword, device, result]) [.stop] :=
    .seq (.cons (takes_listing named) (.cons takes (.cons takesItems .nil)))
  have flat : (Matched.seq [.keyword .command keyword, device, result]).items
      = .keyword .command keyword :: (device.items ++ items) := by
    simp [Matched.items, itemsOfAll, own, leaves]
  rw [directory.parse_of_marks mem key marked taken, directory.build_of_items flat, directory.buildNamed_listing named]

/-- So a listing of texts is the one that its items make. -/
theorem parse_listing_of_takes {keyword : String} (named : keyword = "devices" ∨ keyword = "list")
    {texts : List String} {marks : List Mark} {device : Matched} {items : List ListItem} {command : DevicesCommand}
    (spells : SpellsAll texts marks)
    (takes : Takes (.optional deviceNode) (marks ++ [.stop]) device (items.flatMap ListItem.front ++ [.stop]))
    (built : directory.devices (device.items ++ items.map ListItem.matched) = .ok command) :
    directory.parse (" ".intercalate (keyword :: texts)) = .ok (.devices command) := by
  have isWord : IsWord keyword := by
    rcases named with rfl | rfl <;> decide
  have leaves : itemsOfAll (items.map ListItem.matched) = items.map ListItem.matched :=
    items_map_leaf fun item _ => by cases item <;> rfl
  rw [parse_listing_of_marks named (marks_line isWord spells) takes (takesMany_items items) leaves, built]
  rfl

/-- A listing whose first item is not captured is read as it is meant. -/
theorem parse_listing_free (noAlias : ∀ name, directory.alias? name = none) {keyword : String}
    (named : keyword = "devices" ∨ keyword = "list") {device : Option TypedDevice} {items : List ListItem}
    (free : ¬ Captured device items) :
    directory.parse (" ".intercalate (listingWords keyword device items))
      = .ok (.devices (listingMeant device items)) := by
  obtain ⟨front, rest, takesFront, built⟩ := takes_front noAlias free
  rw [← List.append_assoc] at takesFront
  exact parse_listing_of_takes named (spells_listing device items) takesFront built

/-- A listing whose first item is captured is no line of the language: the colon of the item is left. -/
theorem parse_listing_captured {keyword : String} (named : keyword = "devices" ∨ keyword = "list")
    {device : Option TypedDevice} {items : List ListItem} (captured : Captured device items) :
    directory.parse (" ".intercalate (listingWords keyword device items))
      = .error (.mismatch (mismatchOf (tokenize (" ".intercalate (listingWords keyword device items))))) := by
  obtain ⟨property, rest, rfl, rfl, letter⟩ : ∃ property rest, device = none ∧ items = .holding property :: rest
      ∧ 0xA0 ≤ property.epc.value.value := by
    unfold Captured at captured
    split at captured
    · exact ⟨_, _, rfl, rfl, captured⟩
    · exact captured.elim
  have mem : (["devices", "list"], devicesCommand) ∈ commandTable := by simp [commandTable]
  have key : keyword ∈ ["devices", "list"] := by rcases named with rfl | rfl <;> simp
  have line : marks (tokenize (" ".intercalate (listingWords keyword none (.holding property :: rest))))
      = .word keyword :: ((.holding property :: rest).flatMap ListItem.front ++ [.stop]) :=
    marks_line (isWord_of_mem mem key) (spells_listing none (.holding property :: rest))
  have left : Takes devicesCommand
      (.word keyword :: ((.holding property :: rest).flatMap ListItem.front ++ [.stop]))
      (.seq [.keyword .command keyword, .device (.aliased property.epc.text), .skipped])
      (.colon :: .word property.edt.text :: (rest.flatMap ListItem.front ++ [.stop])) := by
    -- the device has taken the code, and no item starts with a colon
    have nothing : Takes (.optional (.repeated itemNode))
        (.colon :: .word property.edt.text :: (rest.flatMap ListItem.front ++ [.stop])) .skipped _ :=
      .skip (.repeated (refuses_item_of_no_word (by simp)))
    exact .seq (.cons (takes_listing named)
      (.cons (takes_device_of_letter property.epc letter).optional (.cons nothing .nil)))
  have whole := takes_command mem key left
  rw [← line] at whole
  have colon : Mark.colon ≠ .stop := by decide
  unfold Directory.parse
  rw [parseTokens_of_left colon whole]

/-- **A listing is read as it is meant, unless its first item is captured.** Where no alias is defined, every
listing parses to the device, the codes, the values, the grouping and the mode that its words ask for, except
those that start with a value of a property whose code starts with a letter: these are refused. -/
theorem parse_listing (noAlias : ∀ name, directory.alias? name = none) {keyword : String}
    (named : keyword = "devices" ∨ keyword = "list") (device : Option TypedDevice) (items : List ListItem) :
    (¬ Captured device items →
      directory.parse (" ".intercalate (listingWords keyword device items))
        = .ok (.devices (listingMeant device items)))
    ∧ (Captured device items →
      directory.parse (" ".intercalate (listingWords keyword device items))
        = .error (.mismatch (mismatchOf (tokenize (" ".intercalate (listingWords keyword device items)))))) :=
  ⟨fun free => parse_listing_free noAlias named free, fun captured => parse_listing_captured named captured⟩

/-- The value `42` of the property `B0`. -/
def valueB0 : TypedProperty := ⟨.ofEpc ⟨0xB0⟩, .ofEdt [0x42] (by simp)⟩

/-- The same item behind an option and as the first item. -/
theorem parse_listing_letter :
    Directory.empty.parse "devices -all B0:42"
      = .ok (.devices { mode := .all, properties := [⟨⟨0xB0⟩, [0x42]⟩] })
    ∧ ∃ mismatch, Directory.empty.parse "devices B0:42" = .error (.mismatch mismatch) := by
  have behind : " ".intercalate (listingWords "devices" none [.showAll, .holding valueB0])
      = "devices -all B0:42" := by decide +kernel
  have first : " ".intercalate (listingWords "devices" none [.holding valueB0]) = "devices B0:42" := by
    decide +kernel
  have read := (@parse_listing Directory.empty (fun _ => rfl) "devices" (.inl rfl) none
    [.showAll, .holding valueB0]).1 id
  have refused := (@parse_listing Directory.empty (fun _ => rfl) "devices" (.inl rfl) none
    [.holding valueB0]).2 (show (0xA0 : UInt8) ≤ 0xB0 by decide)
  rw [behind] at read
  rw [first] at refused
  exact ⟨read, _, refused⟩

end DeviceConsole
