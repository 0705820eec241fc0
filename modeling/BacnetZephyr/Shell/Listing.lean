import BacnetZephyr.Foundation.JsonRows
import BacnetZephyr.Shell.PropertyJson

/-!
# Listing objects and properties

`bacnet object list` and `bacnet property list` print a list row by row, and close it in
the row whose number is the length of the list. The rows that are printed need not be that
many: an object that is not found has no row, and an object may have no properties.

Both lists are one JSON value exactly when the row that closes it is printed, and then the
value has the objects that are found, or all properties, in their order.
-/

namespace BacnetZephyr

open CLib JsonText

def propObjectList : UInt32 := 76

/--
`Device_Object_List_Count` and `Device_Object_List_Identifier`. An index of the loop over the
list, a `uint32_t`, passes the count.
-/
structure DeviceObjectList where
  count : ℕ
  passed : count + 1 < UInt32.size
  identifier : (arrayIndex : ℕ) → Option (UInt16 × UInt32)

section Commands

variable {Value : Type} (library : PropertyLibrary Value)

/-- `{"%s":{"%s":%u}}`. -/
def objectRow (objectType : UInt16) (objectInstance : UInt32) : CString :=
  objectText [(library.propertyName propObjectIdentifier,
    objectText [(library.objectTypeName objectType, unsignedText objectInstance.toNat)])]

/-- One round of the loop of `cmd_object_list`. -/
def objectListRound (objects : DeviceObjectList) (arrayIndex : ℕ) : CString :=
  match objects.identifier arrayIndex with
  | some (objectType, objectInstance) =>
      objectRow library objectType objectInstance ++
        ((if arrayIndex = objects.count then [']', ','] else [',']) ++ ['\n'])
  | none => []

def cmdObjectList (objects : DeviceObjectList) : CString :=
  '\x7b' :: keyText (library.propertyName propObjectList) ('[' :: '\n' ::
    ((List.range' 1 objects.count).flatMap (objectListRound library objects) ++
      keyText "object-list-size".toList (unsignedText objects.count ++ ['\x7d', '\n'])))

/-- What the loops of `cmd_list` share, and the text so far. -/
structure PropertyListing where
  counter : ℕ
  printed : CString

/-- One round of a loop of `cmd_list`, which prints `row` for the property. -/
def listProperty (row : UInt32 → CString) (count : ℕ) (listing : PropertyListing)
    (read : PropertyRead) : PropertyListing :=
  let counter := listing.counter + 1
  { counter
    printed := listing.printed ++
      (row read.property ++ ((if counter = count then [']', ','] else [',']) ++ ['\n'])) }

/-- The text that is printed for the lists of an object. What its properties are is not read. -/
def cmdList (rpdata : BacnetReadPropertyData) (lists : SpecialPropertyList) : CString :=
  let count := lists.required.length + lists.optional.length + lists.proprietary.length
  let named := listProperty (fun property => quoted (propertyKey library property)) count
  let numbered := listProperty (fun property => unsignedText property.toNat ++ [' ']) count
  let required := lists.required.foldl named ⟨0, []⟩
  let optional := lists.optional.foldl named required
  let proprietary := lists.proprietary.foldl numbered optional
  '\x7b' :: '"' :: (library.propertyName propObjectIdentifier ++ '"' :: ':' :: '"' :: '(' ::
    (library.objectTypeName rpdata.objectType ++ ':' ::
      (unsignedText rpdata.objectInstance.toNat ++ ')' :: '"' :: ',' :: '\n' ::
        keyText (library.propertyName propPropertyList) ('[' :: '\n' ::
          (proprietary.printed ++ keyText "property-list-size".toList
            (unsignedText count ++ ['\x7d', '\n']))))))

end Commands

/-! ## A list that is closed by its last row -/

section Lists

variable {before listKey sizeKey last : CString} {rows : List CString} {values : List Json}
  (size : ℕ)

/-- What both commands print after the rows. -/
def listSize (sizeKey : CString) (size : ℕ) : CString :=
  keyText sizeKey (unsignedText size ++ ['\x7d', '\n'])

/-- The list and its size are two members, up to the bracket that ends the object. -/
theorem membersText_list (blank : Blank before) (plainList : isPlain listKey)
    (plainSize : isPlain sizeKey) (elements : List.Forall₂ ElementText (rows ++ [last]) values) :
    ∃ text, before ++ keyText listKey ('[' :: '\n' :: (continuedRows rows ++
        (last ++ ']' :: ',' :: '\n' :: listSize sizeKey size))) = text ++ ['\x7d', '\n'] ∧
      MembersText text [(listKey, .array values),
        (sizeKey, .number (unsignedText size))] := by
  have array := ValueText.array (elementsText_rows elements)
  have list := memberText_keyText listKey plainList blank array blank_nil
  have number := memberText_keyText sizeKey plainSize blank_lineEnd
    (.number (isNumber_unsignedText size)) blank_nil
  refine ⟨_, ?_, .more list (.last number)⟩
  simp [listSize, keyText]

/-- Without a last row the bracket of the list stays open. -/
theorem opens_list (plainList : isPlain listKey) (plainSize : isPlain sizeKey)
    (elements : List.Forall₂ ElementText rows values) :
    Opens (keyText listKey ('[' :: '\n' :: (continuedRows rows ++ listSize sizeKey size))) 0
      True := by
  have number := ValueText.number (isNumber_unsignedText size)
  have ending := opens_lineEnd.append_scans number.scans '\x7d' rfl
  have sizeOpens := opens_keyText sizeKey plainSize ending
  have rowsOpen := ((opens_continuedRows elements sizeOpens).cons '\n' rfl).cons '[' rfl
  exact (opens_keyText listKey plainList rowsOpen).of_eq rfl

end Lists

/-! ## The objects of a device -/

section Objects

variable {Value : Type} {library : PropertyLibrary Value}

/-- The objects of the list that are found, in its order. -/
def DeviceObjectList.found (objects : DeviceObjectList) : List (UInt16 × UInt32) :=
  (List.range' 1 objects.count).filterMap objects.identifier

/-- The last object of the list is there. -/
def DeviceObjectList.LastFound (objects : DeviceObjectList) : Prop :=
  0 < objects.count ∧ (objects.identifier objects.count).isSome

variable (library) in
/-- The element of an object: its identifier, with the number under the name of its type. -/
def objectElement (identifier : UInt16 × UInt32) : Json :=
  .object [(library.propertyName propObjectIdentifier,
    .object [(library.objectTypeName identifier.1,
      .number (unsignedText identifier.2.toNat))])]

variable (library) in
def objectListDocument (objects : DeviceObjectList) : Json :=
  .object [(library.propertyName propObjectList,
      .array (objects.found.map (objectElement library))),
    ("object-list-size".toList, .number (unsignedText objects.count))]

variable (documented : PropertyLibraryDocumented library) {objects : DeviceObjectList}

include documented in
theorem elementText_objectRow (identifier : UInt16 × UInt32) :
    ElementText (objectRow library identifier.1 identifier.2)
      (objectElement library identifier) := by
  have number : IsField
      (library.objectTypeName identifier.1, unsignedText identifier.2.toNat)
      (library.objectTypeName identifier.1, .number (unsignedText identifier.2.toNat)) :=
    ⟨documented.objectTypeName _, rfl, .number (isNumber_unsignedText _)⟩
  have inner := valueText_objectText (.cons number .nil)
  exact .of_value (valueText_objectText
    (.cons ⟨documented.propertyName _, rfl, inner⟩ .nil))

include documented in
theorem elements_objectRows (identifiers : List (UInt16 × UInt32)) :
    List.Forall₂ ElementText
      (identifiers.map fun identifier => objectRow library identifier.1 identifier.2)
      (identifiers.map (objectElement library)) := by
  rw [List.forall₂_map_left_iff, List.forall₂_map_right_iff]
  apply List.forall₂_same.mpr
  exact fun identifier _ => elementText_objectRow documented identifier

/-- Before the last one, each object that is found has a row, and others follow it. -/
theorem flatMap_objectListRound (arrayIndexes : List ℕ)
    (inside : ∀ arrayIndex ∈ arrayIndexes, arrayIndex ≠ objects.count) :
    arrayIndexes.flatMap (objectListRound library objects) =
      continuedRows ((arrayIndexes.filterMap objects.identifier).map fun identifier =>
        objectRow library identifier.1 identifier.2) := by
  induction arrayIndexes with
  | nil => rfl
  | cons arrayIndex rest ih =>
      rw [List.forall_mem_cons] at inside
      rw [List.flatMap_cons, ih inside.2]
      cases identified : objects.identifier arrayIndex with
      | none => simp [objectListRound, identified]
      | some identifier => simp [objectListRound, identified, inside.1, continuedRows]

/-- The rounds of the loop: the rows before the last round, and the last round. -/
theorem cmdObjectList_succ {count : ℕ} (counted : objects.count = count + 1) :
    cmdObjectList library objects =
      '\x7b' :: keyText (library.propertyName propObjectList) ('[' :: '\n' ::
        (continuedRows (((List.range' 1 count).filterMap objects.identifier).map
            fun identifier => objectRow library identifier.1 identifier.2) ++
          (objectListRound library objects objects.count ++
            listSize "object-list-size".toList objects.count))) := by
  have inside : ∀ arrayIndex ∈ List.range' 1 count, arrayIndex ≠ objects.count := by
    intro arrayIndex mem
    rw [List.mem_range'_1] at mem
    omega
  have rounds : List.range' 1 objects.count = List.range' 1 count ++ [objects.count] := by
    rw [counted, List.range'_1_concat, Nat.add_comm 1 count]
  simp only [cmdObjectList]
  rw [rounds, List.flatMap_append, flatMap_objectListRound _ inside, List.append_assoc]
  simp [listSize]

include documented in
/-- With its last object the list is closed, and the document has all that are found. -/
theorem elementText_cmdObjectList (lastFound : objects.LastFound) :
    ElementText (cmdObjectList library objects) (objectListDocument library objects) := by
  rcases lastFound with ⟨positive, isSome⟩
  rcases Option.isSome_iff_exists.mp isSome with ⟨identifier, identified⟩
  obtain ⟨count, counted⟩ := Nat.exists_eq_succ_of_ne_zero (Nat.ne_of_gt positive)
  have last : objects.identifier (1 + count) = some identifier := by
    rw [← identified, counted, Nat.add_comm]
  have found : objects.found =
      (List.range' 1 count).filterMap objects.identifier ++ [identifier] := by
    rw [DeviceObjectList.found, counted, Nat.succ_eq_add_one, List.range'_1_concat,
      List.filterMap_append]
    simp [last]
  have closed : objectListRound library objects objects.count =
      objectRow library identifier.1 identifier.2 ++ [']', ',', '\n'] := by
    simp [objectListRound, identified]
  have elements := elements_objectRows documented objects.found
  rw [found, List.map_append, ← found] at elements
  rcases membersText_list objects.count blank_nil (documented.propertyName propObjectList)
    (show isPlain "object-list-size".toList from rfl) elements with ⟨text, same, members⟩
  have document := ElementText.spaced blank_nil (.object members) blank_lineEnd
  rw [objectListDocument, cmdObjectList_succ counted, closed]
  simp only [List.append_assoc, List.cons_append, List.nil_append] at same document ⊢
  rw [same]
  exact document

include documented in
/-- Without its last object nothing closes the list. -/
theorem not_elementText_cmdObjectList (missing : ¬objects.LastFound) (value : Json) :
    ¬ElementText (cmdObjectList library objects) value := by
  have plainList := documented.propertyName propObjectList
  have plainSize : isPlain "object-list-size".toList := rfl
  cases counted : objects.count with
  | zero =>
      have opened := (opens_list 0 plainList plainSize .nil).cons '\x7b' rfl
      have same : cmdObjectList library objects = '\x7b' ::
          keyText (library.propertyName propObjectList) ('[' :: '\n' ::
            (continuedRows [] ++ listSize "object-list-size".toList 0)) := by
        simp [cmdObjectList, counted, continuedRows, listSize]
      rw [same]
      exact opened.not_element (by decide)
  | succ count =>
      have absent : objectListRound library objects objects.count = [] := by
        cases identified : objects.identifier objects.count with
        | none => simp [objectListRound, identified]
        | some identifier =>
            refine absurd ⟨?_, ?_⟩ missing
            · rw [counted]
              exact Nat.succ_pos _
            · rw [identified]
              rfl
      have rows := elements_objectRows documented
        ((List.range' 1 count).filterMap objects.identifier)
      have opened := (opens_list objects.count plainList plainSize rows).cons '\x7b' rfl
      rw [cmdObjectList_succ counted, absent, List.nil_append]
      exact opened.not_element (by decide)

include documented in
/--
The list of objects is one JSON value exactly when the last object of the list is found,
and then it has all objects that are found, in the order of the list.
-/
theorem objectList_printed (objects : DeviceObjectList) :
    objects.LastFound ∧
        ElementText (cmdObjectList library objects) (objectListDocument library objects) ∨
      ¬objects.LastFound ∧ ∀ value, ¬ElementText (cmdObjectList library objects) value := by
  by_cases lastFound : objects.LastFound
  · exact .inl ⟨lastFound, elementText_cmdObjectList documented lastFound⟩
  · exact .inr ⟨lastFound, not_elementText_cmdObjectList documented lastFound⟩

end Objects

/-- The second of three objects is not found. -/
def DeviceObjectList.threeObjects : DeviceObjectList where
  count := 3
  passed := by decide
  identifier arrayIndex := if arrayIndex = 2 then none else some (48, UInt32.ofNat arrayIndex)

theorem objectList_printed_threeObjects :
    ElementText (cmdObjectList referenceProperties .threeObjects)
      (objectListDocument referenceProperties .threeObjects) := by
  rcases objectList_printed documented_referenceProperties .threeObjects with
    ⟨_, document⟩ | ⟨missing, _⟩
  · exact document
  · exact absurd ⟨by decide, rfl⟩ missing

/-! ## The properties of an object -/

section Properties

variable {Value : Type} {library : PropertyLibrary Value}

/-- The row of a property in one of the three lists. -/
def propertyListRows (library : PropertyLibrary Value) (lists : SpecialPropertyList) :
    List CString :=
  ((lists.required ++ lists.optional).map fun read => quoted (propertyKey library read.property)) ++
    lists.proprietary.map fun read => unsignedText read.property.toNat ++ [' ']

/-- The name that the library has for a property, or its number where it has none. -/
def propertyLabel (library : PropertyLibrary Value) (property : UInt32) : CString :=
  (library.propertyNameDefault property).getD (unsignedText property.toNat)

/-- The element of a property: its name or number as a string, a number for a proprietary one. -/
def propertyListElements (library : PropertyLibrary Value) (lists : SpecialPropertyList) :
    List Json :=
  ((lists.required ++ lists.optional).map fun read =>
      .string (propertyLabel library read.property)) ++
    lists.proprietary.map fun read => .number (unsignedText read.property.toNat)

/-- A round of any of the loops, by what it prints for its property. -/
def listRow (count : ℕ) (listing : PropertyListing) (row : CString) : PropertyListing :=
  ⟨listing.counter + 1, listing.printed ++
    (row ++ ((if listing.counter + 1 = count then [']', ','] else [',']) ++ ['\n']))⟩

/-- Rounds before the last property print rows that others follow. -/
theorem foldl_listRow {count : ℕ} (rows : List CString) {listing : PropertyListing}
    (notLast : listing.counter + rows.length < count) :
    rows.foldl (listRow count) listing =
      ⟨listing.counter + rows.length, listing.printed ++ continuedRows rows⟩ := by
  induction rows generalizing listing with
  | nil => simp [continuedRows]
  | cons row rows ih =>
      rw [List.length_cons] at notLast
      have other : listing.counter + 1 ≠ count := by omega
      have step : listRow count listing row =
          ⟨listing.counter + 1, listing.printed ++ (row ++ [',', '\n'])⟩ := by
        simp [listRow, other]
      rw [List.foldl_cons, step, ih (by simp only; omega)]
      simp only [List.length_cons, continuedRows, List.flatMap_cons, List.append_assoc]
      congr 1
      omega

/-- The three loops are one loop over the rows. -/
theorem foldl_listProperty (lists : SpecialPropertyList) (count : ℕ) (listing : PropertyListing) :
    lists.proprietary.foldl
        (listProperty (fun property => unsignedText property.toNat ++ [' ']) count)
        (lists.optional.foldl
          (listProperty (fun property => quoted (propertyKey library property)) count)
          (lists.required.foldl
            (listProperty (fun property => quoted (propertyKey library property)) count)
            listing)) =
      (propertyListRows library lists).foldl (listRow count) listing := by
  rw [propertyListRows, List.foldl_append, List.foldl_map, List.foldl_map, List.foldl_append]
  rfl

theorem cmdList_eq (rpdata : BacnetReadPropertyData) (lists : SpecialPropertyList) :
    cmdList library rpdata lists =
      '\x7b' :: (identifierText library rpdata ++ ',' ::
        ('\n' :: keyText (library.propertyName propPropertyList) ('[' :: '\n' ::
          (((propertyListRows library lists).foldl (listRow lists.reads.length) ⟨0, []⟩).printed ++
            listSize "property-list-size".toList lists.reads.length)))) := by
  have count : lists.required.length + lists.optional.length + lists.proprietary.length =
      lists.reads.length := by
    simp only [SpecialPropertyList.reads, List.length_append]
    omega
  simp only [cmdList, count]
  rw [foldl_listProperty]
  simp [identifierText, quoted, listSize]

variable (documented : PropertyLibraryDocumented library)
include documented

/-- The buffer holds every name and every number. -/
theorem propertyKey_eq (property : UInt32) :
    propertyKey library property = propertyLabel library property := by
  rw [propertyKey, propertyLabel]
  cases named : library.propertyNameDefault property with
  | none => exact bactextName_none documented property
  | some name =>
      have isName := documented.propertyNameDefault property name named
      exact documented.snprintfToAscii _ _ isName.1 isName.2

theorem elements_propertyListRows (lists : SpecialPropertyList) :
    List.Forall₂ ElementText (propertyListRows library lists)
      (propertyListElements library lists) := by
  apply List.rel_append
  · rw [List.forall₂_map_left_iff, List.forall₂_map_right_iff]
    apply List.forall₂_same.mpr
    intro read _
    rw [← propertyKey_eq documented]
    exact .of_value (valueText_quoted (isPlain_propertyKey documented read.property))
  · rw [List.forall₂_map_left_iff, List.forall₂_map_right_iff]
    apply List.forall₂_same.mpr
    intro read _
    have number := ValueText.number (isNumber_unsignedText read.property.toNat)
    simpa using ElementText.spaced blank_nil number blank_space

/-- The last property closes the list. -/
theorem elementText_cmdList (rpdata : BacnetReadPropertyData) {lists : SpecialPropertyList}
    (nonempty : lists.reads ≠ []) :
    ∃ identifier, ElementText (cmdList library rpdata lists) (.object
      [identifier, ("property-list".toList, .array (propertyListElements library lists)),
        ("property-list-size".toList, .number (unsignedText lists.reads.length))]) := by
  have elements := elements_propertyListRows documented lists
  have length : (propertyListRows library lists).length = lists.reads.length := by
    simp only [propertyListRows, SpecialPropertyList.reads, List.length_append, List.length_map]
    omega
  rcases List.eq_nil_or_concat (propertyListRows library lists) with none | ⟨rows, last, same⟩
  · rw [none] at length
    exact absurd (List.length_eq_zero_iff.mp length.symm) nonempty
  rw [List.concat_eq_append] at same
  rw [same, List.length_append, List.length_singleton] at length
  rw [same] at elements
  have front : rows.foldl (listRow lists.reads.length) ⟨0, []⟩ =
      ⟨rows.length, continuedRows rows⟩ := by
    have others : (⟨0, []⟩ : PropertyListing).counter + rows.length < lists.reads.length := by
      simp only
      omega
    simpa using foldl_listRow rows others
  have printed : ((propertyListRows library lists).foldl (listRow lists.reads.length)
      ⟨0, []⟩).printed = continuedRows rows ++ (last ++ [']', ',', '\n']) := by
    rw [same, List.foldl_append, front, List.foldl_cons, List.foldl_nil]
    simp [listRow, length]
  rcases @memberText_identifierText _ library rpdata documented with ⟨identifier, isIdentifier⟩
  rcases membersText_list lists.reads.length blank_lineEnd
    (documented.propertyName propPropertyList)
    (show isPlain "property-list-size".toList from rfl) elements with ⟨text, list, members⟩
  rw [documented.propertyList] at members
  have document := ElementText.spaced blank_nil
    (.object (.more isIdentifier members)) blank_lineEnd
  refine ⟨identifier, ?_⟩
  rw [cmdList_eq, printed]
  simp only [List.append_assoc, List.cons_append, List.nil_append] at list document ⊢
  rw [list]
  exact document

/-- Without properties nothing closes the list. -/
theorem not_elementText_cmdList (rpdata : BacnetReadPropertyData) {lists : SpecialPropertyList}
    (none : lists.reads = []) (value : Json) :
    ¬ElementText (cmdList library rpdata lists) value := by
  rcases @memberText_identifierText _ library rpdata documented with ⟨identifier, isIdentifier⟩
  have rows : propertyListRows library lists = [] := by
    simp only [SpecialPropertyList.reads, List.append_eq_nil_iff] at none
    simp [propertyListRows, none.1, none.2.1, none.2.2]
  have plainSize : isPlain "property-list-size".toList := rfl
  have list := opens_list lists.reads.length (documented.propertyName propPropertyList)
    plainSize .nil
  have opened := (((list.cons '\n' rfl).append_scans isIdentifier.scans ',' rfl)).cons '\x7b' rfl
  rw [cmdList_eq, rows]
  exact opened.not_element (by decide)

/--
The list of properties is one JSON value exactly when there are any, and then it has all of
them in the order in which their values are read.
-/
theorem propertyList_printed (rpdata : BacnetReadPropertyData) (lists : SpecialPropertyList) :
    lists.reads ≠ [] ∧
        (∃ identifier, ElementText (cmdList library rpdata lists) (.object
          [identifier, ("property-list".toList, .array (propertyListElements library lists)),
            ("property-list-size".toList, .number (unsignedText lists.reads.length))])) ∨
      lists.reads = [] ∧ ∀ value, ¬ElementText (cmdList library rpdata lists) value := by
  by_cases nonempty : lists.reads = []
  · exact .inr ⟨nonempty, not_elementText_cmdList documented rpdata nonempty⟩
  · exact .inl ⟨nonempty, elementText_cmdList documented rpdata nonempty⟩

end Properties

/-- A property with a name, and one that only has its number. -/
theorem propertyList_printed_reference :
    ∃ identifier, ElementText
      (cmdList referenceProperties referenceRead (referenceLists (.success [])))
      (.object [identifier,
        ("property-list".toList, .array [.string "present-value".toList, .string "117".toList]),
        ("property-list-size".toList, .number "2".toList)]) := by
  rcases propertyList_printed documented_referenceProperties referenceRead
    (referenceLists (.success [])) with ⟨_, document⟩ | ⟨none, _⟩
  · exact document
  · cases none

end BacnetZephyr
