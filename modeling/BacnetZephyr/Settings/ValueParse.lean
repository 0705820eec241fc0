import BacnetZephyr.Foundation.Numeral
import BacnetZephyr.Foundation.Scanf
import BacnetZephyr.Settings.Restore

/-!
# Values given as text

`bacnet_settings_value_parse` turns a text into a value with the tag that the value has
before. Words are looked for first, whatever the tag: they give a value of another type.
Numbers are converted with `strtoul` and `strtol` and narrowed to the field of the value.

`typeKept_iff` says which texts keep the type, `numericExact_iff` which numerals are
stored as the integer they denote. The branch for object identifiers never succeeds.
-/

namespace BacnetZephyr

open CLib NamedStore

/-- The texts are equal except for the case of ASCII letters. -/
def EqualIgnoringCase (left right : CString) : Prop :=
  left.map Char.toLower = right.map Char.toLower

instance (left right : CString) : Decidable (EqualIgnoringCase left right) :=
  inferInstanceAs (Decidable (_ = _))

/-- `BACNET_APPLICATION_TAG_NULL`, and so on. -/
def tagNull : UInt8 := 0
def tagBoolean : UInt8 := 1
def tagUnsignedInt : UInt8 := 2
def tagSignedInt : UInt8 := 3
def tagReal : UInt8 := 4
def tagOctetString : UInt8 := 6
def tagCharacterString : UInt8 := 7
def tagBitString : UInt8 := 8
def tagEnumerated : UInt8 := 9
def tagDate : UInt8 := 10
def tagTime : UInt8 := 11
def tagObjectId : UInt8 := 12

/-- The types of the BACnet library that the parser fills in without looking at them. -/
structure ValueTypes where
  Real : Type
  BitString : Type
  OctetString : Type
  CharacterString : Type
  Date : Type
  Time : Type
  /-- What the union holds otherwise. -/
  Other : Type

/-- The union of a `BACNET_APPLICATION_DATA_VALUE`, by the member written last. -/
inductive ValueType (types : ValueTypes) where
  | boolean (value : Bool)
  | unsignedInt (value : UInt64)
  | signedInt (value : Int32)
  | real (value : types.Real)
  | octetString (value : types.OctetString)
  | characterString (value : types.CharacterString)
  | bitString (value : types.BitString)
  | enumerated (value : UInt32)
  | date (value : types.Date)
  | time (value : types.Time)
  | objectId (objectType : UInt16) (objectInstance : UInt32)
  | other (value : types.Other)

/-- `BACNET_APPLICATION_DATA_VALUE` with the tag apart from the union, since both may change. -/
structure ApplicationDataValue (types : ValueTypes) where
  tag : UInt8
  type : ValueType types

/-- What the parser takes from the BACnet library. -/
structure ValueLibrary extends ValueTypes where
  lists : PropertyLists
  /-- `bacnet_stricmp(left, right)`. -/
  stricmp : CString → CString → Int
  /-- `bacnet_strnicmp(left, right, length)`. -/
  strnicmp : CString → CString → ℕ → Int
  /-- `bactext_object_property_strtoul(object_type, property, text, &found)`. -/
  objectPropertyStrtoul : UInt32 → UInt32 → CString → Option UInt32
  /-- `strtof(text, &end)`: the value, and the text `end` points at. -/
  strtof : CString → Real × CString
  /-- The value is an infinity. -/
  isInfinite : Real → Bool
  bitstringInitAscii : CString → Bool × BitString
  octetstringInitAsciiHex : CString → Bool × OctetString
  characterstringInitAnsi : CString → Bool × CharacterString
  datetimeDateInitAscii : CString → Bool × Date
  datetimeTimeInitAscii : CString → Bool × Time
  /-- `MAX_CHARACTER_STRING_BYTES`. -/
  capacity : ℕ
  /-- The C string a character string holds. -/
  text : CharacterString → CString
  stricmp_eq_zero : ∀ left right, stricmp left right = 0 ↔ EqualIgnoringCase left right
  strnicmp_eq_zero : ∀ left right length, strnicmp left right length = 0 ↔
    EqualIgnoringCase (left.take length) (right.take length)
  characterstringInitAnsi_fits : ∀ cstring, cstring.length ≤ capacity →
    (characterstringInitAnsi cstring).1 = true ∧ text (characterstringInitAnsi cstring).2 = cstring

/-- `bacnet_storage_strtol`, as for `bacnet_storage_strtoul`. -/
def bacnetStorageStrtol (platform : StoragePlatform) (searchName : CString) : Option ℤ :=
  let (value, endptr) := strtol platform.ulongBits searchName
  if endptr.length = searchName.length then none
  else if value = longMax platform.ulongBits ∨ value = longMin platform.ulongBits then none
  else if endptr ≠ [] then none
  else some value

section Definitions

variable (platform : StoragePlatform) (library : ValueLibrary)

/-- `bacnet_storage_strtof`. No value equals `NAN`, so that comparison excludes none. -/
def bacnetStorageStrtof (searchName : CString) : Option library.Real :=
  let (value, endptr) := library.strtof searchName
  if endptr.length = searchName.length then none
  else if library.isInfinite value then none
  else if endptr ≠ [] then none
  else some value

/-- `sscanf(text, "%4u:%7u", &type, &instance)`, if it converts both. -/
def objectIdScan (text : CString) : Option (ℕ × ℕ) :=
  match convertBounded 32 4 text with
  | some (objectIdType, ':' :: rest) =>
      match convertBounded 32 7 rest with
      | some (objectIdInstance, _) => some (objectIdType, objectIdInstance)
      | none => none
  | _ => none

/-- The words that are looked for before the tag: the value they give, if there is one. -/
def keywordValue (objectType : UInt16) (propertyId : UInt32) (valueString : CString)
    (value : ApplicationDataValue library.toValueTypes) :
    Option (ApplicationDataValue library.toValueTypes) :=
  if valueString.head?.any Char.isAlpha then
    if library.lists.commandableMember objectType.toUInt32 propertyId ∧
        library.strnicmp valueString "NULL".toList 4 = 0 then
      some { value with tag := tagNull }
    else if library.stricmp valueString "true".toList = 0 then
      some { tag := tagBoolean, type := .boolean true }
    else if library.stricmp valueString "false".toList = 0 then
      some { tag := tagBoolean, type := .boolean false }
    else
      match library.objectPropertyStrtoul objectType.toUInt32 propertyId valueString with
      | some enumeratedValue =>
          some { tag := tagEnumerated, type := .enumerated enumeratedValue }
      | none => none
  else none

/-- The conversion to the type that the tag names: the union, if it succeeds. -/
def taggedValue (tag : UInt8) (valueString : CString)
    (type : ValueType library.toValueTypes) : Bool × ValueType library.toValueTypes :=
  if tag = tagEnumerated then
    match bacnetStorageStrtoul platform valueString with
    | some unsignedValue => (true, .enumerated (UInt32.ofNat unsignedValue))
    | none => (false, type)
  else if tag = tagUnsignedInt then
    match bacnetStorageStrtoul platform valueString with
    | some unsignedValue => (true, .unsignedInt (UInt32.ofNat unsignedValue).toUInt64)
    | none => (false, type)
  else if tag = tagSignedInt then
    match bacnetStorageStrtol platform valueString with
    | some signedValue => (true, .signedInt (Int32.ofInt signedValue))
    | none => (false, type)
  else if tag = tagReal then
    match bacnetStorageStrtof library valueString with
    | some realValue => (true, .real realValue)
    | none => (false, type)
  else if tag = tagBitString then
    let (status, bitString) := library.bitstringInitAscii valueString
    (status, .bitString bitString)
  else if tag = tagOctetString then
    let (status, octetString) := library.octetstringInitAsciiHex valueString
    (status, .octetString octetString)
  else if tag = tagCharacterString then
    let (status, characterString) := library.characterstringInitAnsi valueString
    (status, .characterString characterString)
  else if tag = tagDate then
    let (status, date) := library.datetimeDateInitAscii valueString
    (status, .date date)
  else if tag = tagTime then
    let (status, time) := library.datetimeTimeInitAscii valueString
    (status, .time time)
  else if tag = tagObjectId then
    match objectIdScan valueString with
    -- the status stays false
    | some (objectIdType, objectIdInstance) =>
        (false, .objectId (UInt16.ofNat objectIdType) (UInt32.ofNat objectIdInstance))
    | none => (false, type)
  else (false, type)

/-- `bacnet_settings_value_parse` into a value: the status, and the value after it. -/
def bacnetSettingsValueParse (valueString : Option CString) (objectType : UInt16)
    (propertyId : UInt32) (value : ApplicationDataValue library.toValueTypes) :
    Bool × ApplicationDataValue library.toValueTypes :=
  match valueString with
  | none => (false, value)
  | some valueString =>
      match keywordValue library objectType propertyId valueString value with
      | some keyword => (true, keyword)
      | none =>
          let (status, type) := taggedValue platform library value.tag valueString value.type
          (status, { value with type })

end Definitions

/--
A library for the values of the examples: real numbers are integers, dates and times are
refused, and the present values of binary objects have names.
-/
def ValueLibrary.reference : ValueLibrary where
  Real := ℤ
  BitString := List Bool
  OctetString := CString
  CharacterString := CString
  Date := Unit
  Time := Unit
  Other := Unit
  lists := PropertyLists.reference
  stricmp := fun left right => if EqualIgnoringCase left right then 0 else 1
  strnicmp := fun left right length =>
    if EqualIgnoringCase (left.take length) (right.take length) then 0 else 1
  objectPropertyStrtoul := fun objectType objectProperty text =>
    if objectType ∈ [3, 4, 5] ∧ objectProperty = propPresentValue then
      if EqualIgnoringCase text "inactive".toList then some 0
      else if EqualIgnoringCase text "active".toList then some 1
      else none
    else none
  strtof := strtol 32
  isInfinite := fun _ => false
  bitstringInitAscii := fun text =>
    (text.all fun character => character = '0' ∨ character = '1', text.map (· = '1'))
  octetstringInitAsciiHex := fun text => (text.all (isDigitOf 16), text)
  characterstringInitAnsi := fun text => (text.length ≤ 475, text)
  datetimeDateInitAscii := fun _ => (false, ())
  datetimeTimeInitAscii := fun _ => (false, ())
  capacity := 475
  text := id
  stricmp_eq_zero := by simp
  strnicmp_eq_zero := by simp
  characterstringInitAnsi_fits := by simp

/-! ## The type of the value -/

section TypeKept

variable {platform : StoragePlatform} {library : ValueLibrary} {objectType : UInt16}
  {propertyId : UInt32} {text : CString} {value : ApplicationDataValue library.toValueTypes}

/-- The setting has one of the types whose text is not a word. -/
def parsedTags : List UInt8 :=
  [tagCharacterString, tagOctetString, tagBitString, tagDate, tagTime, tagObjectId, tagReal,
    tagSignedInt, tagUnsignedInt]

/--
A value that is parsed keeps its tag, except that `NULL` relinquishes a commandable
property. A character string takes every text that fits.
-/
structure TypeKept (platform : StoragePlatform) (library : ValueLibrary) (objectType : UInt16)
    (propertyId : UInt32) (text : CString)
    (value : ApplicationDataValue library.toValueTypes) : Prop where
  kept : ∀ result,
    bacnetSettingsValueParse platform library (some text) objectType propertyId value =
      (true, result) →
    result.tag =
      if library.lists.commandableMember objectType.toUInt32 propertyId ∧
        EqualIgnoringCase text "NULL".toList then tagNull else value.tag
  accepted : value.tag = tagCharacterString →
    library.lists.commandableMember objectType.toUInt32 propertyId = false →
    text.length ≤ library.capacity →
    ∃ string, library.text string = text ∧
      bacnetSettingsValueParse platform library (some text) objectType propertyId value =
        (true, { tag := tagCharacterString, type := .characterString string })

/--
The text is not a word that is looked for before the tag, except for `NULL`: of the texts
that start with a letter, those that begin with `NULL` for a commandable property, and
`true`, `false` and the names that the property gives to values otherwise.
-/
def KeywordFree (library : ValueLibrary) (objectType : UInt16) (propertyId : UInt32)
    (text : CString) : Prop :=
  text.head?.any Char.isAlpha = true →
    if library.lists.commandableMember objectType.toUInt32 propertyId ∧
        EqualIgnoringCase (text.take 4) "NULL".toList then
      EqualIgnoringCase text "NULL".toList
    else
      ¬EqualIgnoringCase text "true".toList ∧ ¬EqualIgnoringCase text "false".toList ∧
        library.objectPropertyStrtoul objectType.toUInt32 propertyId text = none

theorem EqualIgnoringCase.head {text word : CString} (equal : EqualIgnoringCase text word)
    (letter : (word.map Char.toLower).head?.any Char.isAlpha) : text.head?.any Char.isAlpha := by
  cases word with
  | nil => cases letter
  | cons first rest =>
      cases text with
      | nil => cases equal
      | cons character others =>
          have same : character.toLower = first.toLower := (List.cons.inj equal).1
          apply isAlpha_of_toLower
          rw [same]
          exact letter

theorem EqualIgnoringCase.take {text word : CString} (equal : EqualIgnoringCase text word)
    (length : ℕ) : EqualIgnoringCase (text.take length) (word.take length) := by
  rw [EqualIgnoringCase, List.map_take, List.map_take, equal]

/-- What the words do: nothing, or one of the three types that are looked for. -/
inductive KeywordCase (library : ValueLibrary) (objectType : UInt16) (propertyId : UInt32)
    (text : CString) (value : ApplicationDataValue library.toValueTypes) :
    Option (ApplicationDataValue library.toValueTypes) → Prop where
  | relinquish (letter : text.head?.any Char.isAlpha = true)
      (commandable : library.lists.commandableMember objectType.toUInt32 propertyId = true)
      (null : EqualIgnoringCase (text.take 4) "NULL".toList) :
      KeywordCase library objectType propertyId text value (some { value with tag := tagNull })
  | boolean (letter : text.head?.any Char.isAlpha = true)
      (notNull : ¬(library.lists.commandableMember objectType.toUInt32 propertyId = true ∧
        EqualIgnoringCase (text.take 4) "NULL".toList)) (status : Bool)
      (word : EqualIgnoringCase text (if status then "true" else "false").toList) :
      KeywordCase library objectType propertyId text value
        (some { tag := tagBoolean, type := .boolean status })
  | named (letter : text.head?.any Char.isAlpha = true)
      (notNull : ¬(library.lists.commandableMember objectType.toUInt32 propertyId = true ∧
        EqualIgnoringCase (text.take 4) "NULL".toList))
      (notTrue : ¬EqualIgnoringCase text "true".toList)
      (notFalse : ¬EqualIgnoringCase text "false".toList) (found : UInt32)
      (name : library.objectPropertyStrtoul objectType.toUInt32 propertyId text = some found) :
      KeywordCase library objectType propertyId text value
        (some { tag := tagEnumerated, type := .enumerated found })
  | none (free : text.head?.any Char.isAlpha = true →
        ¬(library.lists.commandableMember objectType.toUInt32 propertyId = true ∧
          EqualIgnoringCase (text.take 4) "NULL".toList) ∧
        ¬EqualIgnoringCase text "true".toList ∧ ¬EqualIgnoringCase text "false".toList ∧
        library.objectPropertyStrtoul objectType.toUInt32 propertyId text = .none) :
      KeywordCase library objectType propertyId text value .none

theorem keywordValue_cases (library : ValueLibrary) (objectType : UInt16) (propertyId : UInt32)
    (text : CString) (value : ApplicationDataValue library.toValueTypes) :
    KeywordCase library objectType propertyId text value
      (keywordValue library objectType propertyId text value) := by
  have four : ("NULL".toList).take 4 = "NULL".toList := rfl
  simp only [keywordValue, library.stricmp_eq_zero, library.strnicmp_eq_zero, four]
  split
  · rename_i letter
    split
    · rename_i null
      exact .relinquish letter null.1 null.2
    · rename_i notNull
      split
      · rename_i word
        exact .boolean letter notNull true word
      · rename_i notTrue
        split
        · rename_i word
          exact .boolean letter notNull false word
        · rename_i notFalse
          split
          · rename_i found name
            exact .named letter notNull notTrue notFalse found name
          · rename_i unnamed
            exact .none fun _ => ⟨notNull, notTrue, notFalse, unnamed⟩
  · rename_i noLetter
    exact .none fun letter => absurd letter noLetter

theorem bacnetSettingsValueParse_eq (platform : StoragePlatform) (library : ValueLibrary)
    (text : CString) (objectType : UInt16) (propertyId : UInt32)
    (value : ApplicationDataValue library.toValueTypes) :
    bacnetSettingsValueParse platform library (some text) objectType propertyId value =
      match keywordValue library objectType propertyId text value with
      | some keyword => (true, keyword)
      | none =>
          ((taggedValue platform library value.tag text value.type).1,
            { value with type := (taggedValue platform library value.tag text value.type).2 }) :=
  rfl

theorem taggedValue_characterString (platform : StoragePlatform) (text : CString)
    (type : ValueType library.toValueTypes) :
    taggedValue platform library tagCharacterString text type =
      ((library.characterstringInitAnsi text).1,
        .characterString (library.characterstringInitAnsi text).2) := rfl

/-- A word of another type changes the tag of the value. -/
theorem not_typeKept_of_keyword
    (parsed : value.tag ∈ parsedTags) {keyword : ApplicationDataValue library.toValueTypes}
    (shortcut : keywordValue library objectType propertyId text value = some keyword)
    (other : keyword.tag ∉ parsedTags)
    (notNull : ¬(library.lists.commandableMember objectType.toUInt32 propertyId = true ∧
      EqualIgnoringCase text "NULL".toList)) :
    ¬TypeKept platform library objectType propertyId text value := by
  intro typeKept
  have kept := typeKept.kept keyword (by rw [bacnetSettingsValueParse_eq, shortcut])
  rw [if_neg notNull] at kept
  apply other
  rw [kept]
  exact parsed

/-- The type is kept exactly when the text is none of the words that change it. -/
theorem typeKept_iff (platform : StoragePlatform) (library : ValueLibrary) (objectType : UInt16)
    (propertyId : UInt32) (text : CString) {value : ApplicationDataValue library.toValueTypes}
    (parsed : value.tag ∈ parsedTags) :
    TypeKept platform library objectType propertyId text value ↔
      KeywordFree library objectType propertyId text := by
  have words := keywordValue_cases library objectType propertyId text value
  rcases shortcut : keywordValue library objectType propertyId text value with _ | keyword
  · rw [shortcut] at words
    cases words with
    | none free =>
        have notNull : ¬(library.lists.commandableMember objectType.toUInt32 propertyId = true ∧
            EqualIgnoringCase text "NULL".toList) := by
          rintro ⟨commandable, null⟩
          exact (free (null.head rfl)).1 ⟨commandable, null.take 4⟩
        apply iff_of_true
        · refine ⟨?_, ?_⟩
          · intro result succeeds
            rw [bacnetSettingsValueParse_eq, shortcut] at succeeds
            rw [if_neg notNull, ← (Prod.mk.inj succeeds).2]
          · intro character _ fits
            have ⟨accepted, same⟩ := library.characterstringInitAnsi_fits text fits
            refine ⟨_, same, ?_⟩
            rw [bacnetSettingsValueParse_eq, shortcut, character]
            rw [taggedValue_characterString]
            simp only [accepted]
        · intro letter
          rw [if_neg (free letter).1]
          exact (free letter).2
  · rw [shortcut] at words
    cases words with
    | relinquish letter commandable null =>
        constructor
        · intro typeKept _
          rw [if_pos ⟨commandable, null⟩]
          rcases Decidable.em (EqualIgnoringCase text "NULL".toList) with whole | longer
          · exact whole
          · exact absurd typeKept (not_typeKept_of_keyword parsed shortcut
              (show tagNull ∉ parsedTags by decide) fun both => longer both.2)
        · intro free
          have whole := free letter
          rw [if_pos ⟨commandable, null⟩] at whole
          refine ⟨?_, ?_⟩
          · intro result succeeds
            rw [bacnetSettingsValueParse_eq, shortcut] at succeeds
            rw [if_pos ⟨commandable, whole⟩, ← (Prod.mk.inj succeeds).2]
          · intro _ uncommandable
            rw [commandable] at uncommandable
            cases uncommandable
    | boolean letter notNull status word =>
        apply iff_of_false
        · exact not_typeKept_of_keyword parsed shortcut (show tagBoolean ∉ parsedTags by decide)
            fun both => notNull ⟨both.1, both.2.take 4⟩
        · intro free
          have noWord := free letter
          rw [if_neg notNull] at noWord
          cases status with
          | true => exact noWord.1 word
          | false => exact noWord.2.1 word
    | named letter notNull notTrue notFalse found name =>
        apply iff_of_false
        · exact not_typeKept_of_keyword parsed shortcut (show tagEnumerated ∉ parsedTags by decide)
            fun both => notNull ⟨both.1, both.2.take 4⟩
        · intro free
          have noWord := free letter
          rw [if_neg notNull, name] at noWord
          cases noWord.2.2

end TypeKept

/-- A character string that is no word. -/
theorem typeKept_iff_name :
    let value : ApplicationDataValue ValueLibrary.reference.toValueTypes :=
      { tag := tagCharacterString, type := .other () }
    TypeKept (StoragePlatform.reference bacnetSettingsBaseName) ValueLibrary.reference 8 77
        "lobby".toList value ↔
      KeywordFree ValueLibrary.reference 8 77 "lobby".toList := by
  intro value
  exact typeKept_iff _ ValueLibrary.reference 8 77 "lobby".toList (by decide)

/-- A device named `True` is stored as a boolean. -/
theorem not_typeKept_true :
    let value : ApplicationDataValue ValueLibrary.reference.toValueTypes :=
      { tag := tagCharacterString, type := .other () }
    bacnetSettingsValueParse (StoragePlatform.reference bacnetSettingsBaseName)
        ValueLibrary.reference (some "True".toList) 8 77 value =
      (true, { tag := tagBoolean, type := .boolean true }) ∧
    ¬TypeKept (StoragePlatform.reference bacnetSettingsBaseName) ValueLibrary.reference 8 77
      "True".toList value := by
  intro value
  have parse : bacnetSettingsValueParse (StoragePlatform.reference bacnetSettingsBaseName)
      ValueLibrary.reference (some "True".toList) 8 77 value =
        (true, { tag := tagBoolean, type := .boolean true }) := rfl
  refine ⟨parse, ?_⟩
  intro typeKept
  exact absurd (typeKept.kept _ parse) (by decide)

/-! ## The numbers -/

section Numbers

variable {platform : StoragePlatform} {library : ValueLibrary} {objectType : UInt16}
  {propertyId : UInt32} {text : CString} {value : ApplicationDataValue library.toValueTypes}

/--
The checks after a conversion: there are digits, the value is inside, the text is used up.
They accept the numbers inside that the whole text is converted to.
-/
theorem checked_eq_some_iff {α : Type} {empty : Prop} {outside : α → Prop} [Decidable empty]
    [DecidablePred outside] {left : CString} {converted number : α} {convert : ℤ → α}
    (whole : (¬empty ∧ left = [] ∧ converted = number) ↔
      ∃ denoted, numeral text = some denoted ∧ convert denoted = number) :
    (if empty then none else if outside converted then none else if left ≠ [] then none
        else some converted) = some number ↔
      ∃ denoted, numeral text = some denoted ∧ convert denoted = number ∧ ¬outside number := by
  constructor
  · intro accepted
    split at accepted
    · cases accepted
    · rename_i digits
      split at accepted
      · cases accepted
      · rename_i inside
        split at accepted
        · cases accepted
        · rename_i complete
          cases accepted
          rcases whole.mp ⟨digits, not_not.mp complete, rfl⟩ with ⟨denoted, denotes, same⟩
          exact ⟨denoted, denotes, same, inside⟩
  · rintro ⟨denoted, denotes, same, inside⟩
    rcases whole.mpr ⟨denoted, denotes, same⟩ with ⟨digits, complete, rfl⟩
    rw [if_neg digits, if_neg inside, if_neg (not_not.mpr complete)]

theorem bacnetStorageStrtoul_eq_some_iff {number : ℕ} :
    bacnetStorageStrtoul platform text = some number ↔
      ∃ denoted, numeral text = some denoted ∧ toUlong platform.ulongBits denoted = number ∧
        number ≠ ulongMax platform.ulongBits :=
  @checked_eq_some_iff text ℕ _ (· = ulongMax platform.ulongBits) _ _ _ _ _ _ strtoul_whole_iff

theorem bacnetStorageStrtol_eq_some_iff {number : ℤ} :
    bacnetStorageStrtol platform text = some number ↔
      ∃ denoted, numeral text = some denoted ∧ toLong platform.ulongBits denoted = number ∧
        ¬(number = longMax platform.ulongBits ∨ number = longMin platform.ulongBits) :=
  @checked_eq_some_iff text ℤ _
    (fun number => number = longMax platform.ulongBits ∨ number = longMin platform.ulongBits)
    _ _ _ _ _ _ strtol_whole_iff

/-- Neither outside the range of `strtoul` nor converted to the value that reports this. -/
def UlongAccepts (bits : ℕ) (number : ℤ) : Prop :=
  -2 ^ bits < number ∧ number < 2 ^ bits - 1 ∧ number ≠ -1

/-- The same for `strtol`. -/
def LongAccepts (bits : ℕ) (number : ℤ) : Prop :=
  longMin bits < number ∧ number < longMax bits

theorem toUlong_ne_ulongMax_iff (platform : StoragePlatform) (number : ℤ) :
    toUlong platform.ulongBits number ≠ ulongMax platform.ulongBits ↔
      UlongAccepts platform.ulongBits number := by
  rw [UlongAccepts]
  by_cases saturated : ulongMax platform.ulongBits < number.natAbs
  · rw [toUlong, if_pos saturated]
    rcases platform.ulongBits_range with bits | bits
    · simp only [bits, ulongMax] at saturated ⊢
      omega
    · simp only [bits, ulongMax] at saturated ⊢
      omega
  · rw [toUlong, if_neg saturated]
    rcases platform.ulongBits_range with bits | bits
    · simp only [bits, ulongMax] at saturated ⊢
      omega
    · simp only [bits, ulongMax] at saturated ⊢
      omega

theorem toUlong_of_range (platform : StoragePlatform) {number : ℤ} (nonneg : 0 ≤ number)
    (below : number < 2 ^ 32) : (toUlong platform.ulongBits number : ℤ) = number := by
  rcases platform.ulongBits_range with bits | bits
  · rw [toUlong, bits, if_neg (by simp only [ulongMax]; omega)]
    omega
  · rw [toUlong, bits, if_neg (by simp only [ulongMax]; omega)]
    omega

theorem toLong_accepted_iff (platform : StoragePlatform) (number : ℤ) :
    ¬(toLong platform.ulongBits number = longMax platform.ulongBits ∨
        toLong platform.ulongBits number = longMin platform.ulongBits) ↔
      LongAccepts platform.ulongBits number := by
  have order : longMin platform.ulongBits ≤ longMax platform.ulongBits := by
    rcases platform.ulongBits_range with bits | bits
    · rw [bits]
      decide
    · rw [bits]
      decide
  rw [LongAccepts]
  by_cases large : longMax platform.ulongBits < number
  · rw [toLong, if_pos large]
    omega
  · by_cases small : number < longMin platform.ulongBits
    · rw [toLong, if_neg large, if_pos small]
      omega
    · rw [toLong, if_neg large, if_neg small]
      omega

theorem toLong_of_accepted {bits : ℕ} {number : ℤ} (accepted : LongAccepts bits number) :
    toLong bits number = number := by
  rw [toLong, if_neg (Int.not_lt.mpr (Int.le_of_lt accepted.2)),
    if_neg (Int.not_lt.mpr (Int.le_of_lt accepted.1))]

/-- Narrowing what `strtoul` converts is exact when no accepted numeral is outside 32 bits. -/
theorem strtoul_exact_iff (platform : StoragePlatform) (text : CString) :
    (∀ number, bacnetStorageStrtoul platform text = some number →
        numeral text = some ((UInt32.ofNat number).toNat : ℤ)) ↔
      ∀ number, numeral text = some number → UlongAccepts platform.ulongBits number →
        0 ≤ number ∧ number < 2 ^ 32 := by
  constructor
  · intro exactly number denotes accepted
    have converted := bacnetStorageStrtoul_eq_some_iff.mpr
      ⟨number, denotes, rfl, (toUlong_ne_ulongMax_iff platform number).mpr accepted⟩
    have stored := exactly _ converted
    rw [denotes, Option.some.injEq] at stored
    have range := (UInt32.ofNat (toUlong platform.ulongBits number)).toNat_lt
    omega
  · intro fits number converted
    rcases bacnetStorageStrtoul_eq_some_iff.mp converted with ⟨denoted, denotes, rfl, inside⟩
    have ⟨nonneg, below⟩ :=
      fits denoted denotes ((toUlong_ne_ulongMax_iff platform denoted).mp inside)
    have same := toUlong_of_range platform nonneg below
    rw [denotes, UInt32.toNat_ofNat', Option.some.injEq, Nat.mod_eq_of_lt (by omega), same]

theorem strtol_exact_iff (platform : StoragePlatform) (text : CString) :
    (∀ number, bacnetStorageStrtol platform text = some number →
        numeral text = some (Int32.ofInt number).toInt) ↔
      ∀ number, numeral text = some number → LongAccepts platform.ulongBits number →
        -2 ^ 31 ≤ number ∧ number < 2 ^ 31 := by
  constructor
  · intro exactly number denotes accepted
    have converted := bacnetStorageStrtol_eq_some_iff.mpr
      ⟨number, denotes, rfl, (toLong_accepted_iff platform number).mpr accepted⟩
    have stored := exactly _ converted
    rw [denotes, Option.some.injEq] at stored
    have least := (Int32.ofInt (toLong platform.ulongBits number)).le_toInt
    have below := (Int32.ofInt (toLong platform.ulongBits number)).toInt_lt
    omega
  · intro fits number converted
    rcases bacnetStorageStrtol_eq_some_iff.mp converted with ⟨denoted, denotes, rfl, inside⟩
    have accepted := (toLong_accepted_iff platform denoted).mp inside
    have ⟨least, below⟩ := fits denoted denotes accepted
    rw [toLong_of_accepted accepted, Int32.toInt_ofInt_of_le least below, denotes]

theorem numeral_of_isAlpha {text : CString} (letter : text.head?.any Char.isAlpha = true) :
    numeral text = none := by
  cases text with
  | nil => cases letter
  | cons first rest =>
      change first.isAlpha = true at letter
      have notZero : (first :: rest).head? ≠ some '0' := by
        rw [List.head?_cons, ne_eq, Option.some.injEq]
        rintro rfl
        exact absurd letter (by decide)
      have start : numeralStart (first :: rest) = (false, 10, first :: rest) := by
        simp only [numeralStart, dropWhile_isSpace_of_isAlpha letter, splitSign_of_isAlpha letter,
          detectBase_of_head?_ne_zero notZero]
      simp [numeral, start, isDigitOf_ten_of_isAlpha letter]

/--
A number is the integer that the text denotes, which is in the range of its field; an
object identifier is the pair that the text consists of.
-/
structure StoresExactly {types : ValueTypes} (text : CString)
    (result : ApplicationDataValue types) : Prop where
  unsignedInt : result.tag = tagUnsignedInt → ∃ stored : UInt64,
    result.type = .unsignedInt stored ∧ numeral text = some (stored.toNat : ℤ) ∧
      stored.toNat < 2 ^ 32
  enumerated : result.tag = tagEnumerated → ∃ stored : UInt32,
    result.type = .enumerated stored ∧ numeral text = some (stored.toNat : ℤ)
  signedInt : result.tag = tagSignedInt → ∃ stored : Int32,
    result.type = .signedInt stored ∧ numeral text = some stored.toInt
  objectId : result.tag = tagObjectId → ∃ (objectType : UInt16) (objectInstance : UInt32),
    result.type = .objectId objectType objectInstance ∧
      text = unsignedText objectType.toNat ++ ':' :: unsignedText objectInstance.toNat ∧
      objectType.toNat ≤ 1023 ∧ objectInstance.toNat ≤ 4194303

def NumericExact (platform : StoragePlatform) (library : ValueLibrary) (objectType : UInt16)
    (propertyId : UInt32) (text : CString) (value : ApplicationDataValue library.toValueTypes) :
    Prop :=
  ∀ result,
    bacnetSettingsValueParse platform library (some text) objectType propertyId value =
      (true, result) → StoresExactly text result

/-- The text is looked up as the name of an enumerated value, and found. -/
def NamesEnumerated (library : ValueLibrary) (objectType : UInt16) (propertyId : UInt32)
    (text : CString) : Prop :=
  text.head?.any Char.isAlpha = true ∧
    ¬(library.lists.commandableMember objectType.toUInt32 propertyId ∧
      EqualIgnoringCase (text.take 4) "NULL".toList) ∧
    ¬EqualIgnoringCase text "true".toList ∧ ¬EqualIgnoringCase text "false".toList ∧
    (library.objectPropertyStrtoul objectType.toUInt32 propertyId text).isSome

/-- A numeral that the conversion for the tag accepts is in the range of the field. -/
def NumeralFits (platform : StoragePlatform) (tag : UInt8) (text : CString) : Prop :=
  ∀ number, numeral text = some number →
    if tag = tagUnsignedInt ∨ tag = tagEnumerated then
      UlongAccepts platform.ulongBits number → 0 ≤ number ∧ number < 2 ^ 32
    else if tag = tagSignedInt then
      LongAccepts platform.ulongBits number → -2 ^ 31 ≤ number ∧ number < 2 ^ 31
    else True

variable {types : ValueTypes}

theorem storesExactly_unsignedInt_iff {stored : UInt32} :
    StoresExactly text ({ tag := tagUnsignedInt, type := .unsignedInt stored.toUInt64 } :
      ApplicationDataValue types) ↔ numeral text = some (stored.toNat : ℤ) := by
  constructor
  · intro exactly
    rcases exactly.unsignedInt rfl with ⟨held, same, denotes, _⟩
    cases same
    exact denotes
  · intro denotes
    exact
      { unsignedInt := fun _ => ⟨_, rfl, denotes, stored.toNat_lt⟩
        enumerated := fun other => absurd other (show tagUnsignedInt ≠ tagEnumerated by decide)
        signedInt := fun other => absurd other (show tagUnsignedInt ≠ tagSignedInt by decide)
        objectId := fun other => absurd other (show tagUnsignedInt ≠ tagObjectId by decide) }

theorem storesExactly_enumerated_iff {stored : UInt32} :
    StoresExactly text ({ tag := tagEnumerated, type := .enumerated stored } :
      ApplicationDataValue types) ↔ numeral text = some (stored.toNat : ℤ) := by
  constructor
  · intro exactly
    rcases exactly.enumerated rfl with ⟨held, same, denotes⟩
    cases same
    exact denotes
  · intro denotes
    exact
      { unsignedInt := fun other => absurd other (show tagEnumerated ≠ tagUnsignedInt by decide)
        enumerated := fun _ => ⟨_, rfl, denotes⟩
        signedInt := fun other => absurd other (show tagEnumerated ≠ tagSignedInt by decide)
        objectId := fun other => absurd other (show tagEnumerated ≠ tagObjectId by decide) }

theorem storesExactly_signedInt_iff {stored : Int32} :
    StoresExactly text ({ tag := tagSignedInt, type := .signedInt stored } :
      ApplicationDataValue types) ↔ numeral text = some stored.toInt := by
  constructor
  · intro exactly
    rcases exactly.signedInt rfl with ⟨held, same, denotes⟩
    cases same
    exact denotes
  · intro denotes
    exact
      { unsignedInt := fun other => absurd other (show tagSignedInt ≠ tagUnsignedInt by decide)
        enumerated := fun other => absurd other (show tagSignedInt ≠ tagEnumerated by decide)
        signedInt := fun _ => ⟨_, rfl, denotes⟩
        objectId := fun other => absurd other (show tagSignedInt ≠ tagObjectId by decide) }

/-- Nothing is said about values of the other types. -/
theorem storesExactly_of_other {result : ApplicationDataValue types}
    (other : result.tag ∉ [tagUnsignedInt, tagEnumerated, tagSignedInt, tagObjectId]) :
    StoresExactly text result := by
  simp only [List.mem_cons, List.not_mem_nil, or_false, not_or] at other
  exact
    { unsignedInt := fun same => absurd same other.1
      enumerated := fun same => absurd same other.2.1
      signedInt := fun same => absurd same other.2.2.1
      objectId := fun same => absurd same other.2.2.2 }

/-- The branch for object identifiers leaves the status false. -/
theorem taggedValue_objectId_status (platform : StoragePlatform) (library : ValueLibrary)
    (text : CString) (type : ValueType library.toValueTypes) :
    (taggedValue platform library tagObjectId text type).1 = false := by
  change (match objectIdScan text with
    | some (objectIdType, objectIdInstance) =>
        (false, ValueType.objectId (UInt16.ofNat objectIdType) (UInt32.ofNat objectIdInstance))
    | none => (false, type)).1 = false
  split
  · rfl
  · rfl

theorem taggedValue_enumerated_iff {type stored : ValueType library.toValueTypes} :
    taggedValue platform library tagEnumerated text type = (true, stored) ↔
      ∃ number, bacnetStorageStrtoul platform text = some number ∧
        .enumerated (UInt32.ofNat number) = stored := by
  have branch : taggedValue platform library tagEnumerated text type =
      match bacnetStorageStrtoul platform text with
      | some unsignedValue => (true, .enumerated (UInt32.ofNat unsignedValue))
      | none => (false, type) := rfl
  rw [branch]
  cases bacnetStorageStrtoul platform text <;> simp

theorem taggedValue_unsignedInt_iff {type stored : ValueType library.toValueTypes} :
    taggedValue platform library tagUnsignedInt text type = (true, stored) ↔
      ∃ number, bacnetStorageStrtoul platform text = some number ∧
        .unsignedInt (UInt32.ofNat number).toUInt64 = stored := by
  have branch : taggedValue platform library tagUnsignedInt text type =
      match bacnetStorageStrtoul platform text with
      | some unsignedValue => (true, .unsignedInt (UInt32.ofNat unsignedValue).toUInt64)
      | none => (false, type) := rfl
  rw [branch]
  cases bacnetStorageStrtoul platform text <;> simp

theorem taggedValue_signedInt_iff {type stored : ValueType library.toValueTypes} :
    taggedValue platform library tagSignedInt text type = (true, stored) ↔
      ∃ number, bacnetStorageStrtol platform text = some number ∧
        .signedInt (Int32.ofInt number) = stored := by
  have branch : taggedValue platform library tagSignedInt text type =
      match bacnetStorageStrtol platform text with
      | some signedValue => (true, .signedInt (Int32.ofInt signedValue))
      | none => (false, type) := rfl
  rw [branch]
  cases bacnetStorageStrtol platform text <;> simp

theorem numericExact_iff_taggedValue
    (shortcut : keywordValue library objectType propertyId text value = none) :
    NumericExact platform library objectType propertyId text value ↔
      ∀ type, taggedValue platform library value.tag text value.type = (true, type) →
        StoresExactly text { value with type } := by
  rw [NumericExact, bacnetSettingsValueParse_eq, shortcut]
  constructor
  · intro exactly type succeeds
    apply exactly
    rw [succeeds]
  · intro exactly result succeeds
    rcases Prod.mk.inj succeeds with ⟨status, rfl⟩
    exact exactly _ (Prod.ext status rfl)

/-- Without a word, a number is exact exactly when an accepted numeral is in range. -/
theorem numericExact_iff_of_noKeyword
    (shortcut : keywordValue library objectType propertyId text value = none) :
    NumericExact platform library objectType propertyId text value ↔
      NumeralFits platform value.tag text := by
  rw [numericExact_iff_taggedValue shortcut, NumeralFits]
  rcases value with ⟨tag, type⟩
  simp only
  by_cases enumerated : tag = tagEnumerated
  · subst enumerated
    simp only [or_true, if_true, taggedValue_enumerated_iff, forall_exists_index, and_imp,
      forall_apply_eq_imp_iff₂, storesExactly_enumerated_iff]
    exact strtoul_exact_iff platform text
  · by_cases unsignedInt : tag = tagUnsignedInt
    · subst unsignedInt
      simp only [true_or, if_true, taggedValue_unsignedInt_iff, forall_exists_index, and_imp,
        forall_apply_eq_imp_iff₂, storesExactly_unsignedInt_iff]
      exact strtoul_exact_iff platform text
    · have notUnsigned : ¬(tag = tagUnsignedInt ∨ tag = tagEnumerated) := by
        rintro (same | same)
        · exact unsignedInt same
        · exact enumerated same
      simp only [notUnsigned, if_false]
      by_cases signedInt : tag = tagSignedInt
      · subst signedInt
        simp only [if_true, taggedValue_signedInt_iff, forall_exists_index, and_imp,
          forall_apply_eq_imp_iff₂, storesExactly_signedInt_iff]
        exact strtol_exact_iff platform text
      · apply iff_of_true
        · intro stored succeeds
          by_cases objectId : tag = tagObjectId
          · subst objectId
            have status := taggedValue_objectId_status platform library text type
            rw [succeeds] at status
            cases status
          · apply storesExactly_of_other
            simp [enumerated, unsignedInt, signedInt, objectId]
        · intro number _
          rw [if_neg signedInt]
          trivial

/--
Numbers are stored exactly or rejected exactly when the text is not the name of an
enumerated value and denotes no integer that the conversion accepts and the field cannot
hold.
-/
theorem numericExact_iff (platform : StoragePlatform) (library : ValueLibrary)
    (objectType : UInt16) (propertyId : UInt32) (text : CString)
    (value : ApplicationDataValue library.toValueTypes) :
    NumericExact platform library objectType propertyId text value ↔
      ¬NamesEnumerated library objectType propertyId text ∧
        NumeralFits platform value.tag text := by
  have words := keywordValue_cases library objectType propertyId text value
  -- a text that starts with a letter is not a numeral
  have noNumeral : text.head?.any Char.isAlpha = true → NumeralFits platform value.tag text := by
    intro letter number denotes
    rw [numeral_of_isAlpha letter] at denotes
    cases denotes
  rcases shortcut : keywordValue library objectType propertyId text value with _ | keyword
  · rw [shortcut] at words
    cases words with
    | none free =>
        rw [numericExact_iff_of_noKeyword shortcut]
        have unnamed : ¬NamesEnumerated library objectType propertyId text := by
          intro named
          have absent := (free named.1).2.2.2
          have present := named.2.2.2.2
          rw [absent] at present
          cases present
        exact ⟨fun fits => ⟨unnamed, fits⟩, fun both => both.2⟩
  · rw [shortcut] at words
    have parse : bacnetSettingsValueParse platform library (some text) objectType propertyId value =
        (true, keyword) := by
      rw [bacnetSettingsValueParse_eq, shortcut]
    have exactly_iff : NumericExact platform library objectType propertyId text value ↔
        StoresExactly text keyword := by
      rw [NumericExact, parse]
      constructor
      · exact fun exactly => exactly keyword rfl
      · intro exactly result same
        rw [← (Prod.mk.inj same).2]
        exact exactly
    rw [exactly_iff]
    cases words with
    | relinquish letter commandable null =>
        apply iff_of_true
        · exact storesExactly_of_other
            (show tagNull ∉ [tagUnsignedInt, tagEnumerated, tagSignedInt, tagObjectId] by decide)
        · exact ⟨fun named => named.2.1 ⟨commandable, null⟩, noNumeral letter⟩
    | boolean letter notNull status word =>
        apply iff_of_true
        · exact storesExactly_of_other
            (show tagBoolean ∉ [tagUnsignedInt, tagEnumerated, tagSignedInt, tagObjectId] by decide)
        · refine ⟨?_, noNumeral letter⟩
          rintro ⟨_, _, notTrue, notFalse, _⟩
          cases status with
          | true => exact notTrue word
          | false => exact notFalse word
    | named letter notNull notTrue notFalse found name =>
        apply iff_of_false
        · rw [storesExactly_enumerated_iff, numeral_of_isAlpha letter]
          intro denotes
          cases denotes
        · rintro ⟨unnamed, _⟩
          apply unnamed
          exact ⟨letter, notNull, notTrue, notFalse, by rw [name]; rfl⟩

end Numbers

/-- Minus two is stored as an unsigned number, and with a 64-bit `long` so is 2 ^ 32. -/
theorem not_numericExact_negative :
    let platform := StoragePlatform.reference bacnetSettingsBaseName
    let value : ApplicationDataValue ValueLibrary.reference.toValueTypes :=
      { tag := tagUnsignedInt, type := .other () }
    bacnetSettingsValueParse platform ValueLibrary.reference (some "-2".toList) 8 73 value =
        (true, { tag := tagUnsignedInt, type := .unsignedInt 4294967294 }) ∧
      ¬NumericExact platform ValueLibrary.reference 8 73 "-2".toList value ∧
      ¬NumericExact { platform with ulongBits := 64, ulongBits_range := Or.inr rfl }
        ValueLibrary.reference 8 73 "4294967296".toList value := by
  intro platform value
  have parse : bacnetSettingsValueParse platform ValueLibrary.reference (some "-2".toList) 8 73
      value = (true, { tag := tagUnsignedInt, type := .unsignedInt 4294967294 }) := rfl
  refine ⟨parse, ?_, ?_⟩
  · intro exactly
    rcases (exactly _ parse).unsignedInt rfl with ⟨stored, same, denotes, _⟩
    cases same
    exact absurd denotes (by decide)
  · intro exactly
    have fits := (numericExact_iff_of_noKeyword rfl).mp exactly
    have range := fits 4294967296 (by decide)
    rw [if_pos (Or.inl rfl)] at range
    exact absurd (range ⟨by decide, by decide, by decide⟩).2 (by decide)

/-! ## The tag of a parsed value -/

section Tag

variable {platform : StoragePlatform} {library : ValueLibrary} {objectType : UInt16}
  {propertyId : UInt32} {text : CString}
  {value parsed : ApplicationDataValue library.toValueTypes}

/-- The tag that a word gives to a value, whatever the tag was. -/
def wordTag (library : ValueLibrary) (objectType : UInt16) (propertyId : UInt32)
    (text : CString) : Option UInt8 :=
  if text.head?.any Char.isAlpha then
    if library.lists.commandableMember objectType.toUInt32 propertyId ∧
        EqualIgnoringCase (text.take 4) "NULL".toList then some tagNull
    else if EqualIgnoringCase text "true".toList ∨ EqualIgnoringCase text "false".toList then
      some tagBoolean
    else if (library.objectPropertyStrtoul objectType.toUInt32 propertyId text).isSome then
      some tagEnumerated
    else none
  else none

theorem keywordValue_map_tag (library : ValueLibrary) (objectType : UInt16) (propertyId : UInt32)
    (text : CString) (value : ApplicationDataValue library.toValueTypes) :
    (keywordValue library objectType propertyId text value).map ApplicationDataValue.tag =
      wordTag library objectType propertyId text := by
  have words := keywordValue_cases library objectType propertyId text value
  rw [wordTag]
  rcases shortcut : keywordValue library objectType propertyId text value with _ | keyword
  · rw [shortcut] at words
    cases words with
    | none free =>
        split
        · rename_i letter
          have ⟨notNull, notTrue, notFalse, unnamed⟩ := free letter
          rw [if_neg notNull, if_neg (not_or.mpr ⟨notTrue, notFalse⟩), unnamed]
          rfl
        · rfl
  · rw [shortcut] at words
    cases words with
    | relinquish letter commandable null =>
        rw [if_pos letter, if_pos ⟨commandable, null⟩]
        rfl
    | boolean letter notNull status word =>
        have either : EqualIgnoringCase text "true".toList ∨
            EqualIgnoringCase text "false".toList := by
          cases status with
          | true => exact Or.inl word
          | false => exact Or.inr word
        rw [if_pos letter, if_neg notNull, if_pos either]
        rfl
    | named letter notNull notTrue notFalse found name =>
        rw [if_pos letter, if_neg notNull, if_neg (not_or.mpr ⟨notTrue, notFalse⟩), name]
        rfl

/-- Only a commandable property has the word for NULL. -/
theorem commandable_of_wordTag (null : wordTag library objectType propertyId text = some tagNull) :
    library.lists.commandableMember objectType.toUInt32 propertyId = true := by
  rw [wordTag] at null
  split at null
  · split at null
    · rename_i both
      exact both.1
    · split at null
      · exact absurd (Option.some.inj null) (by decide)
      · split at null
        · exact absurd (Option.some.inj null) (by decide)
        · cases null
  · cases null

theorem wordTag_mem {tag : UInt8} (word : wordTag library objectType propertyId text = some tag) :
    tag ∈ [tagNull, tagBoolean, tagEnumerated] := by
  rw [wordTag] at word
  split at word
  · split at word
    · cases word
      decide
    · split at word
      · cases word
        decide
      · split at word
        · cases word
          decide
        · cases word
  · cases word

/-- The tags of the conversions that can succeed. -/
theorem taggedValue_tag_mem {tag : UInt8} {type : ValueType library.toValueTypes}
    (succeeds : (taggedValue platform library tag text type).1 = true) :
    tag ∈ tagEnumerated :: parsedTags := by
  rcases Decidable.em (tag ∈ tagEnumerated :: parsedTags) with mem | other
  · exact mem
  · simp only [parsedTags, List.mem_cons, List.not_mem_nil, or_false, not_or] at other
    rcases other with ⟨enumerated, character, octet, bit, date, time, objectId, real, signed,
      unsigned⟩
    simp only [taggedValue, if_neg enumerated, if_neg character, if_neg octet, if_neg bit,
      if_neg date, if_neg time, if_neg objectId, if_neg real, if_neg signed, if_neg unsigned]
      at succeeds
    cases succeeds

/-- A parsed value has the tag of the word, or else the tag it had. -/
theorem bacnetSettingsValueParse_tag
    (parse : bacnetSettingsValueParse platform library (some text) objectType propertyId value =
      (true, parsed)) :
    parsed.tag = (wordTag library objectType propertyId text).getD value.tag := by
  have word := keywordValue_map_tag library objectType propertyId text value
  rw [bacnetSettingsValueParse_eq] at parse
  rcases shortcut : keywordValue library objectType propertyId text value with _ | keyword
  · rw [shortcut] at parse word
    rw [← word, ← (Prod.mk.inj parse).2]
    rfl
  · rw [shortcut] at parse word
    rw [← word, ← (Prod.mk.inj parse).2]
    rfl

/-- Without a word the tag is one of those that a text is converted for. -/
theorem bacnetSettingsValueParse_tag_mem
    (parse : bacnetSettingsValueParse platform library (some text) objectType propertyId value =
      (true, parsed)) (noWord : wordTag library objectType propertyId text = none) :
    value.tag ∈ tagEnumerated :: parsedTags := by
  have word := keywordValue_map_tag library objectType propertyId text value
  rw [noWord, Option.map_eq_none_iff] at word
  rw [bacnetSettingsValueParse_eq, word] at parse
  exact taggedValue_tag_mem (Prod.mk.inj parse).1

/-- Every parsed value is of one of the primitive types. -/
theorem bacnetSettingsValueParse_primitive
    (parse : bacnetSettingsValueParse platform library (some text) objectType propertyId value =
      (true, parsed)) : parsed.tag ≤ tagObjectId := by
  have tag := bacnetSettingsValueParse_tag parse
  have primitive : ∀ tag ∈ tagNull :: tagBoolean :: tagEnumerated :: parsedTags,
      decide (tag ≤ tagObjectId) = true := List.all_eq_true.mp rfl
  apply of_decide_eq_true
  apply primitive
  rcases word : wordTag library objectType propertyId text with _ | given
  · rw [word] at tag
    rw [tag]
    exact List.mem_cons_of_mem _ (List.mem_cons_of_mem _
      (bacnetSettingsValueParse_tag_mem parse word))
  · rw [word] at tag
    rw [tag]
    have mem := wordTag_mem word
    simp only [List.mem_cons, List.not_mem_nil, or_false] at mem
    rcases mem with rfl | rfl | rfl
    · exact List.mem_cons_self
    · exact List.mem_cons_of_mem _ List.mem_cons_self
    · exact List.mem_cons_of_mem _ (List.mem_cons_of_mem _ List.mem_cons_self)

/-- A word gives the same value under every tag. -/
theorem bacnetSettingsValueParse_of_word {tag : UInt8}
    (word : (wordTag library objectType propertyId text).isSome) :
    bacnetSettingsValueParse platform library (some text) objectType propertyId
        { value with tag } =
      bacnetSettingsValueParse platform library (some text) objectType propertyId value := by
  have same : keywordValue library objectType propertyId text { value with tag } =
      keywordValue library objectType propertyId text value := rfl
  have given := keywordValue_map_tag library objectType propertyId text value
  rcases shortcut : keywordValue library objectType propertyId text value with _ | keyword
  · rw [shortcut] at given
    rw [← given] at word
    cases word
  · rw [bacnetSettingsValueParse_eq, bacnetSettingsValueParse_eq, same, shortcut]

end Tag

end BacnetZephyr
