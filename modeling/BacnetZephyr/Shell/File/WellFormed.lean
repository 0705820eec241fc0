import BacnetZephyr.Foundation.JsonText
import BacnetZephyr.Shell.File.Reference

/-!
# The JSON text of a record is well formed

The loops that print initial values and property values decode the data of a record a
second time and check nothing. For validated data they end, print what
`fileJsonCreateObject` says, and that is one JSON object with an element for every
initial value.

`IsApplicationValue` says which JSON value stands for a decoded value, apart from how it
is printed: bytes are read back from their digits, and a string is its characters.
-/

namespace BacnetZephyr

open CLib JsonText

/-! ## Strings -/

/-- An ASCII character is told by its byte. -/
theorem ofNat_toNat_eq_iff {c : Char} (ascii : c.toNat < 0x80) {code : ℕ} (small : code < 0x80) :
    UInt8.ofNat c.toNat = UInt8.ofNat code ↔ c.toNat = code := by
  rw [← UInt8.toNat_inj, UInt8.toNat_ofNat', UInt8.toNat_ofNat']
  omega

theorem hex4_hexByte {byte : UInt8} : Hex4 ('0' :: '0' :: hexByte byte) byte.toNat where
  length := rfl
  digit := by
    intro c mem
    simp only [List.mem_cons] at mem
    rcases mem with rfl | rfl | mem
    · decide
    · decide
    · exact isDigitOf_of_mem_hexByte mem
  value := by
    have bound := byte.toNat_lt
    simp only [digitsValue, hexByte, List.foldl_cons, List.foldl_nil,
      digitValue_digitChar (show byte.toNat / 16 < 16 by omega),
      digitValue_digitChar (show byte.toNat % 16 < 16 by omega), Option.getD_some]
    simp [digitValue]
    omega

theorem characterText_ascii {c : Char} (ascii : c.toNat < 0x80) :
    CharacterText (fileJsonCharacter (UInt8.ofNat c.toNat)) c := by
  have isCode : ∀ {code : ℕ} (letter : Char), code < 0x80 → letter.toNat = code →
      UInt8.ofNat c.toNat = UInt8.ofNat code → c = letter := by
    intro code letter small isLetter same
    rw [← Char.toNat_inj, isLetter]
    exact (ofNat_toNat_eq_iff ascii small).mp same
  have byte : (UInt8.ofNat c.toNat).toNat = c.toNat := by
    rw [UInt8.toNat_ofNat']
    omega
  simp only [fileJsonCharacter]
  split
  · rename_i special
    rcases special with quote | backslash
    · rcases isCode '"' (by decide) rfl quote with rfl
      exact .letter rfl
    · rcases isCode '\\' (by decide) rfl backslash with rfl
      exact .letter rfl
  rename_i plain
  split
  · rename_i special
    rcases isCode '\x08' (by decide) rfl special with rfl
    exact .letter rfl
  split
  · rename_i special
    rcases isCode '\x0c' (by decide) rfl special with rfl
    exact .letter rfl
  split
  · rename_i special
    rcases isCode '\n' (by decide) rfl special with rfl
    exact .letter rfl
  split
  · rename_i special
    rcases isCode '\r' (by decide) rfl special with rfl
    exact .letter rfl
  split
  · rename_i special
    rcases isCode '\t' (by decide) rfl special with rfl
    exact .letter rfl
  split
  · -- the other control characters
    have digits := @hex4_hexByte (UInt8.ofNat c.toNat)
    rw [byte] at digits
    exact .unicode digits
  · rename_i printable
    have character := CharacterText.unescaped (c := c)
      (by
        rw [UInt8.lt_iff_toNat_lt, byte] at printable
        simpa using printable)
      (by
        rintro rfl
        exact plain (.inl rfl))
      (by
        rintro rfl
        exact plain (.inr rfl))
    rw [bytesText_of_ascii ascii] at character
    rw [byte, Char.ofNat_toNat]
    exact character

theorem fileJsonCharacter_of_le {byte : UInt8} (wide : 0x80 ≤ byte.toNat) :
    fileJsonCharacter byte = [Char.ofNat byte.toNat] := by
  have other : ∀ {code : UInt8}, code.toNat < 0x80 → byte ≠ code := by
    rintro code small rfl
    omega
  have printable : ¬byte < 0x20 := by
    rw [UInt8.lt_iff_toNat_lt]
    simp
    omega
  rw [fileJsonCharacter, if_neg (not_or.mpr ⟨other (by decide), other (by decide)⟩),
    if_neg (other (by decide)), if_neg (other (by decide)), if_neg (other (by decide)),
    if_neg (other (by decide)), if_neg (other (by decide)), if_neg printable]

theorem flatMap_fileJsonCharacter {bytes : List UInt8} (wide : ∀ byte ∈ bytes, 0x80 ≤ byte.toNat) :
    bytes.flatMap fileJsonCharacter = bytesText bytes := by
  induction bytes with
  | nil => rfl
  | cons byte rest ih =>
      rw [List.forall_mem_cons] at wide
      rw [List.flatMap_cons, fileJsonCharacter_of_le wide.1, ih wide.2]
      rfl

/-- Every character is printed as a character of a JSON string. -/
theorem characterText_fileJson (c : Char) :
    CharacterText ((String.utf8EncodeChar c).flatMap fileJsonCharacter) c := by
  by_cases ascii : c.toNat < 0x80
  · rw [utf8EncodeChar_of_ascii ascii]
    simpa using characterText_ascii ascii
  · -- no byte of the encoding has an escape
    have wide : 0x80 ≤ c.toNat := Nat.le_of_not_lt ascii
    rw [flatMap_fileJsonCharacter fun byte mem => le_of_mem_utf8EncodeChar wide mem]
    apply CharacterText.unescaped
    · omega
    · rintro rfl
      exact ascii (by decide)
    · rintro rfl
      exact ascii (by decide)

theorem charactersText_fileJson (characters : List Char) :
    CharactersText ((utf8Bytes characters).flatMap fileJsonCharacter) characters := by
  induction characters with
  | nil => exact .nil
  | cons c rest ih =>
      rw [utf8Bytes, List.flatMap_cons, List.flatMap_append, ← utf8Bytes]
      exact .cons (characterText_fileJson c) ih

/-- Valid UTF-8 is printed as a JSON string. -/
theorem valueText_fileJsonStringData (characters : List Char) :
    ValueText (fileJsonStringData (utf8Bytes characters)) (.string characters) :=
  .string (charactersText_fileJson characters)

/-- The text is valid UTF-8. -/
def IsUtf8 (text : CString) (characters : List Char) : Prop :=
  text.map (fun character => UInt8.ofNat character.toNat) = utf8Bytes characters

theorem valueText_fileJsonString {text : CString} {characters : List Char}
    (valid : IsUtf8 text characters) : ValueText (fileJsonString text) (.string characters) := by
  rw [fileJsonString, valid]
  exact valueText_fileJsonStringData characters

theorem isUtf8_of_ascii {text : CString} (ascii : ∀ c ∈ text, c.toNat < 0x80) :
    IsUtf8 text text := by
  induction text with
  | nil => rfl
  | cons c rest ih =>
      rw [List.forall_mem_cons] at ascii
      rw [IsUtf8, List.map_cons, ih ascii.2, utf8Bytes, utf8Bytes, List.flatMap_cons,
        utf8EncodeChar_of_ascii ascii.1]
      rfl

/-! ## Property values -/

/--
What is assumed of the BACnet library: names are ASCII, a string is only valid UTF-8 when
it is, a finite number is printed as a JSON number, and the data of an initial value fits
the `int` that gives its length.
-/
structure BackupLibrary.Documented (library : BackupLibrary) : Prop where
  objectTypeName : ∀ objectType, ∀ c ∈ library.bactextObjectTypeNameDefault objectType,
    c.toNat < 0x80
  propertyName : ∀ property, ∀ c ∈ library.bactextPropertyNameDefault property, c.toNat < 0x80
  utf8Valid : ∀ encoding value, library.characterstringUtf8Valid encoding value = true →
    ∃ characters, value = utf8Bytes characters
  number : ∀ isSingle value, library.isfinite value = true →
    0 ≤ (library.bacappSnprintf 48 isSingle value).1 →
    (library.bacappSnprintf 48 isSingle value).1 < 48 →
    IsNumber (library.bacappSnprintf 48 isSingle value).2
  dataLength : ∀ bytes,
    (library.createObjectDecodeInitialValue bytes).2.applicationData.length ≤ int32Max

theorem valueText_unsignedText (number : ℕ) :
    ValueText (unsignedText number) (.number (unsignedText number)) :=
  .number (isNumber_unsignedText number)

/-- A number that may be unspecified. -/
theorem valueText_nullOrUnsigned (unspecified : Prop) [Decidable unspecified] (number : ℕ) :
    ValueText (if unspecified then "null".toList else unsignedText number)
      (if unspecified then .null else .number (unsignedText number)) := by
  split
  · exact .null
  · exact valueText_unsignedText number

theorem valueText_fileJsonHex (value : List UInt8) :
    ValueText (fileJsonHex value) (.string (hexText value)) :=
  valueText_quoted (isPlain_of_isDigitOf fun _ mem => isDigitOf_of_mem_hexText mem)

theorem isField_unsigned (name : CString) (plain : isPlain name) (number : ℕ) :
    IsField (name, unsignedText number) (name, .number (unsignedText number)) :=
  ⟨plain, rfl, valueText_unsignedText number⟩

theorem isField_unsignedOrNull (name : CString) (plain : isPlain name) (value unspecified : ℕ) :
    IsField (name, fileJsonUnsignedOrNull value unspecified)
      (name, if value = unspecified then .null else .number (unsignedText value)) :=
  ⟨plain, rfl, valueText_nullOrUnsigned (value = unspecified) value⟩

theorem isField_ascii (name : CString) (plain : isPlain name) {text : CString}
    (ascii : ∀ c ∈ text, c.toNat < 0x80) :
    IsField (name, fileJsonString text) (name, .string text) :=
  ⟨plain, rfl, valueText_fileJsonString (isUtf8_of_ascii ascii)⟩

theorem isField_hex (value : List UInt8) :
    IsField ("value_hex".toList, fileJsonHex value)
      ("value_hex".toList, .string (hexText value)) :=
  ⟨rfl, rfl, valueText_fileJsonHex value⟩

/-! ### Values with their types -/

def typed (type : String) (fields : List (List Char × Json)) : Json :=
  .object (("type".toList, .string type.toList) :: fields)

def numberField (name : String) (value : ℕ) : List Char × Json :=
  (name.toList, .number (unsignedText value))

/-- A number that may be unspecified. -/
def openField (name : String) (value unspecified : ℕ) : List Char × Json :=
  (name.toList, if value = unspecified then .null else .number (unsignedText value))

/-- An object with the bytes as hexadecimal digits. -/
def IsHexObject (type name : String) (fields : List (List Char × Json)) (bytes : List UInt8)
    (element : Json) : Prop :=
  ∃ digits, hexPairs digits = some bytes ∧
    element = typed type (fields ++ [(name.toList, .string digits)])

section Values

variable (library : BackupLibrary)

/-- A number that is finite and not too long for the buffer is printed. -/
def realFields (value : library.Double) (isSingle : Bool) : List (List Char × Json) :=
  if library.isfinite value = false then
    [("value".toList, .null),
      ("special".toList, .string
        (if library.isnan value then "nan"
         else if library.isNegative value then "-infinity" else "infinity").toList)]
  else if (library.bacappSnprintf 48 isSingle value).1 < 0 ∨
      48 ≤ (library.bacappSnprintf 48 isSingle value).1 then [("value".toList, .null)]
  else [("value".toList, .number (library.bacappSnprintf 48 isSingle value).2)]

/-- The JSON value for a decoded value. -/
def IsApplicationValue (value : BacnetApplicationDataValue library.Double) (element : Json) :
    Prop :=
  if library.bacappDefined value.tag = false then
    element = typed "unsupported" [numberField "tag" value.tag]
  else
    match value with
    | .null => element = typed "null" [("value".toList, .null)]
    | .boolean value => element = typed "boolean" [("value".toList, .bool value)]
    | .unsignedInt value => element = typed "unsigned" [numberField "value" value]
    | .signedInt value =>
        element = typed "signed"
          [("value".toList, .number ((if value < 0 then "-".toList else []) ++
            unsignedText value.natAbs))]
    | .real value => element = typed "real" (realFields library value true)
    | .double value => element = typed "double" (realFields library value false)
    | .octetString value => IsHexObject "octet-string" "value_hex" [] value element
    | .characterString encoding value =>
        if library.characterstringUtf8Valid encoding value then
          ∃ characters, utf8Bytes characters = value ∧
            element = typed "character-string"
              [numberField "encoding" encoding.toNat, ("value".toList, .string characters)]
        else
          IsHexObject "character-string" "value_hex" [numberField "encoding" encoding.toNat] value
            element
    | .bitString bits =>
        element = typed "bit-string"
          [("bits".toList, .string (bits.map fun bit => if bit then '1' else '0'))]
    | .enumerated value => element = typed "enumerated" [numberField "value" value.toNat]
    | .date year month day wday =>
        element = typed "date"
          [openField "year" year.toNat (bacnetDateYearEpoch + uint8Max),
            openField "month" month.toNat uint8Max, openField "day" day.toNat uint8Max,
            openField "weekday" wday.toNat uint8Max]
    | .time hour min sec hundredths =>
        element = typed "time"
          [openField "hour" hour.toNat uint8Max, openField "minute" min.toNat uint8Max,
            openField "second" sec.toNat uint8Max,
            openField "hundredths" hundredths.toNat uint8Max]
    | .objectId type instanceNumber =>
        element = typed "object-identifier"
          [numberField "object_type" type.toNat,
            ("object_type_name".toList, .string (library.bactextObjectTypeNameDefault type)),
            numberField "instance" instanceNumber.toNat]
    | .other tag => element = typed "unsupported" [numberField "tag" tag.toNat]

/-- The elements for application data: one for each value, or all the bytes as digits. -/
def IsApplicationValues (data : List UInt8) (elements : List Json) : Prop :=
  if fileApplicationDataIsPrimitive library data = false then
    ∃ element, IsHexObject "encoded" "data_hex" [] data element ∧ elements = [element]
  else List.Forall₂ (IsApplicationValue library) (applicationValues library data) elements

end Values

section Printed

variable {library : BackupLibrary}

theorem valueText_typed (type : String) (plain : isPlain type.toList)
    {members : List (CString × CString)} {fields : List (List Char × Json)} {text : CString}
    (isFields : List.Forall₂ IsField members fields)
    (shape : text = objectText (("type".toList, quoted type.toList) :: members)) :
    ValueText text (typed type fields) := by
  rw [shape]
  exact valueText_objectText (.cons ⟨rfl, rfl, valueText_quoted plain⟩ isFields)

theorem isHexObject_hexText (type name : String) (fields : List (List Char × Json))
    (bytes : List UInt8) :
    IsHexObject type name fields bytes
      (typed type (fields ++ [(name.toList, .string (hexText bytes))])) :=
  ⟨hexText bytes, hexPairs_hexText bytes, rfl⟩

theorem valueText_fileJsonReal (documented : library.Documented) (type : String)
    (plain : isPlain type.toList) (value : library.Double) (isSingle : Bool) :
    ValueText (fileJsonReal library type.toList value isSingle)
      (typed type (realFields library value isSingle)) := by
  have nullField : IsField ("value".toList, "null".toList) ("value".toList, .null) :=
    ⟨rfl, rfl, .null⟩
  simp only [fileJsonReal, realFields]
  split
  · -- infinities and values that are no numbers
    have special : ∀ name : String, isPlain name.toList →
        IsField ("special".toList, fileJsonString name.toList)
          ("special".toList, .string name.toList) := by
      intro name plainName
      apply isField_ascii _ rfl
      intro c mem
      have printable := List.all_eq_true.mp plainName c mem
      simp only [decide_eq_true_eq] at printable
      exact printable.2.1
    simp only [← apply_ite String.toList]
    apply valueText_typed type plain (.cons nullField (.cons (special _ _) .nil))
    · simp [objectText, memberText, quoted, commaText, List.intercalate]
    · split_ifs <;> rfl
  · rename_i finite
    rw [Bool.not_eq_false] at finite
    split
    · apply valueText_typed type plain (.cons nullField .nil)
      simp [objectText, memberText, quoted, commaText, List.intercalate]
    · rename_i fits
      rw [not_or] at fits
      have numberField : IsField
          ("value".toList, (library.bacappSnprintf 48 isSingle value).2)
          ("value".toList, .number (library.bacappSnprintf 48 isSingle value).2) :=
        ⟨rfl, rfl, .number (documented.number isSingle value finite (Int.not_lt.mp fits.1)
          (Int.not_le.mp fits.2))⟩
      apply valueText_typed type plain (.cons numberField .nil)
      simp [objectText, memberText, quoted, commaText, List.intercalate]

/-- Every decoded value is printed as the JSON value for it. -/
theorem valueText_fileJsonApplicationValue (documented : library.Documented)
    (value : BacnetApplicationDataValue library.Double) :
    ∃ element, ValueText (fileJsonApplicationValue library value) element ∧
      IsApplicationValue library value element := by
  have unsupported : ∀ tag : ℕ, ValueText
      ("\x7b\"type\":\"unsupported\",\"tag\":".toList ++ unsignedText tag ++ "\x7d".toList)
      (typed "unsupported" [numberField "tag" tag]) := by
    intro tag
    apply valueText_typed "unsupported" rfl (.cons (isField_unsigned "tag".toList rfl tag) .nil)
    simp [objectText, memberText, quoted, commaText, List.intercalate]
  simp only [fileJsonApplicationValue, IsApplicationValue]
  split
  · exact ⟨_, unsupported _, rfl⟩
  cases value with
  | null =>
      have valueField : IsField ("value".toList, "null".toList) ("value".toList, .null) :=
        ⟨rfl, rfl, .null⟩
      refine ⟨_, valueText_typed "null" rfl (.cons valueField .nil) ?_, rfl⟩
      simp [objectText, memberText, quoted, commaText, List.intercalate]
  | boolean value =>
      have valueField : IsField ("value".toList, (if value then "true" else "false").toList)
          ("value".toList, .bool value) := by
        refine ⟨rfl, rfl, ?_⟩
        cases value
        · exact .false
        · exact .true
      refine ⟨_, valueText_typed "boolean" rfl (.cons valueField .nil) ?_, rfl⟩
      simp [objectText, memberText, quoted, commaText, List.intercalate]
  | unsignedInt value =>
      have valueField := isField_unsigned "value".toList rfl value
      refine ⟨_, valueText_typed "unsigned" rfl (.cons valueField .nil) ?_, rfl⟩
      simp [objectText, memberText, quoted, commaText, List.intercalate]
  | signedInt value =>
      have numeral : IsNumber ((if value < 0 then "-".toList else []) ++
          unsignedText value.natAbs) := by
        split
        · exact IsNumber.negative
        · exact isNumber_unsignedText value.natAbs
      have valueField : IsField
          ("value".toList, (if value < 0 then "-".toList else []) ++ unsignedText value.natAbs)
          ("value".toList, .number _) := ⟨rfl, rfl, .number numeral⟩
      refine ⟨_, valueText_typed "signed" rfl (.cons valueField .nil) ?_, rfl⟩
      simp [objectText, memberText, quoted, commaText, List.intercalate]
  | real value => exact ⟨_, valueText_fileJsonReal documented "real" rfl value true, rfl⟩
  | double value => exact ⟨_, valueText_fileJsonReal documented "double" rfl value false, rfl⟩
  | octetString value =>
      refine ⟨_, ?_, isHexObject_hexText _ _ _ _⟩
      apply valueText_typed "octet-string" rfl (.cons (isField_hex value) .nil)
      simp [objectText, memberText, quoted, commaText, List.intercalate]
  | characterString encoding value =>
      have encodingField := isField_unsigned "encoding".toList rfl encoding.toNat
      simp only
      split
      · rename_i valid
        rcases documented.utf8Valid encoding value valid with ⟨characters, rfl⟩
        have valueField : IsField ("value".toList, fileJsonStringData (utf8Bytes characters))
            ("value".toList, .string characters) :=
          ⟨rfl, rfl, valueText_fileJsonStringData characters⟩
        refine ⟨_, ?_, characters, rfl, rfl⟩
        apply valueText_typed "character-string" rfl
          (.cons encodingField (.cons valueField .nil))
        simp [objectText, memberText, quoted, commaText, List.intercalate]
      · refine ⟨_, ?_, isHexObject_hexText _ _ _ _⟩
        apply valueText_typed "character-string" rfl
          (.cons encodingField (.cons (isField_hex value) .nil))
        simp [objectText, memberText, quoted, commaText, List.intercalate]
  | bitString bits =>
      have plain : isPlain (bits.map fun bit => if bit then '1' else '0') := by
        simp only [isPlain, List.all_map, List.all_eq_true, Function.comp_apply]
        intro bit _
        cases bit <;> rfl
      have bitsField : IsField
          ("bits".toList, quoted (bits.map fun bit => if bit then '1' else '0'))
          ("bits".toList, .string _) := ⟨rfl, rfl, valueText_quoted plain⟩
      refine ⟨_, valueText_typed "bit-string" rfl (.cons bitsField .nil) ?_, rfl⟩
      simp [objectText, memberText, quoted, commaText, List.intercalate]
  | enumerated value =>
      have valueField := isField_unsigned "value".toList rfl value.toNat
      refine ⟨_, valueText_typed "enumerated" rfl (.cons valueField .nil) ?_, rfl⟩
      simp [objectText, memberText, quoted, commaText, List.intercalate]
  | date year month day wday =>
      have yearField := isField_unsignedOrNull "year".toList rfl year.toNat
        (bacnetDateYearEpoch + uint8Max)
      have monthField := isField_unsignedOrNull "month".toList rfl month.toNat uint8Max
      have dayField := isField_unsignedOrNull "day".toList rfl day.toNat uint8Max
      have weekdayField := isField_unsignedOrNull "weekday".toList rfl wday.toNat uint8Max
      refine ⟨_, valueText_typed "date" rfl
        (.cons yearField (.cons monthField (.cons dayField (.cons weekdayField .nil)))) ?_, rfl⟩
      simp [objectText, memberText, quoted, commaText, List.intercalate]
  | time hour min sec hundredths =>
      have hourField := isField_unsignedOrNull "hour".toList rfl hour.toNat uint8Max
      have minuteField := isField_unsignedOrNull "minute".toList rfl min.toNat uint8Max
      have secondField := isField_unsignedOrNull "second".toList rfl sec.toNat uint8Max
      have hundredthsField :=
        isField_unsignedOrNull "hundredths".toList rfl hundredths.toNat uint8Max
      refine ⟨_, valueText_typed "time" rfl
        (.cons hourField (.cons minuteField (.cons secondField (.cons hundredthsField .nil)))) ?_,
        rfl⟩
      simp [objectText, memberText, quoted, commaText, List.intercalate]
  | objectId type instanceNumber =>
      have objectTypeField := isField_unsigned "object_type".toList rfl type.toNat
      have nameField := isField_ascii "object_type_name".toList rfl (documented.objectTypeName type)
      have instanceField := isField_unsigned "instance".toList rfl instanceNumber.toNat
      refine ⟨_, valueText_typed "object-identifier" rfl
        (.cons objectTypeField (.cons nameField (.cons instanceField .nil))) ?_, rfl⟩
      simp [objectText, memberText, quoted, commaText, List.intercalate]
  | other tag => exact ⟨_, unsupported tag.toNat, rfl⟩

end Printed

/-! ## The printing loops -/

/-- The conversion to `uint32_t`. -/
def toUint32 (value : Int) : ℕ := (value % 4294967296).toNat

theorem toUint32_of_lt {value : Int} (nonneg : 0 ≤ value) (inside : value < 4294967296) :
    toUint32 value = value.toNat := by
  rw [toUint32, Int.emod_eq_of_lt nonneg inside]

section Loops

variable {Value : Type}

/--
A loop that decodes the rest of the data, prints the value and adds the decoded length to
the offset, with commas between the values; `none` when the rounds run out.
-/
def fileJsonLoop (decode : List UInt8 → Int × Value) (print : ℕ → Value → Option CString)
    (data : List UInt8) : ℕ → ℕ → Bool → Option CString
  | 0, _, _ => none
  | rounds + 1, offset, first =>
      if offset < data.length then do
        let (decodedLen, value) := decode (data.drop offset)
        let text ← print rounds value
        let rest ← fileJsonLoop decode print data rounds (toUint32 (offset + decodedLen)) false
        return (if first then [] else ",".toList) ++ text ++ rest
      else return []

/-- The program returns the text when it is given enough rounds. -/
def Prints (program : ℕ → Option CString) (text : CString) : Prop :=
  ∃ enough, ∀ rounds, enough ≤ rounds → program rounds = some text

/-- Every decoded length advances, and these are the values decoded. -/
inductive Decodes (decode : List UInt8 → Int × Value) : List UInt8 → List Value → Prop where
  | nil : Decodes decode [] []
  | cons {data : List UInt8} {values : List Value} : Advances (decode data).1 data →
      Decodes decode (data.drop (decode data).1.toNat) values →
      Decodes decode data ((decode data).2 :: values)

/-- Items with commas between them, and before the first one as well in a later round. -/
def separated (first : Bool) (items : List CString) : CString :=
  if first then commaSeparated items else items.flatMap fun item => ",".toList ++ item

theorem separated_cons (first : Bool) (item : CString) (items : List CString) :
    separated first (item :: items) =
      (if first then [] else ",".toList) ++ item ++ separated false items := by
  cases first with
  | false => simp [separated]
  | true =>
      induction items generalizing item with
      | nil => simp [separated, commaSeparated, List.intercalate]
      | cons second items ih =>
          have rest := ih second
          simp only [separated, if_true, List.nil_append] at rest ⊢
          have joined : commaSeparated (item :: second :: items) =
              item ++ (",".toList ++ commaSeparated (second :: items)) := by
            simp [commaSeparated, List.intercalate]
          rw [joined, rest]
          simp

/-- A loop over data that advances prints the decoded values in order. -/
theorem prints_fileJsonLoop {decode : List UInt8 → Int × Value}
    {print : ℕ → Value → Option CString} {text : Value → CString} {data rest : List UInt8}
    {values : List Value} (fits : data.length ≤ int32Max) (decodes : Decodes decode rest values)
    (prints : ∀ value ∈ values, Prints (fun rounds => print rounds value) (text value))
    {offset : ℕ} (isRest : rest = data.drop offset) (first : Bool) :
    Prints (fun rounds => fileJsonLoop decode print data rounds offset first)
      (separated first (values.map text)) := by
  simp only [int32Max] at fits
  induction decodes generalizing offset first with
  | nil =>
      have finished : ¬offset < data.length := Nat.not_lt.mpr (List.drop_eq_nil_iff.mp isRest.symm)
      refine ⟨1, fun rounds enough => ?_⟩
      rcases Nat.exists_eq_add_of_le' enough with ⟨rounds, rfl⟩
      simp only [fileJsonLoop, if_neg finished]
      cases first
      · rfl
      · rfl
  | @cons rest values advances decodes ih =>
      subst isRest
      rw [List.forall_mem_cons] at prints
      rcases prints with ⟨⟨enoughValue, printsValue⟩, printsRest⟩
      rcases advances with ⟨positive, inside⟩
      rw [List.length_drop] at inside
      have next : toUint32 (offset + (decode (data.drop offset)).1) =
          offset + (decode (data.drop offset)).1.toNat := by
        rw [toUint32_of_lt (by omega) (by omega)]
        omega
      have isNext : (data.drop offset).drop (decode (data.drop offset)).1.toNat =
          data.drop (toUint32 (offset + (decode (data.drop offset)).1)) := by
        rw [List.drop_drop, next]
      rcases ih printsRest isNext false with ⟨enoughRest, printsLater⟩
      refine ⟨max enoughValue enoughRest + 1, fun rounds enough => ?_⟩
      rcases Nat.exists_eq_add_of_le' enough with ⟨rounds, rfl⟩
      have value := printsValue (rounds + max enoughValue enoughRest) (by omega)
      have later := printsLater (rounds + max enoughValue enoughRest) (by omega)
      simp only at value later
      rw [List.map_cons, separated_cons, ← Nat.add_assoc]
      simp only [fileJsonLoop, if_pos (show offset < data.length by omega), value, later]
      rfl

end Loops

section Records

variable (library : BackupLibrary)

/-- The loop of `file_json_application_values`. -/
def fileJsonApplicationValuesLoop (data : List UInt8) (rounds : ℕ) : Option CString :=
  fileJsonLoop library.bacappDecodeApplicationData
    (fun _ value => some (fileJsonApplicationValue library value)) data rounds 0 true

def fileJsonApplicationValuesRun (data : List UInt8) (rounds : ℕ) : Option CString :=
  if fileApplicationDataIsPrimitive library data = false then
    some ("[\x7b\"type\":\"encoded\",\"data_hex\":".toList ++ fileJsonHex data ++ "\x7d]".toList)
  else do
    let values ← fileJsonApplicationValuesLoop library data rounds
    return "[".toList ++ values ++ "]".toList

/-- The round of the loop of `file_json_initial_values` for one value. -/
def fileJsonInitialValueRun (rounds : ℕ) (value : BacnetCreateObjectPropertyValue) :
    Option CString := do
  let values ← fileJsonApplicationValuesRun library value.applicationData rounds
  return "\x7b\"property_identifier\":".toList ++ unsignedText value.propertyIdentifier.toNat ++
    ",\"property_name\":".toList ++
    fileJsonString (library.bactextPropertyNameDefault value.propertyIdentifier) ++
    ",\"array_index\":".toList ++
    (if value.propertyArrayIndex = 0xFFFFFFFF then "null".toList
     else unsignedText value.propertyArrayIndex.toNat) ++
    ",\"priority\":".toList ++
    (if value.priority = bacnetNoPriority then "null".toList
     else unsignedText value.priority.toNat) ++
    ",\"value\":".toList ++ values ++ "\x7d".toList

def fileJsonInitialValuesRun (data : BacnetCreateObjectData) (rounds : ℕ) : Option CString := do
  let values ← fileJsonLoop library.createObjectDecodeInitialValue
    (fileJsonInitialValueRun library)
    (data.applicationData.take (toUint32 data.applicationDataLen)) rounds 0 true
  return "[".toList ++ values ++ "]".toList

/-- `file_json_create_object`: the printed text with its line end. -/
def fileJsonCreateObjectRun (offset : ℕ) (data : BacnetCreateObjectData) (rounds : ℕ) :
    Option CString := do
  let values ← fileJsonInitialValuesRun library data rounds
  return "\x7b\"offset\":".toList ++ unsignedText offset ++ ",\"object_type\":".toList ++
    unsignedText data.objectType.toNat ++ ",\"object_type_name\":".toList ++
    fileJsonString (library.bactextObjectTypeNameDefault data.objectType) ++
    ",\"object_instance\":".toList ++ unsignedText data.objectInstance.toNat ++
    ",\"initial_values\":".toList ++ values ++ "\x7d\n".toList

end Records

/-! ## The loops end -/

section Ends

variable {library : BackupLibrary}

theorem decodes_applicationValues {data : List UInt8}
    (primitive : fileApplicationDataIsPrimitive library data = true) :
    Decodes library.bacappDecodeApplicationData data (applicationValues library data) := by
  induction data using fileApplicationDataIsPrimitive.induct library with
  | case1 =>
      rw [applicationValues, if_pos rfl]
      exact .nil
  | case2 data nonempty decodedLen advances ih =>
      rw [fileApplicationDataIsPrimitive, if_neg nonempty] at primitive
      simp only at primitive
      rw [if_pos advances] at primitive
      rw [applicationValues, if_neg nonempty]
      simp only
      rw [if_pos advances]
      exact .cons advances (ih primitive)
  | case3 data nonempty decodedLen stuck =>
      rw [fileApplicationDataIsPrimitive, if_neg nonempty] at primitive
      simp only at primitive
      rw [if_neg stuck] at primitive
      contradiction

theorem decodes_initialPropertyValues {data : List UInt8}
    (valid : initialValuesAdvance library data = true) :
    Decodes library.createObjectDecodeInitialValue data (initialPropertyValues library data) := by
  induction data using initialValuesAdvance.induct library with
  | case1 =>
      rw [initialPropertyValues, if_pos rfl]
      exact .nil
  | case2 data nonempty decodedLen advances ih =>
      rw [initialValuesAdvance, if_neg nonempty] at valid
      simp only at valid
      rw [if_pos advances] at valid
      rw [initialPropertyValues, if_neg nonempty]
      simp only
      rw [if_pos advances]
      exact .cons advances (ih valid)
  | case3 data nonempty decodedLen stuck =>
      rw [initialValuesAdvance, if_neg nonempty] at valid
      simp only at valid
      rw [if_neg stuck] at valid
      contradiction

theorem mem_of_decodes {Value : Type} {decode : List UInt8 → Int × Value} {data : List UInt8}
    {values : List Value} (decodes : Decodes decode data values) :
    ∀ value ∈ values, ∃ bytes, value = (decode bytes).2 := by
  induction decodes with
  | nil => simp
  | @cons data values _ _ ih =>
      rw [List.forall_mem_cons]
      exact ⟨⟨data, rfl⟩, ih⟩

theorem prints_fileJsonApplicationValues {data : List UInt8} (fits : data.length ≤ int32Max) :
    Prints (fileJsonApplicationValuesRun library data)
      (fileJsonApplicationValues library data) := by
  by_cases primitive : fileApplicationDataIsPrimitive library data = false
  · refine ⟨0, fun rounds _ => ?_⟩
    rw [fileJsonApplicationValuesRun, if_pos primitive, fileJsonApplicationValues,
      if_pos primitive]
  · have decodes := decodes_applicationValues (Bool.not_eq_false _ ▸ primitive)
    have each : ∀ value ∈ applicationValues library data,
        Prints (fun _ => some (fileJsonApplicationValue library value))
          (fileJsonApplicationValue library value) := fun value _ => ⟨0, fun _ _ => rfl⟩
    rcases prints_fileJsonLoop fits decodes each (List.drop_zero).symm true with ⟨enough, prints⟩
    refine ⟨enough, fun rounds many => ?_⟩
    have loop := prints rounds many
    simp only at loop
    rw [fileJsonApplicationValuesRun, if_neg primitive, fileJsonApplicationValues,
      if_neg primitive, fileJsonApplicationValuesLoop, loop]
    rfl

theorem prints_fileJsonInitialValue {value : BacnetCreateObjectPropertyValue}
    (fits : value.applicationData.length ≤ int32Max) :
    Prints (fun rounds => fileJsonInitialValueRun library rounds value)
      (fileJsonInitialValue library value) := by
  rcases @prints_fileJsonApplicationValues library _ fits with ⟨enough, prints⟩
  refine ⟨enough, fun rounds many => ?_⟩
  simp only [fileJsonInitialValueRun, prints rounds many]
  rfl

/-- The range that the validation has checked. -/
theorem initialValues_of_valid {data : BacnetCreateObjectData}
    (valid : fileInitialValuesValidate library data = 0) :
    0 ≤ data.applicationDataLen ∧ data.applicationDataLen ≤ data.applicationData.length ∧
      initialValuesAdvance library data.initialValues = true := by
  simp only [fileInitialValuesValidate] at valid
  split at valid
  · simp [Errno.ebadmsg] at valid
  · rename_i inside
    split at valid
    · rename_i advances
      exact ⟨by omega, by omega, advances⟩
    · simp [Errno.ebadmsg] at valid

/-- For validated data the loops end and print the text of the record and its line end. -/
theorem prints_fileJsonCreateObject (documented : library.Documented) (offset : ℕ)
    {data : BacnetCreateObjectData} (buffer : data.applicationData.length ≤ int32Max)
    (valid : fileInitialValuesValidate library data = 0) :
    Prints (fileJsonCreateObjectRun library offset data)
      (fileJsonCreateObject library offset data ++ ['\n']) := by
  rcases initialValues_of_valid valid with ⟨positive, inside, advances⟩
  have short : toUint32 data.applicationDataLen = data.applicationDataLen.toNat := by
    simp only [int32Max] at buffer
    exact toUint32_of_lt positive (by omega)
  have decodes := decodes_initialPropertyValues advances
  have each : ∀ value ∈ initialPropertyValues library data.initialValues,
      Prints (fun rounds => fileJsonInitialValueRun library rounds value)
        (fileJsonInitialValue library value) := by
    intro value mem
    rcases mem_of_decodes decodes value mem with ⟨bytes, rfl⟩
    exact prints_fileJsonInitialValue (documented.dataLength bytes)
  have fits : data.initialValues.length ≤ int32Max := by
    rw [BacnetCreateObjectData.initialValues, List.length_take]
    omega
  rcases prints_fileJsonLoop fits decodes each (List.drop_zero).symm true with ⟨enough, prints⟩
  refine ⟨enough, fun rounds many => ?_⟩
  have loop := prints rounds many
  simp only [BacnetCreateObjectData.initialValues] at loop
  have array : fileJsonInitialValuesRun library data rounds =
      some (fileJsonInitialValues library data) := by
    rw [fileJsonInitialValuesRun, short, loop]
    rfl
  have lineEnd : "\x7d\n".toList = "\x7d".toList ++ ['\n'] := rfl
  rw [fileJsonCreateObjectRun, array, Option.bind_eq_bind, Option.bind_some, lineEnd,
    ← List.append_assoc]
  rfl

end Ends

/-! ## The printed object -/

section Records

variable {library : BackupLibrary}

theorem forall₂_applicationValues (documented : library.Documented)
    (values : List (BacnetApplicationDataValue library.Double)) :
    ∃ elements,
      List.Forall₂ ElementText (values.map (fileJsonApplicationValue library)) elements ∧
      List.Forall₂ (IsApplicationValue library) values elements := by
  induction values with
  | nil => exact ⟨[], .nil, .nil⟩
  | cons value values ih =>
      rcases ih with ⟨elements, texts, isValues⟩
      rcases valueText_fileJsonApplicationValue documented value with ⟨element, text, isValue⟩
      exact ⟨element :: elements, .cons (.of_value text) texts, .cons isValue isValues⟩

/-- Data that is no sequence of values is printed as its digits. -/
theorem valueText_encoded (data : List UInt8) :
    ∃ element, ValueText
        ("[\x7b\"type\":\"encoded\",\"data_hex\":".toList ++ fileJsonHex data ++ "\x7d]".toList)
        (.array [element]) ∧
      IsHexObject "encoded" "data_hex" [] data element := by
  have dataField : IsField ("data_hex".toList, fileJsonHex data)
      ("data_hex".toList, .string (hexText data)) := ⟨rfl, rfl, valueText_fileJsonHex data⟩
  have object := valueText_typed "encoded" rfl (.cons dataField .nil) rfl
  have array := valueText_array (.cons (.of_value object) .nil)
  refine ⟨_, ?_, isHexObject_hexText _ _ _ _⟩
  simpa [objectText, memberText, quoted, commaText, List.intercalate] using array

theorem valueText_fileJsonApplicationValues (documented : library.Documented)
    (data : List UInt8) :
    ∃ elements, ValueText (fileJsonApplicationValues library data) (.array elements) ∧
      IsApplicationValues library data elements := by
  simp only [fileJsonApplicationValues, IsApplicationValues]
  split
  · rcases valueText_encoded data with ⟨element, text, isHex⟩
    exact ⟨[element], text, element, isHex, rfl⟩
  · rcases forall₂_applicationValues documented (applicationValues library data) with
      ⟨elements, texts, isValues⟩
    exact ⟨elements, valueText_array texts, isValues⟩

/-- The element of the array for an initial value. -/
def IsInitialValue (library : BackupLibrary) (value : BacnetCreateObjectPropertyValue)
    (element : Json) : Prop :=
  ∃ values, IsApplicationValues library value.applicationData values ∧ element = .object
    [("property_identifier".toList, .number (unsignedText value.propertyIdentifier.toNat)),
      ("property_name".toList,
        .string (library.bactextPropertyNameDefault value.propertyIdentifier)),
      ("array_index".toList, if value.propertyArrayIndex = 0xFFFFFFFF then .null
        else .number (unsignedText value.propertyArrayIndex.toNat)),
      ("priority".toList, if value.priority = bacnetNoPriority then .null
        else .number (unsignedText value.priority.toNat)),
      ("value".toList, .array values)]

theorem valueText_fileJsonInitialValue (documented : library.Documented)
    (value : BacnetCreateObjectPropertyValue) :
    ∃ element, ValueText (fileJsonInitialValue library value) element ∧
      IsInitialValue library value element := by
  rcases valueText_fileJsonApplicationValues documented value.applicationData with
    ⟨values, text, isValues⟩
  have identifierField := isField_unsigned "property_identifier".toList rfl
    value.propertyIdentifier.toNat
  have nameField := isField_ascii "property_name".toList rfl
    (documented.propertyName value.propertyIdentifier)
  have indexField : IsField
      ("array_index".toList, if value.propertyArrayIndex = 0xFFFFFFFF then "null".toList
        else unsignedText value.propertyArrayIndex.toNat)
      ("array_index".toList, if value.propertyArrayIndex = 0xFFFFFFFF then .null
        else .number (unsignedText value.propertyArrayIndex.toNat)) :=
    ⟨rfl, rfl, valueText_nullOrUnsigned _ _⟩
  have priorityField : IsField
      ("priority".toList, if value.priority = bacnetNoPriority then "null".toList
        else unsignedText value.priority.toNat)
      ("priority".toList, if value.priority = bacnetNoPriority then .null
        else .number (unsignedText value.priority.toNat)) :=
    ⟨rfl, rfl, valueText_nullOrUnsigned _ _⟩
  have valueField : IsField
      ("value".toList, fileJsonApplicationValues library value.applicationData)
      ("value".toList, .array values) := ⟨rfl, rfl, text⟩
  have object := valueText_objectText
    (.cons identifierField (.cons nameField (.cons indexField (.cons priorityField
      (.cons valueField .nil)))))
  refine ⟨_, ?_, values, isValues, rfl⟩
  delta fileJsonInitialValue
  simpa [objectText, memberText, commaText, List.intercalate] using object

theorem forall₂_initialValues (documented : library.Documented)
    (values : List BacnetCreateObjectPropertyValue) :
    ∃ elements, List.Forall₂ ElementText (values.map (fileJsonInitialValue library)) elements ∧
      List.Forall₂ (IsInitialValue library) values elements := by
  induction values with
  | nil => exact ⟨[], .nil, .nil⟩
  | cons value values ih =>
      rcases ih with ⟨elements, texts, isValues⟩
      rcases valueText_fileJsonInitialValue documented value with ⟨element, text, isValue⟩
      exact ⟨element :: elements, .cons (.of_value text) texts, .cons isValue isValues⟩

/-- The object for a record: where it begins, what it creates, and its initial values. -/
def IsRecordObject (library : BackupLibrary) (offset : ℕ) (data : BacnetCreateObjectData)
    (object : Json) : Prop :=
  ∃ elements,
    List.Forall₂ (IsInitialValue library) (initialPropertyValues library data.initialValues)
      elements ∧
    object = .object
      [("offset".toList, .number (unsignedText offset)),
        ("object_type".toList, .number (unsignedText data.objectType.toNat)),
        ("object_type_name".toList,
          .string (library.bactextObjectTypeNameDefault data.objectType)),
        ("object_instance".toList, .number (unsignedText data.objectInstance.toNat)),
        ("initial_values".toList, .array elements)]

theorem valueText_fileJsonCreateObject (documented : library.Documented) (offset : ℕ)
    (data : BacnetCreateObjectData) :
    ∃ object, ValueText (fileJsonCreateObject library offset data) object ∧
      IsRecordObject library offset data object := by
  rcases forall₂_initialValues documented (initialPropertyValues library data.initialValues) with
    ⟨elements, texts, isValues⟩
  refine ⟨_, ?_, elements, isValues, rfl⟩
  have offsetField := isField_unsigned "offset".toList rfl offset
  have typeField := isField_unsigned "object_type".toList rfl data.objectType.toNat
  have nameField := isField_ascii "object_type_name".toList rfl
    (documented.objectTypeName data.objectType)
  have instanceField := isField_unsigned "object_instance".toList rfl data.objectInstance.toNat
  have array : ValueText (fileJsonInitialValues library data) (.array elements) :=
    valueText_array texts
  have valuesField : IsField ("initial_values".toList, fileJsonInitialValues library data)
      ("initial_values".toList, .array elements) := ⟨rfl, rfl, array⟩
  have object := valueText_objectText
    (.cons offsetField (.cons typeField (.cons nameField (.cons instanceField
      (.cons valuesField .nil)))))
  delta fileJsonCreateObject
  simpa [objectText, memberText, commaText, List.intercalate] using object

/--
For validated data the printing loops end with the text of the record and a line end. The
text is one JSON object, and its array of initial values has an element for every initial
value, in order.
-/
theorem fileJsonCreateObject_wellFormed (library : BackupLibrary)
    (documented : library.Documented) (offset : ℕ) (data : BacnetCreateObjectData)
    (buffer : data.applicationData.length ≤ int32Max)
    (valid : fileInitialValuesValidate library data = 0) :
    Prints (fileJsonCreateObjectRun library offset data)
        (fileJsonCreateObject library offset data ++ ['\n']) ∧
      ∃ elements, ValueText (fileJsonCreateObject library offset data)
          (.object
            [("offset".toList, .number (unsignedText offset)),
              ("object_type".toList, .number (unsignedText data.objectType.toNat)),
              ("object_type_name".toList,
                .string (library.bactextObjectTypeNameDefault data.objectType)),
              ("object_instance".toList, .number (unsignedText data.objectInstance.toNat)),
              ("initial_values".toList, .array elements)]) ∧
        List.Forall₂ (IsInitialValue library)
          (initialPropertyValues library data.initialValues) elements := by
  refine ⟨prints_fileJsonCreateObject documented offset buffer valid, ?_⟩
  rcases valueText_fileJsonCreateObject documented offset data with
    ⟨_, text, elements, isValues, rfl⟩
  exact ⟨elements, text, isValues⟩

/-- The content of a request with an unsigned present value as its only initial value. -/
def presentValueCreateObject (high second third low value : UInt8) : BacnetCreateObjectData :=
  { emptyCreateObject high second third low with
    applicationDataLen := 6
    applicationData := [0x09, 0x55, 0x2E, 0x21, value, 0x2F] ++ List.replicate 44 0 }

/-- The decoders on a present value that is unsigned and less than 256. -/
def BackupLibrary.unsignedPresentValue : BackupLibrary :=
  { BackupLibrary.reference with
    createObjectDecodeServiceRequest := fun
      | 0x0E :: 0x1C :: high :: second :: third :: low :: 0x0F :: 0x1E ::
          0x09 :: 0x55 :: 0x2E :: 0x21 :: value :: 0x2F :: 0x1F :: _ =>
          (15, presentValueCreateObject high second third low value)
      | window => decodeEmptyCreateObject window
    createObjectDecodeInitialValue := fun
      | 0x09 :: 0x55 :: 0x2E :: 0x21 :: value :: 0x2F :: _ =>
          (6, ⟨85, 0xFFFFFFFF, [0x21, value], bacnetNoPriority⟩)
      | _ => (-1, ⟨0, 0, [], 0⟩)
    bacappDecodeApplicationData := fun
      | 0x21 :: value :: _ => (2, .unsignedInt value.toNat)
      | _ => (-1, .null)
    characterstringUtf8Valid := fun _ _ => false
    bactextPropertyNameDefault := fun property =>
      if property = 85 then "present-value".toList else "unknown".toList }

theorem BackupLibrary.unsignedPresentValue_documented :
    BackupLibrary.unsignedPresentValue.Documented where
  objectTypeName := by
    intro objectType
    simp only [unsignedPresentValue, reference]
    split
    · simp
    · simp
  propertyName := by
    intro property
    simp only [unsignedPresentValue]
    split
    · simp
    · simp
  utf8Valid := fun _ _ valid => by contradiction
  number := fun _ _ _ _ _ => isNumber_unsignedText 0
  dataLength := by
    intro bytes
    simp only [unsignedPresentValue]
    split
    · exact Nat.le_of_ble_eq_true rfl
    · exact Nat.zero_le _

/-- A positive integer value created with the present value 5. -/
def presentValueFive : BacnetCreateObjectData where
  objectType := 48
  objectInstance := 1
  applicationDataLen := 6
  applicationData := [0x09, 0x55, 0x2E, 0x21, 0x05, 0x2F]

theorem presentValueFive_valid :
    fileInitialValuesValidate .unsignedPresentValue presentValueFive = 0 := by
  have rest : initialValuesAdvance .unsignedPresentValue [] = true := by
    rw [initialValuesAdvance, if_pos rfl]
  have advances : initialValuesAdvance .unsignedPresentValue presentValueFive.initialValues =
      true := by
    rw [initialValuesAdvance, if_neg (by decide)]
    exact rest
  rw [fileInitialValuesValidate, if_neg (by decide), if_pos advances]

theorem initialPropertyValues_presentValueFive :
    initialPropertyValues .unsignedPresentValue presentValueFive.initialValues =
      [⟨85, 0xFFFFFFFF, [0x21, 0x05], bacnetNoPriority⟩] := by
  have rest : initialPropertyValues .unsignedPresentValue [] = [] := by
    rw [initialPropertyValues, if_pos rfl]
  rw [initialPropertyValues, if_neg (by decide)]
  exact congrArg _ rest

theorem fileJsonCreateObject_wellFormed_presentValue :
    Prints (fileJsonCreateObjectRun .unsignedPresentValue 0 presentValueFive)
        (fileJsonCreateObject .unsignedPresentValue 0 presentValueFive ++ ['\n']) ∧
      ∃ element, ValueText (fileJsonCreateObject .unsignedPresentValue 0 presentValueFive)
          (.object
            [("offset".toList, .number "0".toList), ("object_type".toList, .number "48".toList),
              ("object_type_name".toList, .string "unknown".toList),
              ("object_instance".toList, .number "1".toList),
              ("initial_values".toList, .array [element])]) ∧
        IsInitialValue .unsignedPresentValue ⟨85, 0xFFFFFFFF, [0x21, 0x05], bacnetNoPriority⟩
          element := by
  have printed := fileJsonCreateObject_wellFormed .unsignedPresentValue
    BackupLibrary.unsignedPresentValue_documented 0 presentValueFive (by decide)
    presentValueFive_valid
  rw [initialPropertyValues_presentValueFive] at printed
  rcases printed with ⟨prints, elements, isObject, isValues⟩
  refine ⟨prints, ?_⟩
  cases isValues with
  | @cons _ element _ _ isValue none =>
      cases none
      exact ⟨element, isObject, isValue⟩

end Records

end BacnetZephyr
