import BacnetZephyr.Shell.File.Calls

/-!
# JSON text of decoded records

The text the file shell prints for strings, property values and decoded CreateObject
records. The decoders and name tables of the BACnet library are a parameter.

The printing loops rely on a check of the same data that has passed before: every
decoded length is positive and does not exceed the remaining bytes. A loop stops where
that fails.
-/

namespace BacnetZephyr

open CLib

/-- The decoded values of `BACNET_APPLICATION_DATA_VALUE`; `Double` is the C type. -/
inductive BacnetApplicationDataValue (Double : Type) where
  | null
  | boolean (value : Bool)
  | unsignedInt (value : ℕ)
  | signedInt (value : Int)
  | real (value : Double)
  | double (value : Double)
  | octetString (value : List UInt8)
  | characterString (encoding : UInt8) (value : List UInt8)
  | bitString (bits : List Bool)
  | enumerated (value : UInt32)
  | date (year : UInt16) (month day wday : UInt8)
  | time (hour min sec hundredths : UInt8)
  | objectId (type instanceNumber : UInt32)
  | other (tag : UInt8)

def BacnetApplicationDataValue.tag {Double : Type} : BacnetApplicationDataValue Double → ℕ
  | .null => 0
  | .boolean _ => 1
  | .unsignedInt _ => 2
  | .signedInt _ => 3
  | .real _ => 4
  | .double _ => 5
  | .octetString _ => 6
  | .characterString _ _ => 7
  | .bitString _ => 8
  | .enumerated _ => 9
  | .date _ _ _ _ => 10
  | .time _ _ _ _ => 11
  | .objectId _ _ => 12
  | .other tag => tag.toNat

structure BacnetCreateObjectPropertyValue where
  propertyIdentifier : UInt32
  propertyArrayIndex : UInt32
  applicationData : List UInt8
  priority : UInt8
deriving DecidableEq

/-- `BACNET_CREATE_OBJECT_DATA`; `applicationData` is the whole buffer. -/
structure BacnetCreateObjectData where
  objectType : UInt32
  objectInstance : UInt32
  applicationDataLen : Int
  applicationData : List UInt8
deriving DecidableEq

/-- The decoders and name tables of the BACnet library. -/
structure BackupLibrary where
  Double : Type
  maxApdu : ℕ
  maxApdu_pos : 0 < maxApdu
  /-- `create_object_decode_service_request` on a window. -/
  createObjectDecodeServiceRequest : List UInt8 → Int × BacnetCreateObjectData
  createObjectDecodeInitialValue : List UInt8 → Int × BacnetCreateObjectPropertyValue
  bacappDecodeApplicationData : List UInt8 → Int × BacnetApplicationDataValue Double
  /-- The `BACAPP_` macros of the build, by tag. -/
  bacappDefined : ℕ → Bool
  isfinite : Double → Bool
  isnan : Double → Bool
  isNegative : Double → Bool
  /-- `bacapp_snprintf` with `%.9g` or `%.17g`: the value returned and the text. -/
  bacappSnprintf : ℕ → Bool → Double → Int × CString
  characterstringUtf8Valid : UInt8 → List UInt8 → Bool
  /-- `bactext_object_type_name_default(object_type, "unknown")`. -/
  bactextObjectTypeNameDefault : UInt32 → CString
  bactextObjectTypeName : UInt32 → CString
  /-- `bactext_property_name_default(property, "unknown")`. -/
  bactextPropertyNameDefault : UInt32 → CString

def bacnetNoPriority : UInt8 := 0

def bacnetDateYearEpoch : ℕ := 1900

def uint8Max : ℕ := 255

/-! ## Strings and numbers -/

def fileJsonCharacter (character : UInt8) : CString :=
  if character = 0x22 ∨ character = 0x5c then ['\\', Char.ofNat character.toNat]
  else if character = 0x08 then ['\\', 'b']
  else if character = 0x0c then ['\\', 'f']
  else if character = 0x0a then ['\\', 'n']
  else if character = 0x0d then ['\\', 'r']
  else if character = 0x09 then ['\\', 't']
  else if character < 0x20 then "\\u00".toList ++ hexByte character
  else [Char.ofNat character.toNat]

def fileJsonStringData (value : List UInt8) : CString :=
  "\"".toList ++ value.flatMap fileJsonCharacter ++ "\"".toList

def fileJsonString (value : CString) : CString :=
  fileJsonStringData (value.map fun character => UInt8.ofNat character.toNat)

def fileJsonHex (value : List UInt8) : CString := "\"".toList ++ hexText value ++ "\"".toList

def fileJsonUnsignedOrNull (value unspecified : ℕ) : CString :=
  if value = unspecified then "null".toList else unsignedText value

def commaSeparated (items : List CString) : CString := List.intercalate ",".toList items

/-! ## Property values -/

section Values

variable (library : BackupLibrary)

def fileJsonReal (type : CString) (value : library.Double) (isSingle : Bool) : CString :=
  if library.isfinite value = false then
    "\x7b\"type\":\"".toList ++ type ++ "\",\"value\":null,\"special\":".toList ++
      fileJsonString
        (if library.isnan value then "nan".toList
         else if library.isNegative value then "-infinity".toList
         else "infinity".toList) ++
      "\x7d".toList
  else
    let (length, number) := library.bacappSnprintf 48 isSingle value
    if length < 0 ∨ 48 ≤ length then
      "\x7b\"type\":\"".toList ++ type ++ "\",\"value\":null\x7d".toList
    else
      "\x7b\"type\":\"".toList ++ type ++ "\",\"value\":".toList ++ number ++ "\x7d".toList

def fileJsonApplicationValue (value : BacnetApplicationDataValue library.Double) : CString :=
  if library.bacappDefined value.tag = false then
    "\x7b\"type\":\"unsupported\",\"tag\":".toList ++ unsignedText value.tag ++ "\x7d".toList
  else
    match value with
    | .null => "\x7b\"type\":\"null\",\"value\":null\x7d".toList
    | .boolean value =>
        "\x7b\"type\":\"boolean\",\"value\":".toList ++
          (if value then "true" else "false").toList ++ "\x7d".toList
    | .unsignedInt value =>
        "\x7b\"type\":\"unsigned\",\"value\":".toList ++ unsignedText value ++ "\x7d".toList
    | .signedInt value =>
        "\x7b\"type\":\"signed\",\"value\":".toList ++
          (if value < 0 then "-".toList else []) ++ unsignedText value.natAbs ++ "\x7d".toList
    | .real value => fileJsonReal library "real".toList value true
    | .double value => fileJsonReal library "double".toList value false
    | .octetString value =>
        "\x7b\"type\":\"octet-string\",\"value_hex\":".toList ++ fileJsonHex value ++ "\x7d".toList
    | .characterString encoding value =>
        "\x7b\"type\":\"character-string\",\"encoding\":".toList ++
          unsignedText encoding.toNat ++ ",".toList ++
          (if library.characterstringUtf8Valid encoding value then
             "\"value\":".toList ++ fileJsonStringData value
           else "\"value_hex\":".toList ++ fileJsonHex value) ++
          "\x7d".toList
    | .bitString bits =>
        "\x7b\"type\":\"bit-string\",\"bits\":\"".toList ++
          bits.map (fun bit => if bit then '1' else '0') ++ "\"\x7d".toList
    | .enumerated value =>
        "\x7b\"type\":\"enumerated\",\"value\":".toList ++ unsignedText value.toNat ++
          "\x7d".toList
    | .date year month day wday =>
        "\x7b\"type\":\"date\",\"year\":".toList ++
          fileJsonUnsignedOrNull year.toNat (bacnetDateYearEpoch + uint8Max) ++
          ",\"month\":".toList ++ fileJsonUnsignedOrNull month.toNat uint8Max ++
          ",\"day\":".toList ++ fileJsonUnsignedOrNull day.toNat uint8Max ++
          ",\"weekday\":".toList ++ fileJsonUnsignedOrNull wday.toNat uint8Max ++ "\x7d".toList
    | .time hour min sec hundredths =>
        "\x7b\"type\":\"time\",\"hour\":".toList ++ fileJsonUnsignedOrNull hour.toNat uint8Max ++
          ",\"minute\":".toList ++ fileJsonUnsignedOrNull min.toNat uint8Max ++
          ",\"second\":".toList ++ fileJsonUnsignedOrNull sec.toNat uint8Max ++
          ",\"hundredths\":".toList ++ fileJsonUnsignedOrNull hundredths.toNat uint8Max ++
          "\x7d".toList
    | .objectId type instanceNumber =>
        "\x7b\"type\":\"object-identifier\",\"object_type\":".toList ++ unsignedText type.toNat ++
          ",\"object_type_name\":".toList ++
          fileJsonString (library.bactextObjectTypeNameDefault type) ++
          ",\"instance\":".toList ++ unsignedText instanceNumber.toNat ++ "\x7d".toList
    | .other tag =>
        "\x7b\"type\":\"unsupported\",\"tag\":".toList ++ unsignedText tag.toNat ++ "\x7d".toList

/-- The decoded length moves forward and stays inside the remaining bytes. -/
def Advances (decodedLen : Int) (remaining : List UInt8) : Prop :=
  0 < decodedLen ∧ decodedLen ≤ remaining.length

instance (decodedLen : Int) (remaining : List UInt8) : Decidable (Advances decodedLen remaining) :=
  inferInstanceAs (Decidable (_ ∧ _))

theorem Advances.length_drop_lt {decodedLen : Int} {remaining : List UInt8}
    (advances : Advances decodedLen remaining) :
    (remaining.drop decodedLen.toNat).length < remaining.length := by
  rcases advances with ⟨positive, inside⟩
  rw [List.length_drop]
  omega

theorem Advances.toNat_pos {decodedLen : Int} {remaining : List UInt8}
    (advances : Advances decodedLen remaining) : 0 < decodedLen.toNat := by
  have := advances.1
  omega

def fileApplicationDataIsPrimitive (data : List UInt8) : Bool :=
  if data = [] then true
  else
    let decodedLen := (library.bacappDecodeApplicationData data).1
    if Advances decodedLen data then
      fileApplicationDataIsPrimitive (data.drop decodedLen.toNat)
    else false
termination_by data.length
decreasing_by exact Advances.length_drop_lt ‹_›

/-- The values the printing loop of `file_json_application_values` decodes. -/
def applicationValues (data : List UInt8) : List (BacnetApplicationDataValue library.Double) :=
  if data = [] then []
  else
    let (decodedLen, value) := library.bacappDecodeApplicationData data
    if Advances decodedLen data then value :: applicationValues (data.drop decodedLen.toNat)
    else []
termination_by data.length
decreasing_by exact Advances.length_drop_lt ‹_›

def fileJsonApplicationValues (data : List UInt8) : CString :=
  if fileApplicationDataIsPrimitive library data = false then
    "[\x7b\"type\":\"encoded\",\"data_hex\":".toList ++ fileJsonHex data ++ "\x7d]".toList
  else
    "[".toList ++
      commaSeparated ((applicationValues library data).map (fileJsonApplicationValue library)) ++
      "]".toList

/-! ## Records -/

def BacnetCreateObjectData.initialValues (data : BacnetCreateObjectData) : List UInt8 :=
  data.applicationData.take data.applicationDataLen.toNat

/-- The loop of `file_initial_values_validate`. -/
def initialValuesAdvance (data : List UInt8) : Bool :=
  if data = [] then true
  else
    let decodedLen := (library.createObjectDecodeInitialValue data).1
    if Advances decodedLen data then initialValuesAdvance (data.drop decodedLen.toNat)
    else false
termination_by data.length
decreasing_by exact Advances.length_drop_lt ‹_›

def fileInitialValuesValidate (data : BacnetCreateObjectData) : Int :=
  if data.applicationDataLen < 0 ∨ data.applicationData.length < data.applicationDataLen then
    -Errno.ebadmsg
  else if initialValuesAdvance library data.initialValues then 0
  else -Errno.ebadmsg

def fileJsonInitialValue (value : BacnetCreateObjectPropertyValue) : CString :=
  "\x7b\"property_identifier\":".toList ++ unsignedText value.propertyIdentifier.toNat ++
    ",\"property_name\":".toList ++
    fileJsonString (library.bactextPropertyNameDefault value.propertyIdentifier) ++
    ",\"array_index\":".toList ++
    (if value.propertyArrayIndex = 0xFFFFFFFF then "null".toList
     else unsignedText value.propertyArrayIndex.toNat) ++
    ",\"priority\":".toList ++
    (if value.priority = bacnetNoPriority then "null".toList
     else unsignedText value.priority.toNat) ++
    ",\"value\":".toList ++ fileJsonApplicationValues library value.applicationData ++
    "\x7d".toList

/-- The values the printing loop of `file_json_initial_values` decodes. -/
def initialPropertyValues (data : List UInt8) : List BacnetCreateObjectPropertyValue :=
  if data = [] then []
  else
    let (decodedLen, value) := library.createObjectDecodeInitialValue data
    if Advances decodedLen data then value :: initialPropertyValues (data.drop decodedLen.toNat)
    else []
termination_by data.length
decreasing_by exact Advances.length_drop_lt ‹_›

def fileJsonInitialValues (data : BacnetCreateObjectData) : CString :=
  "[".toList ++
    commaSeparated
      ((initialPropertyValues library data.initialValues).map (fileJsonInitialValue library)) ++
    "]".toList

/-- `file_json_create_object`, without its line end. -/
def fileJsonCreateObject (offset : ℕ) (data : BacnetCreateObjectData) : CString :=
  "\x7b\"offset\":".toList ++ unsignedText offset ++ ",\"object_type\":".toList ++
    unsignedText data.objectType.toNat ++ ",\"object_type_name\":".toList ++
    fileJsonString (library.bactextObjectTypeNameDefault data.objectType) ++
    ",\"object_instance\":".toList ++ unsignedText data.objectInstance.toNat ++
    ",\"initial_values\":".toList ++ fileJsonInitialValues library data ++ "\x7d".toList

end Values

end BacnetZephyr
