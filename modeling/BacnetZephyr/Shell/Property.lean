import BacnetZephyr.Foundation.JsonText

/-!
# Printing the properties of an object

The functions that print what is read of the properties of an object as JSON. What
reading a property gives, and the names and texts of the stack library, are parameters.
-/

namespace BacnetZephyr

open CLib JsonText

/-- `BACNET_READ_PROPERTY_DATA`, the part that says what is read. -/
structure BacnetReadPropertyData where
  objectType : UInt16
  objectInstance : UInt32
  objectProperty : UInt32
  arrayIndex : UInt32

/-- The functions of the stack library that names and values are printed with. -/
structure PropertyLibrary (Value : Type) where
  propertyName : UInt32 → CString
  propertyNameDefault : UInt32 → Option CString
  objectTypeName : UInt16 → CString
  errorClassNameDefault : UInt32 → Option CString
  errorCodeNameDefault : UInt32 → Option CString
  /-- `bacnet_snprintf_to_ascii` with the format `%s`. -/
  snprintfToAscii : (size : ℕ) → CString → CString
  ultoa : (value size : ℕ) → CString
  valueListInit : Value
  /-- The number of bytes decoded, and the value after it. -/
  decodeKnownArrayProperty : BacnetReadPropertyData → List UInt8 → Value → ℤ × Value
  decode_le : ∀ rpdata apdu value,
    (decodeKnownArrayProperty rpdata apdu value).1 ≤ apdu.length
  /-- The length and the text of a value. -/
  snprintfValue : BacnetReadPropertyData → Value → ℤ × CString

/-- What `Device_Read_Property` leaves in its argument. -/
inductive PropertyOutcome where
  | error (errorClass errorCode : UInt32)
  | success (applicationData : List UInt8)

/-- A property of a list, and what reading it gives. -/
structure PropertyRead where
  property : UInt32
  outcome : PropertyOutcome

/-- `special_property_list_t`. -/
structure SpecialPropertyList where
  required : List PropertyRead
  optional : List PropertyRead
  proprietary : List PropertyRead

def propObjectIdentifier : UInt32 := 75
def propPropertyList : UInt32 := 371

/-- The loop of `cmd_json_is_quoted`, from the end of the text to its beginning. -/
def jsonDigitsOnly : (reversed : CString) → (decimalPoints : ℕ) → (digitsOnly : Bool) → Bool
  | [], _, digitsOnly => digitsOnly
  | digit :: before, decimalPoints, digitsOnly =>
      if digit.isDigit then jsonDigitsOnly before decimalPoints digitsOnly
      else if before = [] ∧ digit = '-' then jsonDigitsOnly before decimalPoints digitsOnly
      else if digit = '.' then
        jsonDigitsOnly before (decimalPoints + 1) (digitsOnly && decimalPoints + 1 ≤ 1)
      else jsonDigitsOnly before decimalPoints false

def cmdJsonIsQuoted (value : CString) : Bool :=
  if value = "true".toList ∨ value = "false".toList ∨ value = "null".toList then false
  else if value = [] then true
  else if value.head? = some '"' then false
  else !jsonDigitsOnly value.reverse 0 true

/-- The quotation marks around a value. -/
def isquoted (value : CString) : CString := if cmdJsonIsQuoted value then ['"'] else []

/-- `"%s": ` and what follows it. -/
def keyText (key rest : CString) : CString := '"' :: (key ++ '"' :: ':' :: ' ' :: rest)

/-- `%s%s%s` with the quotation marks, and what follows it. -/
def quotedText (value rest : CString) : CString :=
  isquoted value ++ (value ++ (isquoted value ++ rest))

def cmdJsonPrintKeyValue (prefixText key value suffix append : CString) : CString :=
  prefixText ++ '\x7b' :: keyText key (quotedText value ('\x7d' :: (suffix ++ (append ++ ['\n']))))

def cmdJsonPrintListValue (key value : CString) (firstValue lastValue : Bool)
    (append : CString) : CString :=
  (if firstValue then '\x7b' :: keyText key ['[', '\n'] else []) ++
    (quotedText value [if lastValue then ']' else ',', '\n'] ++
      if lastValue then '\x7d' :: (append ++ ['\n']) else [])

def cmdJsonPrintHexDump (prefixText key : CString) (buffer : List UInt8)
    (suffix append : CString) : CString :=
  cmdJsonPrintKeyValue prefixText key (hexText buffer) suffix append

def cmdJsonPrintKeyError (key errorClass errorCode append : CString) : CString :=
  '\x7b' :: keyText key ('\x7b' :: keyText "error-class".toList
    (errorClass ++ ',' :: ' ' :: keyText "error-code".toList
      (errorCode ++ '\x7d' :: '\x7d' :: (append ++ ['\n']))))

section Printing

variable {Value : Type} (library : PropertyLibrary Value)

def bactextName (name : Option CString) (value size : ℕ) : CString :=
  match name with
  | some name => library.snprintfToAscii size name
  | none => library.ultoa value size

/-- The name of the property that is printed as its key. -/
def propertyKey (property : UInt32) : CString :=
  bactextName library (library.propertyNameDefault property) property.toNat 80

/-- The loop of `cmd_value_print` over the values that follow one another. -/
def cmdValuePrintLoop (rpdata : BacnetReadPropertyData) (skipPrint : Bool)
    (propertyName append : CString) (firstValue listValue : Bool) (apdu : List UInt8)
    (value : Value) : CString :=
  match library.decodeKnownArrayProperty rpdata apdu value with
  | (len, value) =>
      if len < 0 then cmdJsonPrintHexDump [] propertyName apdu [] append
      else
        let listValue := listValue || (firstValue && 0 < len && len < apdu.length)
        let lastValue : Bool := apdu.length ≤ len
        let text := library.snprintfValue rpdata value
        let printed :=
          if skipPrint then []
          else if 0 < text.1 then
            if listValue then
              cmdJsonPrintListValue propertyName text.2 firstValue lastValue append
            else cmdJsonPrintKeyValue [] propertyName text.2 [] append
          else cmdJsonPrintHexDump [] propertyName (apdu.take len.toNat) [] append
        if _more : 0 < len ∧ len < apdu.length then
          printed ++ cmdValuePrintLoop rpdata skipPrint propertyName append false listValue
            (apdu.drop len.toNat) value
        else printed
termination_by apdu.length
decreasing_by
  rw [List.length_drop]
  omega

def cmdValuePrint (rpdata : BacnetReadPropertyData) (value : Value) (outcome : PropertyOutcome)
    (skipPrint : Bool) (append : CString) : CString :=
  let propertyName := propertyKey library rpdata.objectProperty
  match outcome with
  | .error errorClass errorCode =>
      cmdJsonPrintKeyError propertyName
        (bactextName library (library.errorClassNameDefault errorClass) errorClass.toNat 80)
        (bactextName library (library.errorCodeNameDefault errorCode) errorCode.toNat 80) append
  | .success [] => cmdJsonPrintKeyValue [] propertyName "null".toList [] append
  | .success apdu =>
      cmdValuePrintLoop library rpdata skipPrint propertyName append true false apdu value

/-- What the loops of `cmd_print_value_all` share, and the text so far. -/
structure PropertyPrinting where
  counter : ℕ
  append : CString
  printed : CString

/-- One round of a loop of `cmd_print_value_all`. -/
def printProperty (rpdata : BacnetReadPropertyData) (count : ℕ) (printing : PropertyPrinting)
    (read : PropertyRead) : PropertyPrinting :=
  let counter := printing.counter + 1
  let append := if counter = count then [']', ','] else printing.append
  { counter
    append
    printed := printing.printed ++ cmdValuePrint library
      { rpdata with objectProperty := read.property } library.valueListInit read.outcome false
      append }

/-- The text that is printed for all properties of an object. -/
def cmdPrintValueAll (rpdata : BacnetReadPropertyData) (lists : SpecialPropertyList) : CString :=
  let count := lists.required.length + lists.optional.length + lists.proprietary.length
  let required := lists.required.foldl (printProperty library rpdata count) ⟨0, [','], []⟩
  let optional := lists.optional.foldl (printProperty library rpdata count) required
  let proprietary := lists.proprietary.foldl (printProperty library rpdata count) optional
  '\x7b' :: '"' :: (library.propertyName propObjectIdentifier ++ '"' :: ':' :: '"' :: '(' ::
    (library.objectTypeName rpdata.objectType ++ ':' ::
      (unsignedText rpdata.objectInstance.toNat ++ ')' :: '"' :: ',' :: '\n' ::
        keyText (library.propertyName propPropertyList) ('[' :: '\n' ::
          (proprietary.printed ++ keyText "property-list-size".toList
            (unsignedText count ++ ['\x7d', '\n']))))))

end Printing

end BacnetZephyr
