import BacnetZephyr.Foundation.Numeral
import BacnetZephyr.Shell.LightingOutput
import BacnetZephyr.Shell.PropertyJson

/-!
# Writing a property

`cmd_value` of the property shell shows a property, or converts a text and writes the
value. For a commandable property the text may end in a priority behind `@`, and a text
that begins with `NULL` writes a NULL, whatever follows.

`cmdPropertyValue_writesNamed` says that the command writes once at most, and only to what its
arguments name. Everything else that it does is `PrintsOnly`.
-/

namespace BacnetZephyr

open CLib Procedure

/-- `BACNET_WRITE_PROPERTY_DATA`, the part that the command fills in. -/
structure PropertyWriteData extends BacnetReadPropertyData where
  priority : ℤ
  applicationData : List UInt8

/-- The functions of the stack library that the command calls. -/
structure PropertyDevice (Library Value : Type) extends PropertyLibrary Value where
  commandableMember : UInt16 → UInt32 → Bool
  /-- The properties of an object, and what reading them gives. -/
  propertyLists : UInt16 → UInt32 → Library → SpecialPropertyList
  readProperty : BacnetReadPropertyData → Library → PropertyOutcome
  /-- Success, or the error class and code. -/
  writeProperty : PropertyWriteData → Library → Option (UInt32 × UInt32) × Library
  knownPropertyTag : UInt16 → UInt32 → UInt8
  tag : Value → UInt8
  withTag : UInt8 → Value → Value
  /-- The value with the tag of an enumeration. -/
  withEnumerated : UInt32 → Value → Value
  applicationTagStrtol : CString → Option UInt32
  objectPropertyStrtoul : UInt16 → UInt32 → CString → Option UInt32
  parseApplicationData : ℤ → CString → Value → Bool × Value
  encodeData : Value → List UInt8
  errorClassName : UInt32 → CString
  errorCodeName : UInt32 → CString
  applicationTagName : UInt8 → CString
  maxApdu : ℕ

def errorCodeInvalidArrayIndex : UInt32 := 42
def errorClassProperty : UInt32 := 2
def errorCodeUnexpectedData : UInt32 := 31
def maxBacnetPropertyId : UInt32 := 4194303

/-- `BACNET_APPLICATION_TAG_NULL` and `BACNET_APPLICATION_TAG_ENUMERATED`. -/
def nullTag : UInt8 := 0
def enumeratedTag : UInt8 := 9

def beforeAt (text : CString) : CString := text.takeWhile fun character => character ≠ '@'

/-- The priority behind the first `@`; `BACNET_NO_PRIORITY` if there is none in range. -/
def priorityAfterAt (platform : StoragePlatform) (text : CString) : ℤ :=
  match text.dropWhile fun character => character ≠ '@' with
  | [] => 0
  | _ :: rest =>
      let priority := (strtol platform.ulongBits rest).1
      if priority < 1 ∨ 16 < priority then 0 else priority

def cmdJsonPrintPropertyValueTag (property : CString) (arrayIndex : UInt32) (priority : ℤ)
    (tagName value : CString) (success : Bool) (append : CString) : CString :=
  '\x7b' :: keyText property ('\x7b' :: keyText "array-index".toList
    (unsignedText arrayIndex.toNat ++ ',' :: ' ' :: keyText "priority".toList
      (unsignedText priority.toNat ++ ',' :: ' ' :: keyText "value-tag".toList
        ('"' :: (tagName ++ '"' :: ',' :: ' ' :: keyText "value".toList
          ('"' :: (value ++ '"' :: ',' :: ' ' :: keyText "success".toList
            ((if success then "true" else "false").toList ++
              '\x7d' :: '\x7d' :: (append ++ ['\n'])))))))))

section Definitions

variable {Library Value : Type} (platform : StoragePlatform) (bactext : BacnetText)
  (device : PropertyDevice Library Value)

/-- The value after `cmd_value_print`. -/
def valuePrinted (rpdata : BacnetReadPropertyData) (value : Value) : PropertyOutcome → Value
  | .error _ _ => value
  | .success [] =>
      device.withTag (device.knownPropertyTag rpdata.objectType rpdata.objectProperty) value
  | .success apdu => (decodedValues device.toPropertyLibrary rpdata apdu value).2.value

/-- The conversion of a text to the type of a tag argument or of the value that was read. -/
def parseValueString (objectType : UInt16) (objectProperty : UInt32) (tagString : Option CString)
    (valueString : CString) (value : Value) : Bool × Value :=
  match tagString with
  | some tagText =>
      let propertyTag : ℤ :=
        match device.applicationTagStrtol tagText with
        | some foundIndex => foundIndex.toNat
        | none => (strtol platform.ulongBits tagText).1
      device.parseApplicationData propertyTag valueString value
  | none =>
      if device.tag value = enumeratedTag then
        match device.objectPropertyStrtoul objectType objectProperty valueString with
        | some foundIndex => (true, device.withEnumerated foundIndex value)
        | none => (false, value)
      else device.parseApplicationData (device.tag value).toNat valueString value

/-- The status and the value for a text without a priority. -/
def convertValueString (objectType : UInt16) (objectProperty : UInt32)
    (tagString : Option CString) (valueString : CString) (value : Value) : Bool × Value :=
  if device.commandableMember objectType objectProperty ∧
      startsWithWord "NULL".toList valueString then
    (true, device.withTag nullTag value)
  else parseValueString platform device objectType objectProperty tagString valueString value

/-- Write a value that is converted, or show that it is not. -/
def writeConverted (rpdata : BacnetReadPropertyData) (arrayIndex : UInt32) (priority : ℤ)
    (valueString : CString) (converted : Bool × Value) : ShellProcedure Library Int Int := do
  let (status, value) := converted
  let propertyName := propertyKey device.toPropertyLibrary rpdata.objectProperty
  if status then
    let apdu := device.encodeData value
    if apdu ≠ [] then
      let written ← ask fun state => device.writeProperty
        { rpdata with arrayIndex, priority, applicationData := apdu.take device.maxApdu }
        state.library
      update fun _ => written.2
      match written.1 with
      | none =>
          emit (.shellPrint "%s" [cmdJsonPrintPropertyValueTag propertyName arrayIndex priority
            (device.applicationTagName (device.tag value)) valueString true []])
          return 0
      | some (errorClass, errorCode) =>
          emit (.shellPrint "%s" [cmdJsonPrintKeyError propertyName
            (device.errorClassName errorClass) (device.errorCodeName errorCode) []])
          return 0
    else
      emit (.shellPrint "%s" [cmdJsonPrintKeyError propertyName
        (device.errorClassName errorClassProperty)
        (device.errorCodeName errorCodeUnexpectedData) []])
      return 0
  else
    emit (.shellPrint "%s" [cmdJsonPrintPropertyValueTag propertyName arrayIndex priority
      (device.applicationTagName (device.tag value)) valueString false []])
    return 0

/-- The rest of `cmd_value` after the property is read. -/
def cmdPropertyWrite (rpdata : BacnetReadPropertyData) (arrayIndex : UInt32)
    (tagString : Option CString) (valueString : CString) (value : Value) :
    ShellProcedure Library Int Int :=
  let commandable := device.commandableMember rpdata.objectType rpdata.objectProperty
  let priority := if commandable then priorityAfterAt platform valueString else 0
  let valueString := if commandable then beforeAt valueString else valueString
  writeConverted device rpdata arrayIndex priority valueString
    (convertValueString platform device rpdata.objectType rpdata.objectProperty tagString
      valueString value)

/-- What is read, at the first element where the array index does not exist yet. -/
def readBeforeWrite (rpdata : BacnetReadPropertyData) (library : Library) :
    BacnetReadPropertyData × PropertyOutcome :=
  match device.readProperty rpdata library with
  | .error errorClass errorCode =>
      if rpdata.arrayIndex ≠ bacnetArrayAll ∧ rpdata.arrayIndex ≠ 1 ∧
          errorCode = errorCodeInvalidArrayIndex then
        ({ rpdata with arrayIndex := 1 },
          device.readProperty { rpdata with arrayIndex := 1 } library)
      else (rpdata, .error errorClass errorCode)
  | outcome => (rpdata, outcome)

/-- `cmd_value` of the property shell. -/
def cmdPropertyValue (argv : List CString) : ShellProcedure Library Int Int := do
  let unset : ObjectArguments := ⟨0, 0, maxBacnetPropertyId, bacnetArrayAll⟩
  if argv.length = 2 ∨ argv.length = 3 then
    let (err, object) ← call (bacnetShellObjectTypeInstanceParse bactext argv unset)
    if err = 0 then
      let rpdata : BacnetReadPropertyData :=
        ⟨object.objectType, object.objectInstance, object.propertyId, object.arrayIndex⟩
      let lists ← query (device.propertyLists object.objectType object.objectInstance)
      emit (.shellPrint "%s" [cmdPrintValueAll device.toPropertyLibrary rpdata lists])
      return 0
    else throw err
  else if 3 < argv.length then
    let (err, object) ← call (bacnetShellPropertyParse platform bactext argv unset)
    if err ≠ 0 then throw err
    else
      let rpdata : BacnetReadPropertyData :=
        ⟨object.objectType, object.objectInstance, object.propertyId, object.arrayIndex⟩
      if 5 < argv.length then
        let valueString ← argument argv 4
        let tagString ← argument argv 5
        cmdPropertyWrite platform device rpdata object.arrayIndex (some tagString) valueString
          device.valueListInit
      else if 4 < argv.length then
        let valueString ← argument argv 4
        let (rpdata, outcome) ← query (readBeforeWrite device rpdata)
        emit (.shellPrint "%s" [cmdValuePrint device.toPropertyLibrary rpdata device.valueListInit
          outcome true []])
        match outcome with
        | .error _ _ => throw (-Errno.einval)
        | .success _ =>
            cmdPropertyWrite platform device rpdata object.arrayIndex none valueString
              (valuePrinted device rpdata device.valueListInit outcome)
      else
        let outcome ← query (device.readProperty rpdata)
        emit (.shellPrint "%s" [cmdValuePrint device.toPropertyLibrary rpdata device.valueListInit
          outcome false []])
        return 0
  else fail .shellHelp (-Errno.einval)

end Definitions

/-! ## One write at most -/

section PrintsOnly

variable {Library Return α β : Type} {argv : List CString}

/-- The library is as before. -/
def SameLibrary (before after : ShellState Library) : Prop := after.library = before.library

theorem SameLibrary.refl (state : ShellState Library) : SameLibrary state state := rfl

/-- The procedure prints only. -/
def PrintsOnly (procedure : ShellProcedure Library Return α) : Prop :=
  MovesAlong SameLibrary procedure

theorem printsOnly_pure (value : α) :
    PrintsOnly (pure value : ShellProcedure Library Return α) :=
  MovesAlong.pure SameLibrary.refl value

theorem printsOnly_throw (result : Return) :
    PrintsOnly (throw result : ShellProcedure Library Return α) :=
  MovesAlong.throw SameLibrary.refl result

theorem printsOnly_emit (output : ShellOutput) :
    PrintsOnly (emit output : ShellProcedure Library Return Unit) :=
  MovesAlong.modifyState fun _ => rfl

theorem printsOnly_query (question : Library → α) :
    PrintsOnly (query question : ShellProcedure Library Return α) :=
  MovesAlong.ask SameLibrary.refl _

theorem PrintsOnly.bind {procedure : ShellProcedure Library Return α}
    {next : α → ShellProcedure Library Return β} (first : PrintsOnly procedure)
    (rest : ∀ value, PrintsOnly (next value)) : PrintsOnly (procedure >>= next) :=
  MovesAlong.bind (fun _ _ _ front back => back.trans front) first fun value _ => rest value

theorem printsOnly_fail (output : ShellOutput) (result : Return) :
    PrintsOnly (fail output result : ShellProcedure Library Return α) :=
  (printsOnly_emit output).bind fun _ => printsOnly_throw result

theorem printsOnly_argument (index : ℕ) :
    PrintsOnly (argument argv index : ShellProcedure Library Return CString) := by
  rw [argument]
  split
  · exact printsOnly_pure _
  · exact MovesAlong.fault _

theorem printsOnly_storeText (size : ℕ) (characters : CString) :
    PrintsOnly (storeText size characters : ShellProcedure Library Return CString) := by
  rw [storeText]
  split
  · exact printsOnly_pure _
  · exact MovesAlong.fault _

theorem printsOnly_bacnetShellObjectTypeInstanceParse (bactext : BacnetText)
    (out : ObjectArguments) :
    PrintsOnly (bacnetShellObjectTypeInstanceParse bactext argv out :
      ShellProcedure Library Parsed Parsed) := by
  unfold bacnetShellObjectTypeInstanceParse
  split
  · exact printsOnly_fail _ _
  · apply (printsOnly_argument 1).bind
    intro typeText
    split
    · split
      · exact printsOnly_fail _ _
      · dsimp only
        split
        · exact printsOnly_pure _
        · split
          · apply (printsOnly_argument 2).bind
            intro instanceText
            split
            · exact printsOnly_pure _
            · exact printsOnly_fail _ _
          · exact printsOnly_fail _ _
    · exact printsOnly_fail _ _

theorem printsOnly_bacnetShellPropertyParse (platform : StoragePlatform) (bactext : BacnetText)
    (out : ObjectArguments) :
    PrintsOnly (bacnetShellPropertyParse platform bactext argv out :
      ShellProcedure Library Parsed Parsed) := by
  unfold bacnetShellPropertyParse
  dsimp only
  split
  · exact (printsOnly_argument 0).bind fun _ => printsOnly_fail _ _
  · apply PrintsOnly.bind
      (MovesAlong.call (printsOnly_bacnetShellObjectTypeInstanceParse bactext _))
    rintro ⟨err, out⟩
    dsimp only
    split
    · exact printsOnly_throw _
    · apply (printsOnly_argument 3).bind
      intro propertyText
      split
      · split
        · apply (printsOnly_storeText 80 _).bind
          intro name
          split
          · exact printsOnly_pure _
          · exact printsOnly_fail _ _
        · exact printsOnly_fail _ _
      · split
        · split
          · exact printsOnly_fail _ _
          · exact printsOnly_pure _
        · exact printsOnly_fail _ _

end PrintsOnly

section Writes

variable {Library Value : Type} {platform : StoragePlatform} {bactext : BacnetText}
  {device : PropertyDevice Library Value} {argv : List CString}

/-- A request with a legal priority or none, for data that fits, at what the arguments name. -/
structure IsRequest (device : PropertyDevice Library Value) (object : ObjectArguments)
    (wpData : PropertyWriteData) : Prop where
  target : wpData.toBacnetReadPropertyData =
    ⟨object.objectType, object.objectInstance, object.propertyId, object.arrayIndex⟩
  priority : 0 ≤ wpData.priority ∧ wpData.priority ≤ 16
  commandable : device.commandableMember object.objectType object.propertyId = false →
    wpData.priority = 0
  fits : wpData.applicationData.length ≤ device.maxApdu

/-- The library is as before, or as one write of a request at the object left it. -/
def WritesOnce (device : PropertyDevice Library Value) (object : ObjectArguments)
    (before after : ShellState Library) : Prop :=
  after.library = before.library ∨ ∃ wpData, IsRequest device object wpData ∧
    after.library = (device.writeProperty wpData before.library).2

theorem priorityAfterAt_range (platform : StoragePlatform) (text : CString) :
    0 ≤ priorityAfterAt platform text ∧ priorityAfterAt platform text ≤ 16 := by
  rw [priorityAfterAt]
  split
  · decide
  · dsimp only
    split
    · decide
    · rename_i inRange
      omega

variable {object : ObjectArguments}

theorem SameLibrary.writesOnce {first last : ShellState Library} (same : SameLibrary first last) :
    WritesOnce device object first last :=
  Or.inl same

theorem WritesOnce.after_same {first middle last : ShellState Library}
    (same : SameLibrary first middle) (once : WritesOnce device object middle last) :
    WritesOnce device object first last := by
  rw [WritesOnce, same] at once
  exact once

theorem PrintsOnly.writesOnce {α : Type} {procedure : ShellProcedure Library Int α}
    (prints : PrintsOnly procedure) : MovesAlong (WritesOnce device object) procedure :=
  fun state outcome after ok => Or.inl (prints state outcome after ok)

/-- What only prints may come before the write. -/
theorem PrintsOnly.bind_writesOnce {α : Type} {procedure : ShellProcedure Library Int α}
    {next : α → ShellProcedure Library Int Int} (first : PrintsOnly procedure)
    (rest : ∀ value, MovesAlong (WritesOnce device object) (next value)) :
    MovesAlong (WritesOnce device object) (procedure >>= next) :=
  MovesAlong.bind_absorbed (fun _ _ => SameLibrary.writesOnce)
    (fun _ _ _ => WritesOnce.after_same) first fun value _ => rest value

/-- The write itself, after which the command prints only. -/
theorem writesOnce_write {wpData : PropertyWriteData} (request : IsRequest device object wpData)
    {next : Option (UInt32 × UInt32) × Library → ShellProcedure Library Int Int}
    (prints : ∀ written, PrintsOnly (next written)) :
    MovesAlong (WritesOnce device object) (do
      let written ← ask fun state => device.writeProperty wpData state.library
      update fun _ => written.2
      next written) := by
  intro state outcome after ok
  have same := prints (device.writeProperty wpData state.library)
    { state with library := (device.writeProperty wpData state.library).2 } outcome after ok
  exact Or.inr ⟨wpData, request, same⟩

theorem writesOnce_writeConverted {rpdata : BacnetReadPropertyData} {priority : ℤ}
    (objectType : rpdata.objectType = object.objectType)
    (objectInstance : rpdata.objectInstance = object.objectInstance)
    (objectProperty : rpdata.objectProperty = object.propertyId)
    (range : 0 ≤ priority ∧ priority ≤ 16)
    (commandable : device.commandableMember object.objectType object.propertyId = false →
      priority = 0)
    (valueString : CString) (converted : Bool × Value) :
    MovesAlong (WritesOnce device object)
      (writeConverted device rpdata object.arrayIndex priority valueString converted) := by
  rcases converted with ⟨status, value⟩
  simp only [writeConverted]
  split
  · split
    · apply writesOnce_write
      · exact
          { target := by rw [← objectType, ← objectInstance, ← objectProperty]
            priority := range
            commandable
            fits := List.length_take_le _ _ }
      · intro written
        split
        · exact (printsOnly_emit _).bind fun _ => printsOnly_pure _
        · exact (printsOnly_emit _).bind fun _ => printsOnly_pure _
    · exact ((printsOnly_emit _).bind fun _ => printsOnly_pure _).writesOnce
  · exact ((printsOnly_emit _).bind fun _ => printsOnly_pure _).writesOnce

theorem writesOnce_cmdPropertyWrite {rpdata : BacnetReadPropertyData}
    (objectType : rpdata.objectType = object.objectType)
    (objectInstance : rpdata.objectInstance = object.objectInstance)
    (objectProperty : rpdata.objectProperty = object.propertyId)
    (tagString : Option CString) (valueString : CString) (value : Value) :
    MovesAlong (WritesOnce device object) (cmdPropertyWrite platform device rpdata
      object.arrayIndex tagString valueString value) := by
  rw [cmdPropertyWrite]
  apply writesOnce_writeConverted objectType objectInstance objectProperty
  · split
    · exact priorityAfterAt_range platform valueString
    · decide
  · intro other
    rw [objectType, objectProperty, other]
    rfl

/-- What is read before the write is at the object, whatever its array index. -/
theorem readBeforeWrite_target {rpdata read : BacnetReadPropertyData} {library : Library}
    {outcome : PropertyOutcome} (same : readBeforeWrite device rpdata library = (read, outcome)) :
    read.objectType = rpdata.objectType ∧ read.objectInstance = rpdata.objectInstance ∧
      read.objectProperty = rpdata.objectProperty := by
  rw [readBeforeWrite] at same
  split at same
  · split at same
    · cases same
      exact ⟨rfl, rfl, rfl⟩
    · cases same
      exact ⟨rfl, rfl, rfl⟩
  · cases same
    exact ⟨rfl, rfl, rfl⟩

/-- The parser makes the object, the property and the array index of the arguments. -/
def Names (platform : StoragePlatform) (bactext : BacnetText) (argv : List CString)
    (state : ShellState Library) (object : ObjectArguments) : Prop :=
  ∃ after, eval (call (bacnetShellPropertyParse platform bactext argv
      ⟨0, 0, maxBacnetPropertyId, bacnetArrayAll⟩) : ShellProcedure Library Int Parsed) state =
    .ok (.ok (0, object), after)

/--
The library is as before, or a value is given, and one write to what the arguments name has
left it.
-/
def WritesNamed (platform : StoragePlatform) (bactext : BacnetText)
    (device : PropertyDevice Library Value) (argv : List CString)
    (before after : ShellState Library) : Prop :=
  after.library = before.library ∨ 4 < argv.length ∧
    ∃ object wpData, Names platform bactext argv before object ∧
      IsRequest device object wpData ∧
      after.library = (device.writeProperty wpData before.library).2

theorem WritesOnce.named {before after : ShellState Library} (given : 4 < argv.length)
    (named : Names platform bactext argv before object)
    (once : WritesOnce device object before after) :
    WritesNamed platform bactext device argv before after := by
  rcases once with same | ⟨wpData, request, written⟩
  · exact Or.inl same
  · exact Or.inr ⟨given, object, wpData, named, request, written⟩

/-- What the command does after the parser has named the object. -/
theorem movesAlong_of_names {next : Parsed → ShellProcedure Library Int Int}
    (refused : ∀ err object, err ≠ 0 → PrintsOnly (next (err, object)))
    (without : ∀ object, ¬4 < argv.length → PrintsOnly (next (0, object)))
    (writes : ∀ object, 4 < argv.length → MovesAlong (WritesOnce device object) (next (0, object))) :
    MovesAlong (WritesNamed platform bactext device argv)
      (call (bacnetShellPropertyParse platform bactext argv
        ⟨0, 0, maxBacnetPropertyId, bacnetArrayAll⟩) >>= next) := by
  have prints := @MovesAlong.call _ _ _ Int _ _ (@printsOnly_bacnetShellPropertyParse Library argv
    platform bactext ⟨0, 0, maxBacnetPropertyId, bacnetArrayAll⟩)
  intro state outcome after run
  rw [eval_bind] at run
  split at run
  · cases run
  · rename_i parsed
    cases run
    exact Or.inl (prints _ _ _ parsed)
  · rename_i value between parsed
    rcases value with ⟨err, object⟩
    have same : SameLibrary state between := prints _ _ _ parsed
    by_cases success : err = 0
    · subst success
      by_cases given : 4 < argv.length
      · have once := WritesOnce.after_same same (writes object given _ _ _ run)
        exact once.named given ⟨between, parsed⟩
      · exact Or.inl ((without object given _ _ _ run).trans same)
    · exact Or.inl ((refused err object success _ _ _ run).trans same)

/--
`cmd_value` leaves the library alone, or it writes once: the value it is given, to what its
arguments name, with a legal priority or none.
-/
theorem cmdPropertyValue_writesNamed :
    MovesAlong (WritesNamed platform bactext device argv)
      (cmdPropertyValue platform bactext device argv) := by
  have stays {procedure : ShellProcedure Library Int Int} (prints : PrintsOnly procedure) :
      MovesAlong (WritesNamed platform bactext device argv) procedure :=
    fun state outcome after ok => Or.inl (prints state outcome after ok)
  rw [cmdPropertyValue]
  split
  · apply stays
    apply PrintsOnly.bind
      (MovesAlong.call (printsOnly_bacnetShellObjectTypeInstanceParse bactext _))
    rintro ⟨err, object⟩
    dsimp only
    split
    · apply (printsOnly_query _).bind
      intro lists
      exact (printsOnly_emit _).bind fun _ => printsOnly_pure _
    · exact printsOnly_throw _
  split
  · apply movesAlong_of_names
    · intro err object failed
      dsimp only
      rw [if_pos failed]
      exact printsOnly_throw _
    · intro object missing
      dsimp only
      rw [if_neg (by simp), if_neg (by omega), if_neg missing]
      apply (printsOnly_query _).bind
      intro outcome
      exact (printsOnly_emit _).bind fun _ => printsOnly_pure _
    · intro object given
      dsimp only
      rw [if_neg (by simp)]
      split
      · apply (printsOnly_argument 4).bind_writesOnce
        intro valueString
        apply (printsOnly_argument 5).bind_writesOnce
        intro tagString
        exact writesOnce_cmdPropertyWrite rfl rfl rfl _ _ _
      · apply (printsOnly_argument 4).bind_writesOnce
        intro valueString
        refine MovesAlong.bind_absorbed (fun _ _ => SameLibrary.writesOnce)
          (fun _ _ _ => WritesOnce.after_same) (printsOnly_query _) ?_
        rintro ⟨rpdata, outcome⟩ ⟨state, after, read⟩
        rcases readBeforeWrite_target (Except.ok.inj (Prod.mk.inj (Except.ok.inj read)).1) with
          ⟨objectType, objectInstance, objectProperty⟩
        apply (printsOnly_emit _).bind_writesOnce
        intro _
        dsimp only
        split
        · exact (printsOnly_throw _).writesOnce
        · exact writesOnce_cmdPropertyWrite objectType objectInstance objectProperty _ _ _
  · exact stays (printsOnly_fail _ _)

end Writes

end BacnetZephyr
