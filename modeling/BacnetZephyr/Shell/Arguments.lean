import BacnetZephyr.Foundation.Procedure
import BacnetZephyr.Foundation.Scanf
import BacnetZephyr.Storage.Key

/-!
# Arguments of shell commands

The functions that read an object and a property from the arguments of a command. The
arguments are the list of `argc` strings that the shell passes, the first of which is
the command; reading another one is a fault, and so is a text longer than its array.
-/

namespace BacnetZephyr

open CLib Procedure

inductive ShellFault where
  /-- `argv[index]` with `index` not below `argc`. -/
  | argument (index : ℕ)
  /-- More bytes than an array of the size holds. -/
  | overrun (size : ℕ)
deriving DecidableEq

/-- Output, with the format and its arguments as text. -/
inductive ShellOutput where
  | shellHelp
  | shellError (format : String) (arguments : List CString)
  | shellPrint (format : String) (arguments : List CString)
  /-- `LOG_ERR`. -/
  | logErr (format : String) (arguments : List CString)
deriving DecidableEq

/-- The state of the stack library, and what the command has printed. -/
structure ShellState (Library : Type) where
  library : Library
  output : List ShellOutput

abbrev ShellProcedure (Library Return α : Type) :=
  Procedure ShellFault (ShellState Library) Return α

section Definitions

variable {Library Return α : Type}

def argument (argv : List CString) (index : ℕ) : ShellProcedure Library Return CString :=
  match argv[index]? with
  | some text => pure text
  | none => fault (.argument index)

def emit (output : ShellOutput) : ShellProcedure Library Return Unit :=
  modifyState fun state => { state with output := state.output ++ [output] }

/-- Print, and return early. -/
def fail (output : ShellOutput) (result : Return) : ShellProcedure Library Return α := do
  emit output
  throw result

/-- The text that `sscanf` stores in an array of the size. -/
def storeText (size : ℕ) (characters : CString) : ShellProcedure Library Return CString :=
  if characters.length + 1 ≤ size then pure characters else fault (.overrun size)

/-- What the parsers use of the stack library. -/
structure BacnetText where
  objectTypeStrtol : CString → Option UInt32
  propertyStrtol : CString → Option UInt32
  stringToUint32 : CString → Option UInt32
  deviceObjectInstanceNumber : UInt32

def objectDevice : UInt32 := 8
def bacnetMaxObject : UInt32 := 0x3FF
def bacnetMaxInstance : UInt32 := 0x3FFFFF
def uint16Max : ℕ := 0xFFFF

/-- The variables that the parsers get pointers to. -/
abbrev ObjectArguments := BacnetStorageKey

/-- What a parser returns, and the variables after it. -/
abbrev Parsed := Int × ObjectArguments

/-- The formats `"%lu[%u]"` and `"%lu[%lu]"`, by the width of the index. -/
def numberFormat (platform : StoragePlatform) (indexBits : ℕ) : List Directive :=
  [.unsigned platform.ulongBits, .literal '[', .unsigned indexBits, .literal ']']

/-- The array index, if `sscanf` got that far. -/
def scannedIndex (default : UInt32) : List Conversion → UInt32
  | .number index :: _ => UInt32.ofNat index
  | _ => default

def bacnetStorageKeyParse (platform : StoragePlatform) (argv : List CString)
    (key : BacnetStorageKey) : ShellProcedure Library Parsed Parsed := do
  if argv.length < 3 then
    let command ← argument argv 0
    fail (.logErr "parse: %s <object-type> <instance> <property> [value]" [command])
      (-Errno.einval, key)
  else
    let typeText ← argument argv 1
    let some objectType := bacnetStorageStrtoul platform typeText
      | fail (.logErr "parse: Invalid object-type: %s." [typeText]) (-Errno.einval, key)
    if uint16Max ≤ objectType then
      fail (.logErr "parse: Invalid object-type: %s. Must be 0-65535." [typeText])
        (-Errno.einval, key)
    else
      let instanceText ← argument argv 2
      let some objectInstance := bacnetStorageStrtoul platform instanceText
        | fail (.logErr "parse: Invalid object-instance: %s." [instanceText]) (-Errno.einval, key)
      if bacnetMaxInstance.toNat < objectInstance then
        fail (.logErr "parse: Invalid object-instance: %s. Must be 0-4194303." [instanceText])
          (-Errno.einval, key)
      else
        let propertyText ← argument argv 3
        match sscanf (numberFormat platform 32) propertyText with
        | .number propertyId :: index =>
            if ulongMax 32 < propertyId then
              fail (.logErr "parse: Invalid property: %s. Must be 0-4294967295." [propertyText])
                (-Errno.einval, key)
            else
              return (0, bacnetStorageKeyInit (UInt16.ofNat objectType)
                (UInt32.ofNat objectInstance) (UInt32.ofNat propertyId)
                (scannedIndex bacnetStorageArrayIndexNone index))
        | _ =>
            fail (.logErr "parse: Invalid property: %s." [propertyText]) (-Errno.einval, key)

/-- The format `"%80s[%lu]"`. -/
def wordFormat (platform : StoragePlatform) : List Directive :=
  [.word 80, .literal '[', .unsigned platform.ulongBits, .literal ']']

def bacnetSettingsObjectParse (platform : StoragePlatform) (bactext : BacnetText)
    (argv : List CString) (out : ObjectArguments) : ShellProcedure Library Parsed Parsed := do
  if argv.length < 4 then throw (-Errno.einval, out)
  else
    let typeText ← argument argv 1
    let some foundIndex := bactext.objectTypeStrtol typeText
      | throw (-Errno.einval, out)
    if uint16Max ≤ foundIndex.toNat then throw (-Errno.einval, out)
    else
      let out := { out with objectType := UInt16.ofNat foundIndex.toNat }
      let instanceText ← argument argv 2
      let some objectInstance := bacnetStorageStrtoul platform instanceText
        | throw (-Errno.einval, out)
      if bacnetMaxInstance.toNat < objectInstance then throw (-Errno.einval, out)
      else
        let out := { out with objectInstance := UInt32.ofNat objectInstance }
        let propertyText ← argument argv 3
        match sscanf (numberFormat platform platform.ulongBits) propertyText with
        | .number propertyId :: index =>
            return (0, { out with
              propertyId := UInt32.ofNat propertyId
              arrayIndex := scannedIndex bacnetStorageArrayIndexNone index })
        | _ =>
            match sscanf (wordFormat platform) propertyText with
            | .text characters :: index =>
                let propertyName ← storeText 80 characters
                let some foundIndex := bactext.propertyStrtol propertyName
                  | throw (-Errno.einval, out)
                return (0, { out with
                  propertyId := foundIndex
                  arrayIndex := scannedIndex bacnetStorageArrayIndexNone index })
            | _ => throw (-Errno.einval, out)

def bacnetShellObjectTypeInstanceParse (bactext : BacnetText) (argv : List CString)
    (out : ObjectArguments) : ShellProcedure Library Parsed Parsed := do
  if argv.length < 2 then fail .shellHelp (-Errno.einval, out)
  else
    let typeText ← argument argv 1
    let some foundIndex := bactext.objectTypeStrtol typeText
      | fail (.shellError "ERROR: invalid object-type" []) (-Errno.einval, out)
    if uint16Max ≤ foundIndex.toNat then
      fail (.shellError "ERROR: Invalid object-type: %s. Must be 0-%u."
        [typeText, unsignedText uint16Max]) (-Errno.einval, out)
    else
      let out := { out with objectType := UInt16.ofNat foundIndex.toNat }
      if foundIndex = objectDevice then
        return (0, { out with objectInstance := bactext.deviceObjectInstanceNumber })
      else if 2 < argv.length then
        let instanceText ← argument argv 2
        let some foundIndex := bactext.stringToUint32 instanceText
          | fail (.shellError "parse: Invalid object-instance: %s. Must be 0-%u."
              [instanceText, unsignedText bacnetMaxInstance.toNat]) (-Errno.einval, out)
        return (0, { out with objectInstance := foundIndex })
      else fail .shellHelp (-Errno.einval, out)

/-- The format `"%79[^[][%u]"`. -/
def nameFormat : List Directive := [.upTo 79 '[', .literal '[', .unsigned 32, .literal ']']

def bacnetShellPropertyParse (platform : StoragePlatform) (bactext : BacnetText)
    (argv : List CString) (out : ObjectArguments) : ShellProcedure Library Parsed Parsed := do
  let out := { out with arrayIndex := bacnetArrayAll }
  if argv.length < 4 then
    let command ← argument argv 0
    fail (.shellError "parse: %s <object-type> <instance> <property>[index] [value]" [command])
      (-Errno.einval, out)
  else
    let (err, out) ← call (bacnetShellObjectTypeInstanceParse bactext argv out)
    if err < 0 then throw (err, out)
    else
      let propertyText ← argument argv 3
      if propertyText.head?.any Char.isAlpha then
        match sscanf nameFormat propertyText with
        | .text characters :: index =>
            let name ← storeText 80 characters
            let some foundIndex := bactext.propertyStrtol name
              | fail (.shellError "parse: invalid property name: %s." [propertyText])
                  (-Errno.einval, out)
            return (0, { out with
              propertyId := foundIndex
              arrayIndex := scannedIndex out.arrayIndex index })
        | _ =>
            fail (.shellError "parse: missing property: %s." [propertyText]) (-Errno.einval, out)
      else
        match sscanf (numberFormat platform 32) propertyText with
        | .number propertyId :: index =>
            if ulongMax 32 < propertyId then
              fail (.shellError "parse: Invalid property: %s. Must be 0-%lu."
                [propertyText, unsignedText (ulongMax 32)]) (-Errno.einval, out)
            else
              return (0, { out with
                propertyId := UInt32.ofNat propertyId
                arrayIndex := scannedIndex out.arrayIndex index })
        | _ =>
            fail (.shellError "parse: missing property: %s." [propertyText]) (-Errno.einval, out)

def bacnetObjectInstanceParse (bactext : BacnetText) (argv : List CString)
    (out : ObjectArguments) : ShellProcedure Library Parsed Parsed := do
  if argv.length < 2 then
    let command ← argument argv 0
    fail (.shellError "parse: %s <object-type> <instance>" [command]) (-Errno.einval, out)
  else
    let typeText ← argument argv 1
    let some objectType := bactext.objectTypeStrtol typeText
      | fail (.shellError "parse: Invalid object-type: %s." [typeText]) (-Errno.einval, out)
    if bacnetMaxObject < objectType then
      fail (.shellError "parse: Invalid object-type: %s. Must be 0-%u."
        [typeText, unsignedText bacnetMaxObject.toNat]) (-Errno.einval, out)
    else
      let out := { out with objectType := UInt16.ofNat objectType.toNat }
      let instanceText ← argument argv 2
      let some objectInstance := bactext.stringToUint32 instanceText
        | fail (.shellError "parse: Invalid object-instance: %s." [instanceText])
            (-Errno.einval, out)
      if bacnetMaxInstance < objectInstance then
        fail (.shellError "parse: Invalid object-instance: %s. Must be 0-%d."
          [instanceText, unsignedText bacnetMaxInstance.toNat]) (-Errno.einval, out)
      else
        return (0, { out with objectInstance })

end Definitions

section Rules

variable {Library Return α : Type} {argv : List CString} {state : ShellState Library}

theorem argument_of_getElem? {index : ℕ} {text : CString} (given : argv[index]? = some text) :
    (argument argv index : ShellProcedure Library Return CString) = pure text := by
  simp only [argument, given]

theorem argument_of_length_le {index : ℕ} (missing : argv.length ≤ index) :
    (argument argv index : ShellProcedure Library Return CString) = fault (.argument index) := by
  simp only [argument, List.getElem?_eq_none missing]

theorem faultless_argument {index : ℕ} (given : index < argv.length) :
    Faultless (argument argv index : ShellProcedure Library Return CString) := by
  rw [argument_of_getElem? (List.getElem?_eq_getElem given)]
  exact .pure _

@[simp]
theorem eval_emit (output : ShellOutput) :
    eval (emit output : ShellProcedure Library Return Unit) state =
      .ok (.ok (), { state with output := state.output ++ [output] }) := rfl

theorem leavesState_argument (argv : List CString) (index : ℕ) :
    LeavesState (argument argv index : ShellProcedure Library Return CString) := by
  rw [argument]
  split
  · exact .pure _
  · exact .fault _

theorem faultless_fail (output : ShellOutput) (result : Return) :
    Faultless (fail output result : ShellProcedure Library Return α) :=
  (Faultless.modifyState _).bind fun _ => .throw result

@[simp]
theorem eval_fail (output : ShellOutput) (result : Return) :
    eval (fail output result : ShellProcedure Library Return α) state =
      .ok (.error result, { state with output := state.output ++ [output] }) := rfl

theorem leavesState_fail (output : ShellOutput) (result : Return) :
    LeavesState (fail output result : ShellProcedure Library Return α) := by
  intro state value after ok
  cases ok

@[simp]
theorem fail_bind {β : Type} (output : ShellOutput) (result : Return)
    (next : α → ShellProcedure Library Return β) :
    fail output result >>= next = fail output result := rfl

@[simp]
theorem faultlessAt_fail (output : ShellOutput) (result : Return) :
    FaultlessAt (fail output result : ShellProcedure Library Return α) state :=
  faultless_fail output result state

theorem storeText_of_fits {size : ℕ} {characters : CString} (fits : characters.length < size) :
    (storeText size characters : ShellProcedure Library Return CString) = pure characters :=
  if_pos fits

theorem storeText_of_long {size : ℕ} {characters : CString} (long : size ≤ characters.length) :
    (storeText size characters : ShellProcedure Library Return CString) = fault (.overrun size) :=
  if_neg (Nat.not_lt.mpr long)

end Rules

/-! ## Which arguments the parsers use -/

section Parsers

variable {Library : Type} {argv : List CString} {state : ShellState Library}

/-- The two arguments of an object that `bacnet_storage_key_parse` takes. -/
def storageObjectGiven (platform : StoragePlatform) (typeText instanceText : CString) : Prop :=
  (∃ objectType, bacnetStorageStrtoul platform typeText = some objectType ∧
    objectType < uint16Max) ∧
  ∃ objectInstance, bacnetStorageStrtoul platform instanceText = some objectInstance ∧
    objectInstance ≤ bacnetMaxInstance.toNat

/-- A key is not left without its property. -/
def StorageKeyArguments (platform : StoragePlatform) : List CString → Prop
  | [_, typeText, instanceText] => ¬storageObjectGiven platform typeText instanceText
  | _ => True

theorem bacnetStorageKeyParse_faultless_iff (platform : StoragePlatform) (key : BacnetStorageKey)
    (given : argv ≠ []) :
    FaultlessAt (bacnetStorageKeyParse platform argv key) state ↔
      StorageKeyArguments platform argv := by
  rcases argv with _ | ⟨command, _ | ⟨typeText, _ | ⟨instanceText, rest⟩⟩⟩
  · exact absurd rfl given
  · simp [bacnetStorageKeyParse, argument, StorageKeyArguments]
  · simp [bacnetStorageKeyParse, argument, StorageKeyArguments]
  · rcases typeValue : bacnetStorageStrtoul platform typeText with _ | objectType
    · cases rest <;>
        simp [bacnetStorageKeyParse, argument, StorageKeyArguments, storageObjectGiven, typeValue]
    · rcases instanceValue : bacnetStorageStrtoul platform instanceText with _ | objectInstance
      · cases rest <;>
          simp [bacnetStorageKeyParse, argument, StorageKeyArguments, storageObjectGiven, typeValue,
            instanceValue]
      · rcases rest with _ | ⟨propertyText, rest⟩
        · simp [bacnetStorageKeyParse, argument, StorageKeyArguments, storageObjectGiven, typeValue,
            instanceValue]
        · rcases sscanf_unsigned platform.ulongBits
            [.literal '[', .unsigned 32, .literal ']'] propertyText with none | ⟨_, _, number⟩
          · simp [bacnetStorageKeyParse, argument, StorageKeyArguments, typeValue, instanceValue,
              numberFormat, none]
          · simp [bacnetStorageKeyParse, argument, StorageKeyArguments, typeValue, instanceValue,
              numberFormat, number]

/-- A key that is parsed is all that the parser leaves behind. -/
theorem leavesState_bacnetStorageKeyParse (platform : StoragePlatform) (argv : List CString)
    (key : BacnetStorageKey) :
    LeavesState
      (bacnetStorageKeyParse platform argv key : ShellProcedure Library Parsed Parsed) := by
  rw [bacnetStorageKeyParse]
  split
  · exact (leavesState_argument _ _).bind fun _ => leavesState_fail _ _
  · apply (leavesState_argument _ _).bind
    intro typeText
    split
    · split
      · exact leavesState_fail _ _
      · apply (leavesState_argument _ _).bind
        intro instanceText
        split
        · split
          · exact leavesState_fail _ _
          · apply (leavesState_argument _ _).bind
            intro propertyText
            split
            · split
              · exact leavesState_fail _ _
              · exact .pure _
            · exact leavesState_fail _ _
        · exact leavesState_fail _ _
    · exact leavesState_fail _ _

/-- The two arguments of an object that `bacnet_settings_object_parse` takes. -/
def settingsObjectGiven (platform : StoragePlatform) (bactext : BacnetText)
    (typeText instanceText : CString) : Prop :=
  (∃ objectType, bactext.objectTypeStrtol typeText = some objectType ∧
    objectType.toNat < uint16Max) ∧
  ∃ objectInstance, bacnetStorageStrtoul platform instanceText = some objectInstance ∧
    objectInstance ≤ bacnetMaxInstance.toNat

/-- A property that is not a number has a name that fits its array. -/
def SettingsNameFits (platform : StoragePlatform) (bactext : BacnetText) : List CString → Prop
  | _ :: typeText :: instanceText :: propertyText :: _ =>
      settingsObjectGiven platform bactext typeText instanceText →
      sscanf (numberFormat platform platform.ulongBits) propertyText = [] →
      (firstWord propertyText).length < 80
  | _ => True

theorem bacnetSettingsObjectParse_faultless_iff (platform : StoragePlatform)
    (bactext : BacnetText) (out : ObjectArguments) :
    FaultlessAt (bacnetSettingsObjectParse platform bactext argv out) state ↔
      SettingsNameFits platform bactext argv := by
  rcases argv with _ | ⟨command, _ | ⟨typeText, _ | ⟨instanceText, _ | ⟨propertyText, rest⟩⟩⟩⟩
  · simp [bacnetSettingsObjectParse, SettingsNameFits]
  · simp [bacnetSettingsObjectParse, SettingsNameFits]
  · simp [bacnetSettingsObjectParse, SettingsNameFits]
  · simp [bacnetSettingsObjectParse, SettingsNameFits]
  · rcases typeValue : bactext.objectTypeStrtol typeText with _ | objectType
    · simp [bacnetSettingsObjectParse, argument, SettingsNameFits, settingsObjectGiven, typeValue]
    · rcases instanceValue : bacnetStorageStrtoul platform instanceText with _ | objectInstance
      · simp [bacnetSettingsObjectParse, argument, SettingsNameFits, settingsObjectGiven,
          typeValue, instanceValue]
      · rcases sscanf_unsigned platform.ulongBits
          [.literal '[', .unsigned platform.ulongBits, .literal ']'] propertyText with
          none | ⟨_, _, number⟩
        · simp only [bacnetSettingsObjectParse, List.length_cons, argument,
            Nat.lt_add_left_iff_pos, Nat.zero_lt_succ, getElem?_pos, List.getElem_cons_succ,
            List.getElem_cons_zero, numberFormat, pure_bind, none, instanceValue, typeValue,
            faultlessAt_ite, faultlessAt_throw, if_true_left, not_lt, not_le, Nat.le_add_left,
            forall_const, SettingsNameFits, settingsObjectGiven, Option.some.injEq,
            exists_eq_left', and_imp]
          apply imp_congr_right
          intro _
          apply imp_congr_right
          intro _
          rcases sscanf_word 80 [.literal '[', .unsigned platform.ulongBits, .literal ']']
            propertyText with ⟨empty, noWord⟩ | ⟨_, word⟩
          · have short : (firstWord propertyText).length < 80 := by
              rcases List.take_eq_nil_iff.mp noWord with zero | nil
              · cases zero
              · simp [nil]
            simp [wordFormat, empty, short]
          · by_cases short : (firstWord propertyText).length < 80
            · have whole : (firstWord propertyText).take 80 = firstWord propertyText :=
                List.take_of_length_le (Nat.le_of_lt short)
              simp only [wordFormat, word, whole, storeText_of_fits short, pure_bind]
              cases bactext.propertyStrtol (firstWord propertyText) <;> simp [short]
            · have long : 80 ≤ ((firstWord propertyText).take 80).length := by
                rw [List.length_take]
                omega
              simp [wordFormat, word, storeText_of_long long, short]
        · simp [bacnetSettingsObjectParse, argument, SettingsNameFits, typeValue, instanceValue,
            numberFormat, number]

theorem faultless_bacnetShellObjectTypeInstanceParse (bactext : BacnetText)
    (out : ObjectArguments) :
    Faultless (bacnetShellObjectTypeInstanceParse bactext argv out :
      ShellProcedure Library Parsed Parsed) := by
  intro state
  rcases argv with _ | ⟨command, _ | ⟨typeText, _ | ⟨instanceText, rest⟩⟩⟩
  · simp [bacnetShellObjectTypeInstanceParse]
  · simp [bacnetShellObjectTypeInstanceParse]
  · rcases typeValue : bactext.objectTypeStrtol typeText with _ | objectType
    · simp [bacnetShellObjectTypeInstanceParse, argument, typeValue]
    · simp [bacnetShellObjectTypeInstanceParse, argument, typeValue]
  · rcases typeValue : bactext.objectTypeStrtol typeText with _ | objectType
    · simp [bacnetShellObjectTypeInstanceParse, argument, typeValue]
    · rcases instanceValue : bactext.stringToUint32 instanceText with _ | objectInstance
      · simp [bacnetShellObjectTypeInstanceParse, argument, typeValue, instanceValue]
      · simp [bacnetShellObjectTypeInstanceParse, argument, typeValue, instanceValue]

theorem faultless_bacnetShellPropertyParse (platform : StoragePlatform) (bactext : BacnetText)
    (out : ObjectArguments) (given : argv ≠ []) :
    Faultless (bacnetShellPropertyParse platform bactext argv out :
      ShellProcedure Library Parsed Parsed) := by
  rw [bacnetShellPropertyParse]
  split
  · apply (faultless_argument (List.length_pos_iff.mpr given)).bind
    intro command
    exact faultless_fail _ _
  · rename_i enough
    apply (faultless_bacnetShellObjectTypeInstanceParse bactext _).call.bind
    rintro ⟨err, out⟩
    simp only
    split
    · exact .throw _
    · apply (faultless_argument (by omega)).bind
      intro propertyText
      split
      · rcases sscanf_upTo 79 '[' [.literal '[', .unsigned 32, .literal ']'] propertyText with
          none | ⟨characters, index, fits, text⟩
        · simp only [nameFormat, none]
          exact faultless_fail _ _
        · simp only [nameFormat, text, storeText_of_fits (Nat.lt_succ_of_le fits), pure_bind]
          split
          · exact .pure _
          · exact faultless_fail _ _
      · split
        · split
          · exact faultless_fail _ _
          · exact .pure _
        · exact faultless_fail _ _

/-- The argument of an object type that `bacnet_object_instance_parse` takes. -/
def objectTypeGiven (bactext : BacnetText) (typeText : CString) : Prop :=
  ∃ objectType, bactext.objectTypeStrtol typeText = some objectType ∧
    objectType ≤ bacnetMaxObject

/-- An object type is not left without its instance. -/
def ObjectInstanceArguments (bactext : BacnetText) : List CString → Prop
  | [_, typeText] => ¬objectTypeGiven bactext typeText
  | _ => True

theorem bacnetObjectInstanceParse_faultless_iff (bactext : BacnetText) (out : ObjectArguments)
    (given : argv ≠ []) :
    FaultlessAt (bacnetObjectInstanceParse bactext argv out) state ↔
      ObjectInstanceArguments bactext argv := by
  rcases argv with _ | ⟨command, _ | ⟨typeText, rest⟩⟩
  · exact absurd rfl given
  · simp [bacnetObjectInstanceParse, argument, ObjectInstanceArguments]
  · rcases typeValue : bactext.objectTypeStrtol typeText with _ | objectType
    · cases rest <;>
        simp [bacnetObjectInstanceParse, argument, ObjectInstanceArguments, objectTypeGiven,
          typeValue]
    · rcases rest with _ | ⟨instanceText, rest⟩
      · simp [bacnetObjectInstanceParse, argument, ObjectInstanceArguments, objectTypeGiven,
          typeValue]
      · rcases instanceValue : bactext.stringToUint32 instanceText with _ | objectInstance
        · simp [bacnetObjectInstanceParse, argument, ObjectInstanceArguments, typeValue,
            instanceValue]
        · simp [bacnetObjectInstanceParse, argument, ObjectInstanceArguments, typeValue,
            instanceValue]

end Parsers

end BacnetZephyr
