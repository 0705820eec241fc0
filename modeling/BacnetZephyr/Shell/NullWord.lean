import BacnetZephyr.Settings.ValueParse
import BacnetZephyr.Shell.PropertyWrite

/-!
# The word that relinquishes

Three commands look for `NULL` before the type of a value: `cmd_value` of the property
shell, `bacnet_settings_value_parse` and `cmd_lighting_output_value_set`. They compare four
characters, so that a longer text relinquishes too. `onlyNull_iff` says for which texts
each of them asks for the word and nothing else.
-/

namespace BacnetZephyr

open CLib Procedure

/-- The text is the word `NULL` in any case. -/
def IsNull (text : CString) : Prop := EqualIgnoringCase text "NULL".toList

instance (text : CString) : Decidable (IsNull text) := inferInstanceAs (Decidable (_ = _))

/-- The text does not go on after the word. -/
def OnlyWholeNull (text : CString) : Prop := IsNull (text.take 4) → IsNull text

instance (text : CString) : Decidable (OnlyWholeNull text) :=
  inferInstanceAs (Decidable (_ → _))

theorem startsWithWord_null (text : CString) :
    startsWithWord "NULL".toList text = true ↔ IsNull (text.take 4) := by
  simp [startsWithWord, IsNull, EqualIgnoringCase]

theorem IsNull.take {text : CString} (whole : IsNull text) : IsNull (text.take 4) :=
  EqualIgnoringCase.take whole 4

/-- For a text that does not go on after the word, four characters decide. -/
theorem OnlyWholeNull.iff {text : CString} (only : OnlyWholeNull text) :
    startsWithWord "NULL".toList text = true ↔ IsNull text :=
  (startsWithWord_null text).trans ⟨only, IsNull.take⟩

/-- A text that goes on after the word. -/
theorem exists_longer {text : CString} (longer : ¬OnlyWholeNull text) :
    startsWithWord "NULL".toList text = true ∧ ¬IsNull text := by
  rw [OnlyWholeNull, Classical.not_imp, ← startsWithWord_null] at longer
  exact longer

/-! ## The property shell -/

/--
For a commandable property the command writes a NULL for the word, and the value that the
text is parsed to otherwise.
-/
def PropertyOnlyNull (platform : StoragePlatform) (valueString : CString) : Prop :=
  ∀ (Library Value : Type) (device : PropertyDevice Library Value)
    (rpdata : BacnetReadPropertyData) (arrayIndex : UInt32) (tagString : Option CString)
    (value : Value),
    device.commandableMember rpdata.objectType rpdata.objectProperty = true →
    cmdPropertyWrite platform device rpdata arrayIndex tagString valueString value =
      writeConverted device rpdata arrayIndex (priorityAfterAt platform valueString)
        (beforeAt valueString)
        (if IsNull (beforeAt valueString) then (true, device.withTag nullTag value)
        else
          parseValueString platform device rpdata.objectType rpdata.objectProperty tagString
            (beforeAt valueString) value)

/-- A device that remembers that it is written to, and parses no value. -/
def PropertyDevice.recording : PropertyDevice Bool UInt8 :=
  { referenceProperties with
    commandableMember := fun _ _ => true
    propertyLists := fun _ _ _ => ⟨[], [], []⟩
    readProperty := fun _ _ => .success []
    writeProperty := fun _ _ => (none, true)
    knownPropertyTag := fun _ _ => 0
    tag := id
    withTag := fun tag _ => tag
    withEnumerated := fun _ value => value
    applicationTagStrtol := fun _ => none
    objectPropertyStrtoul := fun _ _ _ => none
    parseApplicationData := fun _ _ value => (false, value)
    encodeData := fun value => [value]
    errorClassName := fun _ => []
    errorCodeName := fun _ => []
    applicationTagName := fun _ => []
    maxApdu := 480 }

theorem cmdPropertyWrite_recording (platform : StoragePlatform)
    (rpdata : BacnetReadPropertyData) (arrayIndex : UInt32) (tagString : Option CString)
    (valueString : CString) (value : UInt8) :
    cmdPropertyWrite platform PropertyDevice.recording rpdata arrayIndex tagString valueString
        value =
      writeConverted PropertyDevice.recording rpdata arrayIndex
        (priorityAfterAt platform valueString) (beforeAt valueString)
        (convertValueString platform PropertyDevice.recording rpdata.objectType
          rpdata.objectProperty tagString (beforeAt valueString) value) := rfl

theorem propertyOnlyNull_iff (platform : StoragePlatform) (valueString : CString) :
    PropertyOnlyNull platform valueString ↔ OnlyWholeNull (beforeAt valueString) := by
  constructor
  · intro relinquishes
    refine Decidable.byContradiction fun longer => ?_
    have ⟨starts, notNull⟩ := exists_longer longer
    let rpdata : BacnetReadPropertyData := ⟨1, 0, 85, bacnetArrayAll⟩
    have same := relinquishes Bool UInt8 PropertyDevice.recording rpdata bacnetArrayAll none 0 rfl
    rw [cmdPropertyWrite_recording, convertValueString, if_pos ⟨rfl, starts⟩,
      if_neg notNull] at same
    have written := congrArg
      (fun command => (eval command ⟨false, []⟩).map fun outcome => outcome.2.library) same
    cases Except.ok.inj written
  · intro only Library Value device rpdata arrayIndex tagString value commandable
    simp only [cmdPropertyWrite, convertValueString, commandable, if_true, true_and, only.iff]

/-! ## The settings -/

/-- For a commandable property the parser gives a NULL for the word only. -/
def SettingsOnlyNull (platform : StoragePlatform) (text : CString) : Prop :=
  ∀ (library : ValueLibrary) (objectType : UInt16) (propertyId : UInt32)
    (value : ApplicationDataValue library.toValueTypes),
    library.lists.commandableMember objectType.toUInt32 propertyId = true →
    ((∃ result,
        bacnetSettingsValueParse platform library (some text) objectType propertyId value =
          (true, result) ∧ result.tag = tagNull) ↔
      IsNull text)

section Settings

variable {platform : StoragePlatform} {library : ValueLibrary} {objectType : UInt16}
  {propertyId : UInt32} {text : CString} {value : ApplicationDataValue library.toValueTypes}

/-- No type that is parsed is a NULL. -/
theorem taggedValue_null (type : ValueType library.toValueTypes) :
    taggedValue platform library tagNull text type = (false, type) := rfl

/-- The parser relinquishes exactly if the first four characters are the word. -/
theorem bacnetSettingsValueParse_null_iff
    (commandable : library.lists.commandableMember objectType.toUInt32 propertyId = true) :
    (∃ result,
        bacnetSettingsValueParse platform library (some text) objectType propertyId value =
          (true, result) ∧ result.tag = tagNull) ↔
      IsNull (text.take 4) := by
  have words := keywordValue_cases library objectType propertyId text value
  rw [bacnetSettingsValueParse_eq]
  generalize keywordValue library objectType propertyId text value = keyword at words ⊢
  cases words with
  | relinquish letter _ null => exact iff_of_true ⟨_, rfl, rfl⟩ null
  | boolean letter notNull status word =>
      apply iff_of_false
      · rintro ⟨result, parsed, isNull⟩
        cases parsed
        cases isNull
      · exact fun null => notNull ⟨commandable, null⟩
  | named letter notNull _ _ found name =>
      apply iff_of_false
      · rintro ⟨result, parsed, isNull⟩
        cases parsed
        cases isNull
      · exact fun null => notNull ⟨commandable, null⟩
  | none free =>
      apply iff_of_false
      · rintro ⟨result, parsed, isNull⟩
        rcases Prod.mk.inj parsed with ⟨status, rfl⟩
        have tag : value.tag = tagNull := isNull
        rw [tag, taggedValue_null] at status
        cases status
      · intro null
        have letter : (text.take 4).head?.any Char.isAlpha = true := null.head rfl
        rw [List.head?_take, if_neg (Nat.succ_ne_zero 3)] at letter
        exact (free letter).1 ⟨commandable, null⟩

theorem settingsOnlyNull_iff (platform : StoragePlatform) (text : CString) :
    SettingsOnlyNull platform text ↔ OnlyWholeNull text := by
  constructor
  · intro relinquishes null
    have parsed := relinquishes ValueLibrary.reference 1 85 ⟨tagReal, .other ()⟩ rfl
    exact parsed.mp ((bacnetSettingsValueParse_null_iff rfl).mpr null)
  · intro only library objectType propertyId value commandable
    exact (bacnetSettingsValueParse_null_iff commandable).trans ⟨only, IsNull.take⟩

end Settings

/-! ## Lighting outputs -/

/-- A lighting output is set to the level that is read, or relinquished if there is none. -/
def lightingValueCommand {Library : Type} (platform : StoragePlatform) (fp : FloatingPoint)
    (lights : LightingOutputs Library fp.Real) (argv : List CString)
    (readLevel : ShellProcedure Library Int (Option fp.Real)) : ShellProcedure Library Int Int := do
  let objectInstance ← instanceArgument platform argv "argv[1]=%s invalid instance number"
  let level ← readLevel
  let defaultPriority ← query (lights.defaultPriority objectInstance)
  let priority ← ifGiven argv 3 defaultPriority
    (UInt32.ofNat <$> strtoulArgument platform argv 3 "argv[3]=%s invalid priority" 3)
  match level with
  | none => update (lights.presentValueRelinquish objectInstance priority)
  | some level => update (lights.presentValueSet objectInstance level priority)
  cmdLightingOutputValuePrint fp lights objectInstance

/-- The command relinquishes for the word, and reads a level otherwise. -/
def LightingOnlyNull (platform : StoragePlatform) (fp : FloatingPoint) (text : CString) : Prop :=
  ∀ (Library : Type) (lights : LightingOutputs Library fp.Real) (command instanceText : CString)
    (rest : List CString),
    cmdLightingOutputValueSet platform fp lights (command :: instanceText :: text :: rest) =
      lightingValueCommand platform fp lights (command :: instanceText :: text :: rest)
        (if IsNull text then pure none
        else
          some <$> strtodArgument fp (command :: instanceText :: text :: rest) 2
            "argv[2]=%s invalid percentage")

/-- Lighting outputs that remember that one was relinquished. -/
def LightingOutputs.recording (fp : FloatingPoint) : LightingOutputs Bool fp.Real where
  count _ := 0
  indexToInstance _ _ := 0
  validInstance _ _ := false
  presentValue _ _ := fp.zero
  trackingValue _ _ := fp.zero
  presentValuePriority _ _ := 0
  overriddenStatus _ _ := false
  outOfService _ _ := false
  relinquishDefault _ _ := fp.zero
  priorityArrayValue _ _ _ := fp.zero
  priorityArrayRelinquished _ _ _ := true
  defaultPriority _ _ := 16
  overriddenClear _ := id
  overriddenRamp _ _ _ := id
  overriddenMomentary _ _ := id
  overriddenSet _ _ := id
  presentValueRelinquish _ _ _ := true
  presentValueSet _ _ _ := id
  lightingCommandSet _ _ := id
  blinkWarnFeatureSet _ _ _ _ := id
  egressTimeSet _ _ := id

theorem cmdLightingOutputValueSet_eq {Library : Type} (platform : StoragePlatform)
    (fp : FloatingPoint) (lights : LightingOutputs Library fp.Real)
    (command instanceText text : CString) (rest : List CString) :
    cmdLightingOutputValueSet platform fp lights (command :: instanceText :: text :: rest) =
      lightingValueCommand platform fp lights (command :: instanceText :: text :: rest)
        (if startsWithWord "NULL".toList text then pure none
        else
          some <$> strtodArgument fp (command :: instanceText :: text :: rest) 2
            "argv[2]=%s invalid percentage") := by
  have given : 2 < (command :: instanceText :: text :: rest).length := by simp
  simp only [cmdLightingOutputValueSet, if_pos given,
    argument_of_getElem? (show (command :: instanceText :: text :: rest)[2]? = some text from rfl),
    pure_bind]
  rfl

theorem instanceArgument_recording {Library : Type} (platform : StoragePlatform) (text : CString)
    (invalid : String) (state : ShellState Library) :
    eval (instanceArgument platform [[], ['0'], text] invalid) state = .ok (.ok 0, state) := by
  have zero : strtoul platform.ulongBits ['0'] = (0, []) := strtoul_toDigits (Nat.zero_le _)
  have given : argument [[], ['0'], text] 1 =
    (pure ['0'] : ShellProcedure Library Int CString) := rfl
  simp [instanceArgument, strtoulArgument, given, zero]

theorem lightingOnlyNull_iff (platform : StoragePlatform) (fp : FloatingPoint) (text : CString) :
    LightingOnlyNull platform fp text ↔ OnlyWholeNull text := by
  constructor
  · intro relinquishes
    refine Decidable.byContradiction fun longer => ?_
    have ⟨starts, notNull⟩ := exists_longer longer
    have same := relinquishes Bool (LightingOutputs.recording fp) [] ['0'] []
    rw [cmdLightingOutputValueSet_eq, if_pos starts, if_neg notNull] at same
    have relinquished := congrArg
      (fun command => (eval command ⟨false, []⟩).map fun outcome => outcome.2.library) same
    simp only [lightingValueCommand, eval_bind_ok _ (instanceArgument_recording platform text _ _)]
      at relinquished
    have set : strtodArgument fp [[], ['0'], text] 2 "argv[2]=%s invalid percentage" =
        if (fp.strtod text).2 = text then
          fail (.shellError "argv[2]=%s invalid percentage" [text]) (-Errno.einval)
        else (pure (fp.toReal (fp.strtod text).1) : ShellProcedure Bool Int fp.Real) := rfl
    rw [set] at relinquished
    split at relinquished
    · cases Except.ok.inj relinquished
    · cases Except.ok.inj relinquished
  · intro only Library lights command instanceText rest
    rw [cmdLightingOutputValueSet_eq]
    simp only [only.iff]

/-! ## All of them -/

/-- Each command asks for the word only exactly for the texts that do not go on after it. -/
theorem onlyNull_iff (platform : StoragePlatform) (fp : FloatingPoint) (text : CString) :
    (PropertyOnlyNull platform text ↔ OnlyWholeNull (beforeAt text)) ∧
      (SettingsOnlyNull platform text ↔ OnlyWholeNull text) ∧
      (LightingOnlyNull platform fp text ↔ OnlyWholeNull text) :=
  ⟨propertyOnlyNull_iff platform text, settingsOnlyNull_iff platform text,
    lightingOnlyNull_iff platform fp text⟩

/-- Levels that are integers. -/
def FloatingPoint.reference : FloatingPoint where
  Real := ℤ
  Double := ℤ
  zero := 0
  hundred := 100
  infinity := 2147483647
  toReal := id
  toDouble := id
  isPositive level := 0 < level
  strtod := strtol 32
  text level := (toString level).toList

/-- A text that merely begins with the word relinquishes, with a priority and without. -/
theorem not_onlyNull_longer :
    let platform := StoragePlatform.reference bacnetSettingsBaseName
    ¬PropertyOnlyNull platform "Nullable@8".toList ∧
      ¬SettingsOnlyNull platform "Nullable".toList ∧
      ¬LightingOnlyNull platform FloatingPoint.reference "Nullable".toList := by
  intro platform
  have longer : ¬OnlyWholeNull "Nullable".toList := by decide
  refine ⟨?_, ?_, ?_⟩
  · exact fun relinquishes => longer ((propertyOnlyNull_iff platform _).mp relinquishes)
  · exact fun relinquishes => longer ((settingsOnlyNull_iff platform _).mp relinquishes)
  · exact fun relinquishes => longer ((lightingOnlyNull_iff platform _ _).mp relinquishes)

end BacnetZephyr
