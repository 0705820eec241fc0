import BacnetZephyr.Shell.Arguments

/-!
# Commands for lighting outputs

The handlers of `bacnet light`. They read their arguments by position, each behind a
check of `argc`, except that an override with `ramp` reads the two arguments after it
unchecked. `shellArguments_faultless_iff` says for which arguments the parsers and the
handlers stay within what they are given.
-/

namespace BacnetZephyr

open CLib Procedure

/-- What the handlers use of `float`, `double` and their formatted input and output. -/
structure FloatingPoint where
  Real : Type
  Double : Type
  zero : Real
  hundred : Real
  infinity : Double
  toReal : Double → Real
  toDouble : Real → Double
  isPositive : Real → Bool
  strtod : CString → Double × CString
  /-- The conversion `%.1f`. -/
  text : Double → CString

inductive LightingOperation where
  | none
  | fadeTo
  | rampTo
  | stepUp
  | stepDown
  | stepOn
  | stepOff
  | warn
  | warnOff
  | warnRelinquish
  | stop
deriving DecidableEq

/-- `BACNET_LIGHTING_COMMAND`. -/
structure LightingCommand (Real : Type) where
  operation : LightingOperation
  useRampRate : Bool
  useStepIncrement : Bool
  useFadeTime : Bool
  usePriority : Bool
  useTargetLevel : Bool
  targetLevel : Real
  rampRate : Real
  stepIncrement : Real
  fadeTime : UInt32
  priority : UInt32

/-- The functions of the Lighting Output objects. -/
structure LightingOutputs (Library Real : Type) where
  count : Library → ℕ
  indexToInstance : ℕ → Library → UInt32
  validInstance : UInt32 → Library → Bool
  presentValue : UInt32 → Library → Real
  trackingValue : UInt32 → Library → Real
  presentValuePriority : UInt32 → Library → UInt32
  overriddenStatus : UInt32 → Library → Bool
  outOfService : UInt32 → Library → Bool
  relinquishDefault : UInt32 → Library → Real
  priorityArrayValue : UInt32 → ℕ → Library → Real
  priorityArrayRelinquished : UInt32 → ℕ → Library → Bool
  defaultPriority : UInt32 → Library → UInt32
  overriddenClear : UInt32 → Library → Library
  overriddenRamp : UInt32 → Real → Real → Library → Library
  overriddenMomentary : UInt32 → Real → Library → Library
  overriddenSet : UInt32 → Real → Library → Library
  presentValueRelinquish : UInt32 → UInt32 → Library → Library
  presentValueSet : UInt32 → Real → UInt32 → Library → Library
  lightingCommandSet : UInt32 → LightingCommand Real → Library → Library
  blinkWarnFeatureSet : UInt32 → Real → UInt16 → UInt16 → Library → Library
  egressTimeSet : UInt32 → UInt32 → Library → Library

section Definitions

variable {Library Return α : Type}

def query (question : Library → α) : ShellProcedure Library Return α :=
  ask fun state => question state.library

def update (change : Library → Library) : ShellProcedure Library Return Unit :=
  modifyState fun state => { state with library := change state.library }

/-- Read an argument behind a check that it is given. -/
def ifGiven (argv : List CString) (index : ℕ) (default : α)
    (read : ShellProcedure Library Return α) : ShellProcedure Library Return α :=
  if index < argv.length then read else pure default

variable (platform : StoragePlatform) (fp : FloatingPoint)
  (lights : LightingOutputs Library fp.Real) (argv : List CString)

/--
The number an argument starts with. The message shows an argument, which is not always
the one that was read.
-/
def strtoulArgument (index : ℕ) (invalid : String) (shown : ℕ) : ShellProcedure Library Int ℕ := do
  let text ← argument argv index
  let (value, rest) := strtoul platform.ulongBits text
  if rest = text then
    let shownText ← argument argv shown
    fail (.shellError invalid [shownText]) (-Errno.einval)
  else return value

def strtodArgument (index : ℕ) (invalid : String) : ShellProcedure Library Int fp.Real := do
  let text ← argument argv index
  let (value, rest) := fp.strtod text
  if rest = text then fail (.shellError invalid [text]) (-Errno.einval)
  else return fp.toReal value

/-- The first argument, without which a handler only shows its help. -/
def instanceArgument (invalid : String) : ShellProcedure Library Int UInt32 :=
  if 1 < argv.length then do
    let value ← strtoulArgument platform argv 1 invalid 1
    return UInt32.ofNat value
  else fail .shellHelp (-Errno.einval)

/-- The first argument, which must name an object. -/
def validInstanceArgument : ShellProcedure Library Int UInt32 := do
  let objectInstance ← instanceArgument platform argv "argv[1]=%s invalid instance"
  let valid ← query (lights.validInstance objectInstance)
  if valid then return objectInstance
  else
    let text ← argument argv 1
    fail (.shellError "argv[1]=%s invalid instance" [text]) (-Errno.einval)

def onOff (condition : Bool) (yes no : String) : CString :=
  if condition then yes.toList else no.toList

def cmdLightingOutputValuePrint (objectInstance : UInt32) : ShellProcedure Library Int Int := do
  let valid ← query (lights.validInstance objectInstance)
  if valid then
    let presentValue ← query (lights.presentValue objectInstance)
    let trackingValue ← query (lights.trackingValue objectInstance)
    let priority ← query (lights.presentValuePriority objectInstance)
    let overridden ← query (lights.overriddenStatus objectInstance)
    let outOfService ← query (lights.outOfService objectInstance)
    emit (.shellPrint "lighting-output:%u %.1f%%@%d->%.1f %s %s"
      [unsignedText objectInstance.toNat, fp.text (fp.toDouble presentValue),
        unsignedText priority.toNat, fp.text (fp.toDouble trackingValue),
        onOff overridden "overridden" "tracking",
        onOff outOfService "out-of-service" "in-service"])
    return 0
  else return -Errno.einval

/-- The loop of `cmd_lighting_output_list` over the indexes from one on. -/
def cmdLightingOutputListFrom : ℕ → ℕ → ShellProcedure Library Int Int
  | _, 0 => return 0
  | index, remaining + 1 => do
      let objectInstance ← query (lights.indexToInstance index)
      let _ ← call (cmdLightingOutputValuePrint fp lights objectInstance)
      cmdLightingOutputListFrom (index + 1) remaining

def cmdLightingOutputList : ShellProcedure Library Int Int := do
  let count ← query lights.count
  cmdLightingOutputListFrom fp lights 0 count

def cmdPriorityArrayValue (isRelinquished : Bool) (value : fp.Real) : fp.Double :=
  if isRelinquished then fp.infinity else fp.toDouble value

/-- The texts of the priority array, from the highest priority on. -/
def priorityArrayTexts (objectInstance : UInt32) (library : Library) : List CString :=
  (List.range 16).map fun index =>
    fp.text (cmdPriorityArrayValue fp
      (lights.priorityArrayRelinquished objectInstance (index + 1) library)
      (lights.priorityArrayValue objectInstance (index + 1) library))

def cmdLightingOutputValueGet : ShellProcedure Library Int Int := do
  let objectInstance ← validInstanceArgument platform fp lights argv
  let relinquishDefault ← query (lights.relinquishDefault objectInstance)
  let priorityArray ← query (priorityArrayTexts fp lights objectInstance)
  let overridden ← query (lights.overriddenStatus objectInstance)
  let outOfService ← query (lights.outOfService objectInstance)
  let trackingValue ← query (lights.trackingValue objectInstance)
  emit (.shellPrint
    "lighting-output-%d %.1f \x7b%.1f,%.1f,%.1f,%.1f,%.1f,%.1f,%.1f,%.1f,%.1f,%.1f,%.1f,%.1f,%.1f,%.1f,%.1f,%.1f,%.1f\x7d %s %s"
    ([unsignedText objectInstance.toNat, fp.text (fp.toDouble trackingValue)] ++ priorityArray ++
      [fp.text (fp.toDouble relinquishDefault), onOff overridden "overridden" "tracking",
        onOff outOfService "out-of-service" "in-service"]))
  return 0

def cmdLightingOutputTrack : ShellProcedure Library Int Int := do
  let objectInstance ← validInstanceArgument platform fp lights argv
  let trackingValue ← query (lights.trackingValue objectInstance)
  emit (.shellPrint "lighting-output-%d %.1f"
    [unsignedText objectInstance.toNat, fp.text (fp.toDouble trackingValue)])
  return 0

/-- `bacnet_strnicmp(text, word, length) == 0` with the length of the word. -/
def startsWithWord (word text : CString) : Bool :=
  (text.take word.length).map Char.toLower = word.map Char.toLower

def cmdLightingOutputOverride : ShellProcedure Library Int Int := do
  let objectInstance ← validInstanceArgument platform fp lights argv
  if 2 < argv.length then
    let text ← argument argv 2
    if startsWithWord "clear".toList text then
      update (lights.overriddenClear objectInstance)
      cmdLightingOutputValuePrint fp lights objectInstance
    else if startsWithWord "ramp".toList text then
      let level ← strtodArgument fp argv 3 "argv[3]=%s invalid percentage"
      let rampRate ← strtodArgument fp argv 4 "argv[4]=%s invalid ramp rate"
      update (lights.overriddenRamp objectInstance level rampRate)
      cmdLightingOutputValuePrint fp lights objectInstance
    else
      let level ← strtodArgument fp argv 2 "argv[2]=%s invalid percentage"
      if 3 < argv.length then
        let text ← argument argv 3
        if startsWithWord "momentary".toList text then
          update (lights.overriddenMomentary objectInstance level)
          cmdLightingOutputValuePrint fp lights objectInstance
        else fail .shellHelp (-Errno.einval)
      else
        update (lights.overriddenSet objectInstance level)
        cmdLightingOutputValuePrint fp lights objectInstance
  else cmdLightingOutputValuePrint fp lights objectInstance

def cmdLightingOutputValueSet : ShellProcedure Library Int Int := do
  let objectInstance ← instanceArgument platform argv "argv[1]=%s invalid instance number"
  if 2 < argv.length then
    let text ← argument argv 2
    let level ←
      (if startsWithWord "NULL".toList text then pure none
      else some <$> strtodArgument fp argv 2 "argv[2]=%s invalid percentage")
    let defaultPriority ← query (lights.defaultPriority objectInstance)
    let priority ← ifGiven argv 3 defaultPriority
      (UInt32.ofNat <$> strtoulArgument platform argv 3 "argv[3]=%s invalid priority" 3)
    match level with
    | none => update (lights.presentValueRelinquish objectInstance priority)
    | some level => update (lights.presentValueSet objectInstance level priority)
    cmdLightingOutputValuePrint fp lights objectInstance
  else cmdLightingOutputValuePrint fp lights objectInstance

def cmdLightingOutputValueRelinquish : ShellProcedure Library Int Int := do
  let objectInstance ← instanceArgument platform argv "argv[1]=%s invalid instance number"
  let defaultPriority ← query (lights.defaultPriority objectInstance)
  let priority ← ifGiven argv 2 defaultPriority
    (UInt32.ofNat <$> strtoulArgument platform argv 2 "argv[2]=%s invalid priority" 2)
  update (lights.presentValueRelinquish objectInstance priority)
  cmdLightingOutputValuePrint fp lights objectInstance

/-- The initial value of a command. -/
def LightingCommand.zero : LightingCommand fp.Real where
  operation := .none
  useRampRate := false
  useStepIncrement := false
  useFadeTime := false
  usePriority := false
  useTargetLevel := false
  targetLevel := fp.zero
  rampRate := fp.zero
  stepIncrement := fp.zero
  fadeTime := 0
  priority := 0

/-- The priority is passed on if it is one. -/
def LightingCommand.withPriority {Real : Type} (priority : UInt32) (data : LightingCommand Real) :
    LightingCommand Real :=
  if 1 ≤ priority ∧ priority ≤ 16 then { data with priority, usePriority := true } else data

def cmdLightingOutputFade : ShellProcedure Library Int Int := do
  let objectInstance ← instanceArgument platform argv "argv[1]=%s invalid instance number"
  if 2 < argv.length then
    let level ← strtodArgument fp argv 2 "argv[2]=%s invalid percentage"
    let fadeTime ← ifGiven argv 3 0
      (UInt32.ofNat <$> strtoulArgument platform argv 3 "argv[3]=%s invalid fade time" 2)
    let priority ← ifGiven argv 4 0
      (UInt32.ofNat <$> strtoulArgument platform argv 4 "argv[4]=%s invalid priority" 4)
    let data := { LightingCommand.zero fp with
      operation := .fadeTo, useFadeTime := true, fadeTime
      useTargetLevel := true, targetLevel := level }
    update (lights.lightingCommandSet objectInstance (data.withPriority priority))
    cmdLightingOutputValuePrint fp lights objectInstance
  else cmdLightingOutputValuePrint fp lights objectInstance

def cmdLightingOutputRamp : ShellProcedure Library Int Int := do
  let objectInstance ← instanceArgument platform argv "argv[1]=%s invalid instance number"
  if 2 < argv.length then
    let level ← strtodArgument fp argv 2 "argv[2]=%s invalid percentage"
    let rampRate ← ifGiven argv 3 fp.hundred
      (strtodArgument fp argv 3 "argv[3]=%s invalid percentage")
    let priority ← ifGiven argv 4 0
      (UInt32.ofNat <$> strtoulArgument platform argv 4 "argv[4]=%s invalid priority" 4)
    let data := { LightingCommand.zero fp with
      operation := .rampTo
      useRampRate := fp.isPositive rampRate
      rampRate := if fp.isPositive rampRate then rampRate else fp.zero
      useTargetLevel := true, targetLevel := level }
    update (lights.lightingCommandSet objectInstance (data.withPriority priority))
    cmdLightingOutputValuePrint fp lights objectInstance
  else cmdLightingOutputValuePrint fp lights objectInstance

def cmdLightingOutputStop : ShellProcedure Library Int Int := do
  let objectInstance ← instanceArgument platform argv "argv[1]=%s invalid instance number"
  let priority ← ifGiven argv 2 0
    (UInt32.ofNat <$> strtoulArgument platform argv 2 "argv[2]=%s invalid priority" 2)
  let data := { LightingCommand.zero fp with operation := .stop }
  update (lights.lightingCommandSet objectInstance (data.withPriority priority))
  cmdLightingOutputValuePrint fp lights objectInstance

def cmdLightingOutputStep (operation : LightingOperation) : ShellProcedure Library Int Int := do
  let objectInstance ← instanceArgument platform argv "argv[1]=%s invalid instance number"
  if 2 < argv.length then
    let stepIncrement ← strtodArgument fp argv 2 "argv[2]=%s invalid percentage"
    let priority ← ifGiven argv 3 0
      (UInt32.ofNat <$> strtoulArgument platform argv 3 "argv[3]=%s invalid priority" 3)
    let data := { LightingCommand.zero fp with
      operation, useStepIncrement := true, stepIncrement }
    update (lights.lightingCommandSet objectInstance (data.withPriority priority))
    cmdLightingOutputValuePrint fp lights objectInstance
  else cmdLightingOutputValuePrint fp lights objectInstance

def cmdLightingOutputStepUp : ShellProcedure Library Int Int :=
  cmdLightingOutputStep platform fp lights argv .stepUp

def cmdLightingOutputStepDown : ShellProcedure Library Int Int :=
  cmdLightingOutputStep platform fp lights argv .stepDown

def cmdLightingOutputStepOn : ShellProcedure Library Int Int :=
  cmdLightingOutputStep platform fp lights argv .stepOn

def cmdLightingOutputStepOff : ShellProcedure Library Int Int :=
  cmdLightingOutputStep platform fp lights argv .stepOff

def cmdLightingOutputBlink (operation : LightingOperation) : ShellProcedure Library Int Int := do
  let objectInstance ← instanceArgument platform argv "argv[1]=%s invalid instance number"
  let egressSeconds ← ifGiven argv 2 (60 * 5)
    (UInt32.ofNat <$> strtoulArgument platform argv 2 "argv[2]=%s invalid egress seconds" 2)
  let interval ← ifGiven argv 3 0
    (UInt16.ofNat <$> strtoulArgument platform argv 3 "argv[3]=%s invalid interval ms" 3)
  let offValue ← ifGiven argv 4 fp.zero
    (strtodArgument fp argv 4 "argv[4]=%s invalid off percentage")
  let priority ← ifGiven argv 5 0
    (UInt32.ofNat <$> strtoulArgument platform argv 5 "argv[5]=%s invalid priority" 5)
  update (lights.blinkWarnFeatureSet objectInstance offValue interval 0)
  update (lights.egressTimeSet objectInstance egressSeconds)
  let data := { LightingCommand.zero fp with operation }
  update (lights.lightingCommandSet objectInstance (data.withPriority priority))
  cmdLightingOutputValuePrint fp lights objectInstance

def cmdLightingOutputBlinkWarn : ShellProcedure Library Int Int :=
  cmdLightingOutputBlink platform fp lights argv .warn

def cmdLightingOutputBlinkWarnOff : ShellProcedure Library Int Int :=
  cmdLightingOutputBlink platform fp lights argv .warnOff

def cmdLightingOutputBlinkWarnRelinquish : ShellProcedure Library Int Int :=
  cmdLightingOutputBlink platform fp lights argv .warnRelinquish

/-- The handlers other than that of an override. -/
def lightingHandlers : List (ShellProcedure Library Int Int) :=
  [cmdLightingOutputList fp lights, cmdLightingOutputValueGet platform fp lights argv,
    cmdLightingOutputValueSet platform fp lights argv,
    cmdLightingOutputValueRelinquish platform fp lights argv,
    cmdLightingOutputFade platform fp lights argv, cmdLightingOutputRamp platform fp lights argv,
    cmdLightingOutputStop platform fp lights argv, cmdLightingOutputTrack platform fp lights argv,
    cmdLightingOutputStepUp platform fp lights argv,
    cmdLightingOutputStepDown platform fp lights argv,
    cmdLightingOutputStepOn platform fp lights argv,
    cmdLightingOutputStepOff platform fp lights argv,
    cmdLightingOutputBlinkWarn platform fp lights argv,
    cmdLightingOutputBlinkWarnOff platform fp lights argv,
    cmdLightingOutputBlinkWarnRelinquish platform fp lights argv]

end Definitions

section Results

variable {Library Return α β : Type} {platform : StoragePlatform} {fp : FloatingPoint}
  {lights : LightingOutputs Library fp.Real} {argv : List CString}

theorem faultless_ifGiven {index : ℕ} {default : α} {read : ShellProcedure Library Return α}
    (faultless : index < argv.length → Faultless read) :
    Faultless (ifGiven argv index default read) := by
  rw [ifGiven]
  split
  · rename_i given
    exact faultless given
  · exact .pure default

theorem faultless_strtoulArgument {index shown : ℕ} (invalid : String)
    (given : index < argv.length) (shownGiven : shown < argv.length) :
    Faultless (strtoulArgument platform argv index invalid shown :
      ShellProcedure Library Int ℕ) := by
  apply (faultless_argument given).bind
  intro text
  simp only
  split
  · exact (faultless_argument shownGiven).bind fun _ => faultless_fail _ _
  · exact .pure _

theorem faultless_strtodArgument {index : ℕ} (invalid : String) (given : index < argv.length) :
    Faultless (strtodArgument fp argv index invalid : ShellProcedure Library Int fp.Real) := by
  apply (faultless_argument given).bind
  intro text
  simp only
  split
  · exact faultless_fail _ _
  · exact .pure _

theorem faultless_instanceArgument (invalid : String) :
    Faultless (instanceArgument platform argv invalid : ShellProcedure Library Int UInt32) := by
  rw [instanceArgument]
  split
  · rename_i given
    exact (faultless_strtoulArgument invalid given given).bind fun _ => .pure _
  · exact faultless_fail _ _

theorem faultless_cmdLightingOutputValuePrint (objectInstance : UInt32) :
    Faultless (cmdLightingOutputValuePrint fp lights objectInstance) := by
  apply (Faultless.ask _).bind
  intro valid
  split
  · refine (Faultless.ask _).bind fun _ => (Faultless.ask _).bind fun _ =>
      (Faultless.ask _).bind fun _ => (Faultless.ask _).bind fun _ =>
      (Faultless.ask _).bind fun _ => (Faultless.modifyState _).bind fun _ => .pure _
  · exact .pure _

/-- A handler that has found its object ends by printing it. -/
theorem faultless_update_print (objectInstance : UInt32) (change : Library → Library) :
    Faultless (do
      update change
      cmdLightingOutputValuePrint fp lights objectInstance) :=
  (Faultless.modifyState _).bind fun _ => faultless_cmdLightingOutputValuePrint objectInstance

theorem faultless_validInstanceArgument :
    Faultless (validInstanceArgument platform fp lights argv) := by
  rw [validInstanceArgument]
  by_cases given : 1 < argv.length
  · apply (faultless_instanceArgument _).bind
    intro objectInstance
    apply (Faultless.ask _).bind
    intro valid
    split
    · exact .pure _
    · exact (faultless_argument given).bind fun _ => faultless_fail _ _
  · rw [instanceArgument, if_neg given, fail_bind]
    exact faultless_fail _ _

theorem faultless_cmdLightingOutputListFrom (index remaining : ℕ) :
    Faultless (cmdLightingOutputListFrom fp lights index remaining) := by
  induction remaining generalizing index with
  | zero => exact .pure 0
  | succ remaining ih =>
      apply (Faultless.ask _).bind
      intro objectInstance
      apply (faultless_cmdLightingOutputValuePrint objectInstance).call.bind
      intro _
      exact ih (index + 1)

/-- A number that is read behind a check that it is given. -/
theorem faultless_ifGiven_strtoul {index : ℕ} {default : α} (invalid : String)
    (convert : ℕ → α) {shown : ℕ} (before : shown ≤ index) :
    Faultless (ifGiven argv index default
      (convert <$> strtoulArgument platform argv index invalid shown) :
      ShellProcedure Library Int α) := by
  apply faultless_ifGiven
  intro given
  exact (faultless_strtoulArgument invalid given (Nat.lt_of_le_of_lt before given)).map

theorem faultless_ifGiven_strtod {index : ℕ} {default : fp.Real} (invalid : String) :
    Faultless (ifGiven argv index default (strtodArgument fp argv index invalid) :
      ShellProcedure Library Int fp.Real) :=
  faultless_ifGiven (faultless_strtodArgument invalid)

theorem faultless_cmdLightingOutputValueSet :
    Faultless (cmdLightingOutputValueSet platform fp lights argv) := by
  apply (faultless_instanceArgument _).bind
  intro objectInstance
  split
  · rename_i given
    apply (faultless_argument given).bind
    intro text
    refine Faultless.bind ?_ fun level => (Faultless.ask _).bind fun defaultPriority =>
      (faultless_ifGiven_strtoul _ _ (Nat.le_refl 3)).bind fun priority => ?_
    · split
      · exact .pure _
      · exact (faultless_strtodArgument _ given).map
    · cases level with
      | none => exact faultless_update_print objectInstance _
      | some level => exact faultless_update_print objectInstance _
  · exact faultless_cmdLightingOutputValuePrint objectInstance

theorem faultless_cmdLightingOutputFade :
    Faultless (cmdLightingOutputFade platform fp lights argv) := by
  apply (faultless_instanceArgument _).bind
  intro objectInstance
  split
  · rename_i given
    apply (faultless_strtodArgument _ given).bind
    intro level
    apply (faultless_ifGiven_strtoul _ _ (by decide)).bind
    intro fadeTime
    apply (faultless_ifGiven_strtoul _ _ (Nat.le_refl 4)).bind
    intro priority
    exact faultless_update_print objectInstance _
  · exact faultless_cmdLightingOutputValuePrint objectInstance

theorem faultless_cmdLightingOutputRamp :
    Faultless (cmdLightingOutputRamp platform fp lights argv) := by
  apply (faultless_instanceArgument _).bind
  intro objectInstance
  split
  · rename_i given
    apply (faultless_strtodArgument _ given).bind
    intro level
    apply (faultless_ifGiven_strtod _).bind
    intro rampRate
    apply (faultless_ifGiven_strtoul _ _ (Nat.le_refl 4)).bind
    intro priority
    exact faultless_update_print objectInstance _
  · exact faultless_cmdLightingOutputValuePrint objectInstance

theorem faultless_cmdLightingOutputStep (operation : LightingOperation) :
    Faultless (cmdLightingOutputStep platform fp lights argv operation) := by
  apply (faultless_instanceArgument _).bind
  intro objectInstance
  split
  · rename_i given
    apply (faultless_strtodArgument _ given).bind
    intro stepIncrement
    apply (faultless_ifGiven_strtoul _ _ (Nat.le_refl 3)).bind
    intro priority
    exact faultless_update_print objectInstance _
  · exact faultless_cmdLightingOutputValuePrint objectInstance

theorem faultless_cmdLightingOutputBlink (operation : LightingOperation) :
    Faultless (cmdLightingOutputBlink platform fp lights argv operation) := by
  apply (faultless_instanceArgument _).bind
  intro objectInstance
  apply (faultless_ifGiven_strtoul _ _ (Nat.le_refl 2)).bind
  intro egressSeconds
  apply (faultless_ifGiven_strtoul _ _ (Nat.le_refl 3)).bind
  intro interval
  apply (faultless_ifGiven_strtod _).bind
  intro offValue
  apply (faultless_ifGiven_strtoul _ _ (Nat.le_refl 5)).bind
  intro priority
  apply (Faultless.modifyState _).bind
  intro _
  apply (Faultless.modifyState _).bind
  intro _
  exact faultless_update_print objectInstance _

/-- Whatever the arguments, a handler other than that of an override uses given ones only. -/
theorem faultless_of_mem_lightingHandlers {handler : ShellProcedure Library Int Int}
    (mem : handler ∈ lightingHandlers platform fp lights argv) : Faultless handler := by
  simp only [lightingHandlers, List.mem_cons, List.not_mem_nil, or_false] at mem
  rcases mem with rfl | rfl | rfl | rfl | rfl | rfl | rfl | rfl | rfl | rfl | rfl | rfl | rfl |
    rfl | rfl
  · exact (Faultless.ask _).bind fun count => faultless_cmdLightingOutputListFrom 0 count
  · apply faultless_validInstanceArgument.bind
    intro objectInstance
    exact (Faultless.ask _).bind fun _ => (Faultless.ask _).bind fun _ =>
      (Faultless.ask _).bind fun _ => (Faultless.ask _).bind fun _ =>
      (Faultless.ask _).bind fun _ => (Faultless.modifyState _).bind fun _ => .pure 0
  · exact faultless_cmdLightingOutputValueSet
  · apply (faultless_instanceArgument _).bind
    intro objectInstance
    apply (Faultless.ask _).bind
    intro defaultPriority
    apply (faultless_ifGiven_strtoul _ _ (Nat.le_refl 2)).bind
    intro priority
    exact faultless_update_print objectInstance _
  · exact faultless_cmdLightingOutputFade
  · exact faultless_cmdLightingOutputRamp
  · apply (faultless_instanceArgument _).bind
    intro objectInstance
    apply (faultless_ifGiven_strtoul _ _ (Nat.le_refl 2)).bind
    intro priority
    exact faultless_update_print objectInstance _
  · apply faultless_validInstanceArgument.bind
    intro objectInstance
    exact (Faultless.ask _).bind fun _ => (Faultless.modifyState _).bind fun _ => .pure 0
  · exact faultless_cmdLightingOutputStep .stepUp
  · exact faultless_cmdLightingOutputStep .stepDown
  · exact faultless_cmdLightingOutputStep .stepOn
  · exact faultless_cmdLightingOutputStep .stepOff
  · exact faultless_cmdLightingOutputBlink .warn
  · exact faultless_cmdLightingOutputBlink .warnOff
  · exact faultless_cmdLightingOutputBlink .warnRelinquish

/-! ## Overrides -/

/-- The argument is the number of an object. -/
def objectNamed (platform : StoragePlatform) (valid : UInt32 → Bool) (text : CString) : Prop :=
  (strtoul platform.ulongBits text).2 ≠ text ∧
    valid (UInt32.ofNat (strtoul platform.ulongBits text).1)

/-- The argument asks for a ramp. -/
def asksRamp (text : CString) : Prop :=
  startsWithWord "clear".toList text = false ∧ startsWithWord "ramp".toList text = true

/-- A ramp of an object is not left without its level or its rate. -/
def OverrideArguments (platform : StoragePlatform) (fp : FloatingPoint) (valid : UInt32 → Bool) :
    List CString → Prop
  | [_, instanceText, text] => ¬(objectNamed platform valid instanceText ∧ asksRamp text)
  | [_, instanceText, text, level] =>
      ¬(objectNamed platform valid instanceText ∧ asksRamp text ∧ (fp.strtod level).2 ≠ level)
  | _ => True

variable {state : ShellState Library}

theorem validInstanceArgument_eval {command instanceText : CString} {rest : List CString}
    (named : objectNamed platform (fun i => lights.validInstance i state.library) instanceText) :
    eval (validInstanceArgument platform fp lights (command :: instanceText :: rest)) state =
      .ok (.ok (UInt32.ofNat (strtoul platform.ulongBits instanceText).1), state) := by
  have valid := named.2
  simp [validInstanceArgument, instanceArgument, strtoulArgument, argument, named.1, query,
    eval_bind, valid]

theorem validInstanceArgument_eval_error {command instanceText : CString} {rest : List CString}
    (unnamed : ¬objectNamed platform (fun i => lights.validInstance i state.library)
      instanceText) :
    eval (validInstanceArgument platform fp lights (command :: instanceText :: rest)) state =
      .ok (.error (-Errno.einval), { state with
        output := state.output ++
          [.shellError "argv[1]=%s invalid instance" [instanceText]] }) := by
  by_cases number : (strtoul platform.ulongBits instanceText).2 = instanceText
  · simp [validInstanceArgument, instanceArgument, strtoulArgument, argument, number]
  · have invalid : lights.validInstance (UInt32.ofNat (strtoul platform.ulongBits instanceText).1)
        state.library = false := by
      simpa [objectNamed, number] using unnamed
    simp [validInstanceArgument, instanceArgument, strtoulArgument, argument, number, query,
      eval_bind, invalid]

theorem cmdLightingOutputOverride_faultless_iff :
    FaultlessAt (cmdLightingOutputOverride platform fp lights argv) state ↔
      OverrideArguments platform fp (fun i => lights.validInstance i state.library) argv := by
  rcases argv with _ | ⟨command, _ | ⟨instanceText, rest⟩⟩
  · simp [cmdLightingOutputOverride, validInstanceArgument, instanceArgument, OverrideArguments]
  · simp [cmdLightingOutputOverride, validInstanceArgument, instanceArgument, OverrideArguments]
  · by_cases named : objectNamed platform (fun i => lights.validInstance i state.library)
      instanceText
    · rw [cmdLightingOutputOverride, faultlessAt_bind_ok _ (validInstanceArgument_eval named)]
      generalize UInt32.ofNat (strtoul platform.ulongBits instanceText).1 = objectInstance
      have print := @faultless_cmdLightingOutputValuePrint _ fp lights objectInstance
      have updated := @faultless_update_print _ fp lights objectInstance
      rcases rest with _ | ⟨text, rest⟩
      · simpa [OverrideArguments] using print state
      · rw [if_pos (by simp), argument_of_getElem? rfl, pure_bind]
        by_cases ramp : asksRamp text
        · rw [if_neg (Bool.eq_false_iff.mp ramp.1), if_pos ramp.2]
          rcases rest with _ | ⟨level, rest⟩
          · rw [strtodArgument, argument_of_length_le (by simp)]
            simp [OverrideArguments, named, ramp]
          · rw [strtodArgument, argument_of_getElem? rfl, pure_bind]
            by_cases number : (fp.strtod level).2 = level
            · simp only [number, if_true, fail_bind]
              cases rest <;> simp [OverrideArguments, number]
            · simp only [number, if_false, pure_bind]
              rcases rest with _ | ⟨rate, rest⟩
              · rw [strtodArgument, argument_of_length_le (by simp)]
                simp [OverrideArguments, named, ramp, number]
              · refine iff_of_true ?_ trivial
                apply FaultlessAt.bind (faultless_strtodArgument _ (by simp) state)
                intro rampRate
                exact updated _
        · have whatever : OverrideArguments platform fp
              (fun i => lights.validInstance i state.library)
              (command :: instanceText :: text :: rest) := by
            rcases rest with _ | ⟨level, _ | _⟩ <;> simp [OverrideArguments, ramp]
          refine iff_of_true ?_ whatever
          split
          · exact updated _ state
          · rename_i clear
            rw [if_neg fun asked => ramp ⟨Bool.eq_false_iff.mpr clear, asked⟩]
            apply FaultlessAt.bind (faultless_strtodArgument _ (by simp) state)
            intro level
            split
            · rename_i given
              apply (faultless_argument given).bind
              intro momentary
              split
              · exact updated _
              · exact faultless_fail _ _
            · exact updated _
    · have stopped := @validInstanceArgument_eval_error _ platform fp lights state command
        instanceText rest named
      refine iff_of_true ⟨_, eval_bind_error _ stopped⟩ ?_
      rcases rest with _ | ⟨text, _ | ⟨level, _ | _⟩⟩ <;> simp [OverrideArguments, named]

/-! ## All of them -/

/-- What is promised of the parsers and the handlers for the arguments of a command. -/
structure ArgumentsKept (platform : StoragePlatform) (fp : FloatingPoint) (bactext : BacnetText)
    (lights : LightingOutputs Library fp.Real) (argv : List CString) (out : ObjectArguments)
    (state : ShellState Library) : Prop where
  storageKey : FaultlessAt (bacnetStorageKeyParse platform argv out) state
  settingsObject : FaultlessAt (bacnetSettingsObjectParse platform bactext argv out) state
  objectTypeInstance : FaultlessAt (bacnetShellObjectTypeInstanceParse bactext argv out) state
  property : FaultlessAt (bacnetShellPropertyParse platform bactext argv out) state
  objectInstance : FaultlessAt (bacnetObjectInstanceParse bactext argv out) state
  override : FaultlessAt (cmdLightingOutputOverride platform fp lights argv) state
  lighting : ∀ handler ∈ lightingHandlers platform fp lights argv, FaultlessAt handler state

/--
Nothing is read or written out of bounds exactly when a key has a property, an object
type an instance, a ramp of an object its level and rate, and the name of a property
fits its array.
-/
theorem argumentsKept_iff (platform : StoragePlatform) (fp : FloatingPoint)
    (bactext : BacnetText) (lights : LightingOutputs Library fp.Real) (command : CString)
    (arguments : List CString) (out : ObjectArguments) (state : ShellState Library) :
    ArgumentsKept platform fp bactext lights (command :: arguments) out state ↔
      StorageKeyArguments platform (command :: arguments) ∧
        SettingsNameFits platform bactext (command :: arguments) ∧
        ObjectInstanceArguments bactext (command :: arguments) ∧
        OverrideArguments platform fp (fun i => lights.validInstance i state.library)
          (command :: arguments) := by
  have given : command :: arguments ≠ [] := List.cons_ne_nil _ _
  rw [← bacnetStorageKeyParse_faultless_iff platform out given,
    ← bacnetSettingsObjectParse_faultless_iff platform bactext out,
    ← bacnetObjectInstanceParse_faultless_iff bactext out given,
    ← cmdLightingOutputOverride_faultless_iff]
  constructor
  · intro kept
    exact ⟨kept.storageKey, kept.settingsObject, kept.objectInstance, kept.override⟩
  · rintro ⟨storageKey, settingsObject, objectInstance, override⟩
    exact
      { storageKey, settingsObject, objectInstance, override
        objectTypeInstance := faultless_bacnetShellObjectTypeInstanceParse bactext out state
        property := faultless_bacnetShellPropertyParse platform bactext out given state
        lighting := fun handler mem => faultless_of_mem_lightingHandlers mem state }

/-- A storage command with an object and no property, and a name of 80 characters. -/
theorem not_argumentsKept :
    let platform := StoragePlatform.reference bacnetSettingsBaseName
    let bactext : BacnetText :=
      { objectTypeStrtol := fun _ => some 5, propertyStrtol := fun _ => none
        stringToUint32 := fun _ => none, deviceObjectInstanceNumber := 1 }
    let out : ObjectArguments := ⟨0, 0, 0, 0⟩
    let state : ShellState Unit := ⟨(), []⟩
    ¬FaultlessAt (bacnetStorageKeyParse platform ["string".toList, "5".toList, "100".toList] out)
        state ∧
      ¬FaultlessAt (bacnetObjectInstanceParse bactext ["create".toList, "5".toList] out) state ∧
      ¬FaultlessAt (bacnetSettingsObjectParse platform bactext
        ["value".toList, "5".toList, "100".toList, List.replicate 80 'a'] out) state := by
  intro platform bactext out state
  have five : bacnetStorageStrtoul platform "5".toList = some 5 := by decide
  have hundred : bacnetStorageStrtoul platform "100".toList = some 100 := by decide
  have word : firstWord (List.replicate 80 'a') = List.replicate 80 'a' := by decide
  refine ⟨?_, ?_, ?_⟩
  · rw [bacnetStorageKeyParse_faultless_iff platform out (List.cons_ne_nil _ _)]
    intro safe
    exact safe ⟨⟨5, five, by decide⟩, 100, hundred, by decide⟩
  · rw [bacnetObjectInstanceParse_faultless_iff bactext out (List.cons_ne_nil _ _)]
    intro safe
    exact safe ⟨5, rfl, by decide⟩
  · rw [bacnetSettingsObjectParse_faultless_iff platform bactext out]
    intro fits
    have noNumber : sscanf (numberFormat platform platform.ulongBits) (List.replicate 80 'a') =
        [] := by
      simp only [numberFormat, sscanf, List.replicate_succ,
        convert_unsigned_of_isAlpha (show ('a' : Char).isAlpha from rfl)]
    have short := fits ⟨⟨5, rfl, by decide⟩, 100, hundred, by decide⟩ noNumber
    rw [word, List.length_replicate] at short
    exact Nat.lt_irrefl 80 short

end Results

end BacnetZephyr
