import BacnetZephyr.Shell.LightingOutput

/-!
# What the lighting handlers ask for

A handler that reads numbers from its arguments either refuses them or makes a request:
calls that change one lighting output, after which it prints the output. `performs` says
for each handler which arguments are refused and what the others ask for. A refusal comes
before the first call, and no handler looks at the text after a number.
-/

namespace BacnetZephyr

open CLib Procedure

/-- The calls that change a lighting output. -/
inductive LightingCall (Real : Type) where
  | presentValueSet (level : Real) (priority : UInt32)
  | presentValueRelinquish (priority : UInt32)
  | lightingCommandSet (data : LightingCommand Real)
  | blinkWarnFeatureSet (offValue : Real) (interval count : UInt16)
  | egressTimeSet (seconds : UInt32)
  | overriddenClear
  | overriddenRamp (level rampRate : Real)
  | overriddenMomentary (level : Real)
  | overriddenSet (level : Real)

structure LightingRequest (Real : Type) where
  objectInstance : UInt32
  calls : List (LightingCall Real)

/-- The handlers with number arguments; a step and a blink are each several commands. -/
inductive LightingHandler where
  | set
  | relinquish
  | fade
  | ramp
  | stop
  | step (operation : LightingOperation)
  | blink (operation : LightingOperation)
  | override
deriving DecidableEq

inductive NumberField where
  | objectInstance
  | priority
  | fadeTime
  | egressSeconds
  | interval
deriving DecidableEq

def NumberField.smallest : NumberField → ℕ
  | .priority => 1
  | .objectInstance | .fadeTime | .egressSeconds | .interval => 0

/-- The largest priority, or the largest number of the variable for it. -/
def NumberField.largest : NumberField → ℕ
  | .priority => 16
  | .interval => 0xFFFF
  | .objectInstance | .fadeTime | .egressSeconds => 0xFFFFFFFF

def NumberField.Holds (field : NumberField) (number : ℕ) : Prop :=
  field.smallest ≤ number ∧ number ≤ field.largest

/-- The arguments that are numbers, and what they are for. -/
def LightingHandler.numbers : LightingHandler → List (ℕ × NumberField)
  | .set | .step _ => [(1, .objectInstance), (3, .priority)]
  | .relinquish | .stop => [(1, .objectInstance), (2, .priority)]
  | .fade => [(1, .objectInstance), (3, .fadeTime), (4, .priority)]
  | .ramp => [(1, .objectInstance), (4, .priority)]
  | .blink _ => [(1, .objectInstance), (2, .egressSeconds), (3, .interval), (5, .priority)]
  | .override => [(1, .objectInstance)]

section Definitions

variable {Library : Type} (platform : StoragePlatform) (fp : FloatingPoint)
  (lights : LightingOutputs Library fp.Real) (argv : List CString)

def LightingHandler.run : LightingHandler → ShellProcedure Library Int Int
  | .set => cmdLightingOutputValueSet platform fp lights argv
  | .relinquish => cmdLightingOutputValueRelinquish platform fp lights argv
  | .fade => cmdLightingOutputFade platform fp lights argv
  | .ramp => cmdLightingOutputRamp platform fp lights argv
  | .stop => cmdLightingOutputStop platform fp lights argv
  | .step operation => cmdLightingOutputStep platform fp lights argv operation
  | .blink operation => cmdLightingOutputBlink platform fp lights argv operation
  | .override => cmdLightingOutputOverride platform fp lights argv

def LightingCall.apply {Real : Type} (lights : LightingOutputs Library Real)
    (objectInstance : UInt32) : LightingCall Real → Library → Library
  | presentValueSet level priority => lights.presentValueSet objectInstance level priority
  | presentValueRelinquish priority => lights.presentValueRelinquish objectInstance priority
  | lightingCommandSet data => lights.lightingCommandSet objectInstance data
  | blinkWarnFeatureSet offValue interval count =>
      lights.blinkWarnFeatureSet objectInstance offValue interval count
  | egressTimeSet seconds => lights.egressTimeSet objectInstance seconds
  | overriddenClear => lights.overriddenClear objectInstance
  | overriddenRamp level rampRate => lights.overriddenRamp objectInstance level rampRate
  | overriddenMomentary level => lights.overriddenMomentary objectInstance level
  | overriddenSet level => lights.overriddenSet objectInstance level

def LightingRequest.applyAll {Real : Type} (lights : LightingOutputs Library Real)
    (request : LightingRequest Real) (library : Library) : Library :=
  request.calls.foldl (fun library call => call.apply lights request.objectInstance library) library

/-- Make the calls, and print the output. -/
def LightingRequest.perform (request : LightingRequest fp.Real) :
    ShellProcedure Library Int Int := do
  update (request.applyAll lights)
  cmdLightingOutputValuePrint fp lights request.objectInstance

/-- A request that was read, or the argument that is missing. -/
def performOrFault : Except ShellFault (LightingRequest fp.Real) → ShellProcedure Library Int Int
  | .ok request => request.perform fp lights
  | .error what => fault what

/-! ## Reading arguments -/

def textAt (index : ℕ) : CString := argv.getD index []

/-- The number an argument starts with. -/
def numberAt (index : ℕ) : ℕ := (strtoul platform.ulongBits (textAt argv index)).1

def instanceAt : UInt32 := UInt32.ofNat (numberAt platform argv 1)

def levelAt (index : ℕ) : fp.Real := fp.toReal (fp.strtod (textAt argv index)).1

/-- An argument that may be left out. -/
def givenOr {α : Type} (index : ℕ) (default value : α) : α :=
  if index < argv.length then value else default

/-- The argument is given, and `strtoul` finds no digits in it. -/
def NoNumber (index : ℕ) : Prop :=
  index < argv.length ∧ (strtoul platform.ulongBits (textAt argv index)).2 = textAt argv index

/-- The argument is given, and `strtod` finds no number in it. -/
def NoLevel (index : ℕ) : Prop :=
  index < argv.length ∧ (fp.strtod (textAt argv index)).2 = textAt argv index

/-- The argument starts with the word. -/
def asksFor (word : String) (index : ℕ) : Bool := startsWithWord word.toList (textAt argv index)

/-- The arguments that are read as levels. -/
def LightingHandler.levels : LightingHandler → List ℕ
  | .set => if asksFor argv "NULL" 2 then [] else [2]
  | .fade | .step _ => [2]
  | .ramp => [2, 3]
  | .blink _ => [4]
  | .override =>
      if asksFor argv "clear" 2 then [] else if asksFor argv "ramp" 2 then [3, 4] else [2]
  | .relinquish | .stop => []

/-- An override with a level and another word after it. -/
def NotMomentary : Prop :=
  3 < argv.length ∧ asksFor argv "clear" 2 = false ∧ asksFor argv "ramp" 2 = false ∧
    asksFor argv "momentary" 3 = false

/--
The handler prints a message about the arguments and makes no call: there are none, one of
them is no number at all, or an override does not name an object or has another option.
-/
def LightingHandler.Refuses (valid : Bool) (handler : LightingHandler) : Prop :=
  argv.length ≤ 1 ∨ (∃ number ∈ handler.numbers, NoNumber platform argv number.1) ∨
    (∃ index ∈ handler.levels argv, NoLevel fp argv index) ∨
    handler = .override ∧ (valid = false ∨ NotMomentary argv)

/-! ## Requests -/

/-- The arguments after `ramp` are read without a check that they are given. -/
def rampCalls : Except ShellFault (List (LightingCall fp.Real)) :=
  if argv.length ≤ 3 then .error (.argument 3)
  else if argv.length ≤ 4 then .error (.argument 4)
  else .ok [.overriddenRamp (levelAt fp argv 3) (levelAt fp argv 4)]

def levelCall : LightingCall fp.Real :=
  if 3 < argv.length then .overriddenMomentary (levelAt fp argv 2)
  else .overriddenSet (levelAt fp argv 2)

def overrideCalls : Except ShellFault (List (LightingCall fp.Real)) :=
  if 2 < argv.length then
    if asksFor argv "clear" 2 then .ok [.overriddenClear]
    else if asksFor argv "ramp" 2 then rampCalls fp argv
    else .ok [levelCall fp argv]
  else .ok []

/-- A command with its priority, which is the argument at the index. -/
def commandCall (data : LightingCommand fp.Real) (index : ℕ) : LightingCall fp.Real :=
  .lightingCommandSet
    (data.withPriority (givenOr argv index 0 (UInt32.ofNat (numberAt platform argv index))))

/-- The calls of a handler; the default priority is that of the output. -/
def LightingHandler.calls (defaultPriority : UInt32) :
    LightingHandler → Except ShellFault (List (LightingCall fp.Real))
  | .set =>
      let priority := givenOr argv 3 defaultPriority (UInt32.ofNat (numberAt platform argv 3))
      if 2 < argv.length then
        .ok [if asksFor argv "NULL" 2 then .presentValueRelinquish priority
          else .presentValueSet (levelAt fp argv 2) priority]
      else .ok []
  | .relinquish =>
      .ok [.presentValueRelinquish
        (givenOr argv 2 defaultPriority (UInt32.ofNat (numberAt platform argv 2)))]
  | .fade =>
      if 2 < argv.length then
        .ok [commandCall platform fp argv { LightingCommand.zero fp with
          operation := .fadeTo, useFadeTime := true
          fadeTime := givenOr argv 3 0 (UInt32.ofNat (numberAt platform argv 3))
          useTargetLevel := true, targetLevel := levelAt fp argv 2 } 4]
      else .ok []
  | .ramp =>
      let rampRate := givenOr argv 3 fp.hundred (levelAt fp argv 3)
      if 2 < argv.length then
        .ok [commandCall platform fp argv { LightingCommand.zero fp with
          operation := .rampTo
          useRampRate := fp.isPositive rampRate
          rampRate := if fp.isPositive rampRate then rampRate else fp.zero
          useTargetLevel := true, targetLevel := levelAt fp argv 2 } 4]
      else .ok []
  | .stop =>
      .ok [commandCall platform fp argv { LightingCommand.zero fp with operation := .stop } 2]
  | .step operation =>
      if 2 < argv.length then
        .ok [commandCall platform fp argv { LightingCommand.zero fp with
          operation, useStepIncrement := true, stepIncrement := levelAt fp argv 2 } 3]
      else .ok []
  | .blink operation =>
      .ok [.blinkWarnFeatureSet (givenOr argv 4 fp.zero (levelAt fp argv 4))
          (givenOr argv 3 0 (UInt16.ofNat (numberAt platform argv 3))) 0,
        .egressTimeSet (givenOr argv 2 (60 * 5) (UInt32.ofNat (numberAt platform argv 2))),
        commandCall platform fp argv { LightingCommand.zero fp with operation } 5]
  | .override => overrideCalls fp argv

def LightingHandler.request (defaultPriority : UInt32) (handler : LightingHandler) :
    Except ShellFault (LightingRequest fp.Real) :=
  (handler.calls platform fp argv defaultPriority).map fun calls =>
    { objectInstance := instanceAt platform argv, calls }

end Definitions

section Results

variable {Library α : Type} {platform : StoragePlatform} {fp : FloatingPoint}
  {lights : LightingOutputs Library fp.Real} {argv : List CString} {state : ShellState Library}

/-- The handler returns an error, and no output has been called. -/
def Refusal (state : ShellState Library) (result : Int) (after : ShellState Library) : Prop :=
  result = -Errno.einval ∧ after.library = state.library

/-! ## Reading arguments -/

theorem argument_of_given {index : ℕ} (given : index < argv.length) :
    (argument argv index : ShellProcedure Library Int CString) = pure (textAt argv index) := by
  have text : argv[index]? = some (textAt argv index) := by
    rw [textAt, List.getD_eq_getElem?_getD, List.getElem?_eq_getElem given, Option.getD_some]
  exact argument_of_getElem? text

theorem not_noNumber {index : ℕ} (missing : argv.length ≤ index) :
    ¬NoNumber platform argv index :=
  fun refused => Nat.not_lt_of_le missing refused.1

theorem not_noLevel {index : ℕ} (missing : argv.length ≤ index) : ¬NoLevel fp argv index :=
  fun refused => Nat.not_lt_of_le missing refused.1

theorem guards_fail {output : ShellOutput} {next : ShellProcedure Library Int α} :
    Guards (Refusal state) state True (fail output (-Errno.einval)) next := by
  have allowed : Refusal state (-Errno.einval)
      { state with output := state.output ++ [output] } := ⟨rfl, rfl⟩
  exact Guards.of_eval allowed (eval_fail output _)

theorem guards_strtoulArgument {index shown : ℕ} (invalid : String) (given : index < argv.length)
    (shownGiven : shown < argv.length) :
    Guards (Refusal state) state (NoNumber platform argv index)
      (strtoulArgument platform argv index invalid shown)
      (pure (numberAt platform argv index)) := by
  simp only [strtoulArgument]
  rw [argument_of_given given, pure_bind, argument_of_given shownGiven]
  by_cases none : (strtoul platform.ulongBits (textAt argv index)).2 = textAt argv index
  · simp only [none, if_true, pure_bind]
    exact guards_fail.of_iff (iff_true_intro ⟨given, none⟩)
  · simp only [none, if_false]
    exact (Guards.pass _).of_iff (iff_false_intro fun refused => none refused.2)

theorem guards_strtodArgument {index : ℕ} (invalid : String) (given : index < argv.length) :
    Guards (Refusal state) state (NoLevel fp argv index)
      (strtodArgument fp argv index invalid) (pure (levelAt fp argv index)) := by
  simp only [strtodArgument]
  rw [argument_of_given given, pure_bind]
  by_cases none : (fp.strtod (textAt argv index)).2 = textAt argv index
  · simp only [none, if_true]
    exact guards_fail.of_iff (iff_true_intro ⟨given, none⟩)
  · simp only [none, if_false]
    exact (Guards.pass _).of_iff (iff_false_intro fun refused => none refused.2)

theorem guards_instanceArgument (invalid : String) :
    Guards (Refusal state) state (argv.length ≤ 1 ∨ NoNumber platform argv 1)
      (instanceArgument platform argv invalid) (pure (instanceAt platform argv)) := by
  rw [instanceArgument]
  split
  · rename_i given
    have number := (@guards_strtoulArgument _ platform argv state 1 1 invalid given given).map
      UInt32.ofNat
    rw [map_eq_pure_bind] at number
    exact number.of_iff (or_iff_right (Nat.not_le_of_lt given))
  · rename_i missing
    exact guards_fail.of_iff (iff_true_intro (.inl (Nat.le_of_not_lt missing)))

/-- A number that may be left out; the message shows an argument that is given. -/
theorem guards_number {index shown : ℕ} (invalid : String) (convert : ℕ → α) (default : α)
    (before : shown ≤ index) :
    Guards (Refusal state) state (NoNumber platform argv index)
      (ifGiven argv index default (convert <$> strtoulArgument platform argv index invalid shown))
      (pure (givenOr argv index default (convert (numberAt platform argv index)))) := by
  rw [ifGiven, givenOr]
  split
  · rename_i given
    exact (guards_strtoulArgument invalid given (Nat.lt_of_le_of_lt before given)).map convert
  · rename_i missing
    exact (Guards.pass _).of_iff (iff_false_intro (not_noNumber (Nat.le_of_not_lt missing)))

theorem guards_level {index : ℕ} (invalid : String) (default : fp.Real) :
    Guards (Refusal state) state (NoLevel fp argv index)
      (ifGiven argv index default (strtodArgument fp argv index invalid))
      (pure (givenOr argv index default (levelAt fp argv index))) := by
  rw [ifGiven, givenOr]
  split
  · rename_i given
    exact guards_strtodArgument invalid given
  · rename_i missing
    exact (Guards.pass _).of_iff (iff_false_intro (not_noLevel (Nat.le_of_not_lt missing)))

/-! ## The handlers -/

/-- The handler refuses its arguments, or does what it is asked for. -/
def LightingHandler.Performs (platform : StoragePlatform) (fp : FloatingPoint)
    (lights : LightingOutputs Library fp.Real) (argv : List CString) (state : ShellState Library)
    (handler : LightingHandler) : Prop :=
  Guards (Refusal state) state
    (handler.Refuses platform fp argv
      (lights.validInstance (instanceAt platform argv) state.library))
    (handler.run platform fp lights argv)
    (performOrFault fp lights
      (handler.request platform fp argv
        (lights.defaultPriority (instanceAt platform argv) state.library)))

theorem LightingHandler.first_mem_numbers (handler : LightingHandler) :
    (1, .objectInstance) ∈ handler.numbers := by
  cases handler <;> exact List.mem_cons_self

theorem LightingHandler.numbers_after (handler : LightingHandler) :
    ∀ number ∈ handler.numbers, number.1 ≠ 1 → 2 ≤ number.1 := by
  cases handler <;> simp [LightingHandler.numbers]

theorem LightingHandler.levels_after (handler : LightingHandler) :
    ∀ index ∈ handler.levels argv, 2 ≤ index := by
  intro index mem
  cases handler with
  | set =>
      simp only [LightingHandler.levels] at mem
      split at mem
      · cases mem
      · exact Nat.le_of_eq (List.mem_singleton.mp mem).symm
  | override =>
      simp only [LightingHandler.levels] at mem
      split at mem
      · cases mem
      · split at mem
        · simp only [List.mem_cons, List.not_mem_nil, or_false] at mem
          omega
        · exact Nat.le_of_eq (List.mem_singleton.mp mem).symm
  | relinquish | stop => cases mem
  | fade | ramp | step _ | blink _ =>
      simp only [LightingHandler.levels, List.mem_cons, List.not_mem_nil, or_false] at mem
      omega

/-- With one argument after the command only the object can be wrong. -/
theorem refuses_short {handler : LightingHandler} (short : argv.length ≤ 2) (valid : Bool) :
    handler.Refuses platform fp argv valid ↔
      (argv.length ≤ 1 ∨ NoNumber platform argv 1) ∨ handler = .override ∧ valid = false := by
  have number : (∃ number ∈ handler.numbers, NoNumber platform argv number.1) ↔
      NoNumber platform argv 1 := by
    constructor
    · rintro ⟨number, mem, none⟩
      by_cases first : number.1 = 1
      · rwa [first] at none
      · have after := handler.numbers_after number mem first
        exact absurd none (not_noNumber (by omega))
    · intro none
      exact ⟨_, handler.first_mem_numbers, none⟩
  have level : ¬∃ index ∈ handler.levels argv, NoLevel fp argv index := by
    rintro ⟨index, mem, none⟩
    have after := handler.levels_after index mem
    exact not_noLevel (by omega) none
  have momentary : ¬NotMomentary argv := by
    rintro ⟨long, -⟩
    omega
  simp only [LightingHandler.Refuses, number, level, momentary, or_false, false_or, or_assoc]

/-- With one argument after the command a handler of levels only prints the output. -/
theorem performs_short {handler : LightingHandler} (short : ¬2 < argv.length)
    (other : handler ≠ .override)
    (prints : handler.run platform fp lights argv =
      instanceArgument platform argv "argv[1]=%s invalid instance number" >>=
        cmdLightingOutputValuePrint fp lights)
    (silent : handler.calls platform fp argv
      (lights.defaultPriority (instanceAt platform argv) state.library) = .ok []) :
    handler.Performs platform fp lights argv state := by
  rw [LightingHandler.Performs, LightingHandler.request, silent, prints]
  apply Guards.of_iff
  · apply (guards_instanceArgument _).bind
    exact Guards.pass _
  · simp [refuses_short (Nat.le_of_not_lt short), other]

theorem performs_fade : LightingHandler.Performs platform fp lights argv state .fade := by
  by_cases more : 2 < argv.length
  · rw [LightingHandler.Performs, LightingHandler.request, LightingHandler.calls, if_pos more]
    apply Guards.of_iff
    · apply (guards_instanceArgument _).bind
      rw [if_pos more]
      apply (guards_strtodArgument _ more).bind
      apply (guards_number _ _ _ (by decide)).bind
      apply (guards_number _ _ _ (Nat.le_refl 4)).bind
      exact Guards.pass _
    · simp [LightingHandler.Refuses, LightingHandler.numbers, LightingHandler.levels]
      tauto
  · apply performs_short more
    · exact LightingHandler.noConfusion
    · simp only [LightingHandler.run, cmdLightingOutputFade, if_neg more]
    · simp only [LightingHandler.calls, if_neg more]

theorem performs_ramp : LightingHandler.Performs platform fp lights argv state .ramp := by
  by_cases more : 2 < argv.length
  · rw [LightingHandler.Performs, LightingHandler.request, LightingHandler.calls, if_pos more]
    apply Guards.of_iff
    · apply (guards_instanceArgument _).bind
      rw [if_pos more]
      apply (guards_strtodArgument _ more).bind
      apply (guards_level _ _).bind
      apply (guards_number _ _ _ (Nat.le_refl 4)).bind
      exact Guards.pass _
    · simp [LightingHandler.Refuses, LightingHandler.numbers, LightingHandler.levels]
      tauto
  · apply performs_short more
    · exact LightingHandler.noConfusion
    · simp only [LightingHandler.run, cmdLightingOutputRamp, if_neg more]
    · simp only [LightingHandler.calls, if_neg more]

theorem performs_step (operation : LightingOperation) :
    LightingHandler.Performs platform fp lights argv state (.step operation) := by
  by_cases more : 2 < argv.length
  · rw [LightingHandler.Performs, LightingHandler.request, LightingHandler.calls, if_pos more]
    apply Guards.of_iff
    · apply (guards_instanceArgument _).bind
      rw [if_pos more]
      apply (guards_strtodArgument _ more).bind
      apply (guards_number _ _ _ (Nat.le_refl 3)).bind
      exact Guards.pass _
    · simp [LightingHandler.Refuses, LightingHandler.numbers, LightingHandler.levels]
      tauto
  · apply performs_short more
    · exact LightingHandler.noConfusion
    · simp only [LightingHandler.run, cmdLightingOutputStep, if_neg more]
    · simp only [LightingHandler.calls, if_neg more]

theorem performs_relinquish :
    LightingHandler.Performs platform fp lights argv state .relinquish := by
  rw [LightingHandler.Performs, LightingHandler.request, LightingHandler.calls]
  apply Guards.of_iff
  · apply (guards_instanceArgument _).bind
    apply (Guards.ask _).bind
    apply (guards_number _ _ _ (Nat.le_refl 2)).bind
    exact Guards.pass _
  · simp [LightingHandler.Refuses, LightingHandler.numbers, LightingHandler.levels]
    tauto

theorem performs_stop : LightingHandler.Performs platform fp lights argv state .stop := by
  rw [LightingHandler.Performs, LightingHandler.request, LightingHandler.calls]
  apply Guards.of_iff
  · apply (guards_instanceArgument _).bind
    apply (guards_number _ _ _ (Nat.le_refl 2)).bind
    exact Guards.pass _
  · simp [LightingHandler.Refuses, LightingHandler.numbers, LightingHandler.levels]
    tauto

theorem performs_blink (operation : LightingOperation) :
    LightingHandler.Performs platform fp lights argv state (.blink operation) := by
  rw [LightingHandler.Performs, LightingHandler.request, LightingHandler.calls]
  apply Guards.of_iff
  · apply (guards_instanceArgument _).bind
    apply (guards_number _ _ _ (Nat.le_refl 2)).bind
    apply (guards_number _ _ _ (Nat.le_refl 3)).bind
    apply (guards_level _ _).bind
    apply (guards_number _ _ _ (Nat.le_refl 5)).bind
    exact Guards.pass _
  · simp [LightingHandler.Refuses, LightingHandler.numbers, LightingHandler.levels]
    tauto

/-- The level is read unless the word stands in its place. -/
theorem performs_set : LightingHandler.Performs platform fp lights argv state .set := by
  by_cases more : 2 < argv.length
  · rw [LightingHandler.Performs, LightingHandler.request, LightingHandler.calls, if_pos more]
    by_cases null : asksFor argv "NULL" 2
    · have word : startsWithWord "NULL".toList (textAt argv 2) = true := null
      rw [if_pos null]
      apply Guards.of_iff
      · apply (guards_instanceArgument _).bind
        rw [if_pos more, argument_of_given more, pure_bind, if_pos word, pure_bind]
        apply (Guards.ask _).bind
        apply (guards_number _ _ _ (Nat.le_refl 3)).bind
        exact Guards.pass _
      · simp [LightingHandler.Refuses, LightingHandler.numbers, LightingHandler.levels, null]
        tauto
    · have word : ¬startsWithWord "NULL".toList (textAt argv 2) = true := null
      rw [if_neg null]
      apply Guards.of_iff
      · apply (guards_instanceArgument _).bind
        rw [if_pos more, argument_of_given more, pure_bind, if_neg word]
        apply ((guards_strtodArgument _ more).map some).bind
        apply (Guards.ask _).bind
        apply (guards_number _ _ _ (Nat.le_refl 3)).bind
        exact Guards.pass _
      · simp [LightingHandler.Refuses, LightingHandler.numbers, LightingHandler.levels, null]
        tauto
  · apply performs_short more
    · exact LightingHandler.noConfusion
    · simp only [LightingHandler.run, cmdLightingOutputValueSet, if_neg more]
    · simp only [LightingHandler.calls, if_neg more]

theorem guards_validInstanceArgument :
    Guards (Refusal state) state
      ((argv.length ≤ 1 ∨ NoNumber platform argv 1) ∨
        lights.validInstance (instanceAt platform argv) state.library = false)
      (validInstanceArgument platform fp lights argv) (pure (instanceAt platform argv)) := by
  by_cases given : 1 < argv.length
  · apply (guards_instanceArgument _).bind
    apply ((Guards.ask _).bind _).of_iff (false_or _).symm.to_iff
    cases valid : lights.validInstance (instanceAt platform argv) state.library with
    | false =>
        rw [if_neg (by decide), argument_of_given given, pure_bind]
        exact guards_fail.of_iff (iff_true_intro rfl)
    | true =>
        rw [if_pos rfl]
        exact (Guards.pass _).of_iff (by simp)
  · rw [validInstanceArgument, instanceArgument, if_neg given, fail_bind]
    exact guards_fail.of_iff (iff_true_intro (.inl (.inl (Nat.le_of_not_lt given))))

theorem strtodArgument_missing {index : ℕ} (missing : argv.length ≤ index) (invalid : String) :
    (strtodArgument fp argv index invalid : ShellProcedure Library Int fp.Real) =
      fault (.argument index) := by
  rw [strtodArgument, argument_of_length_le missing, fault_bind]

theorem guards_ramp (objectInstance : UInt32) :
    Guards (Refusal state) state (NoLevel fp argv 3 ∨ NoLevel fp argv 4)
      (do
        let level ← strtodArgument fp argv 3 "argv[3]=%s invalid percentage"
        let rampRate ← strtodArgument fp argv 4 "argv[4]=%s invalid ramp rate"
        update (lights.overriddenRamp objectInstance level rampRate)
        cmdLightingOutputValuePrint fp lights objectInstance)
      (performOrFault fp lights
        ((rampCalls fp argv).map fun calls => { objectInstance, calls })) := by
  rw [rampCalls]
  by_cases noLevel : argv.length ≤ 3
  · rw [if_pos noLevel, strtodArgument_missing noLevel, fault_bind]
    have level := @not_noLevel fp argv 3 noLevel
    have rampRate := @not_noLevel fp argv 4 (by omega)
    exact (Guards.pass _).of_iff (by simp [level, rampRate])
  · rw [if_neg noLevel]
    apply (guards_strtodArgument _ (Nat.lt_of_not_le noLevel)).bind
    by_cases noRate : argv.length ≤ 4
    · rw [if_pos noRate, strtodArgument_missing noRate, fault_bind]
      exact (Guards.pass _).of_iff (iff_false_intro (not_noLevel noRate))
    · rw [if_neg noRate]
      apply Guards.of_iff
      · apply (guards_strtodArgument _ (Nat.lt_of_not_le noRate)).bind
        exact Guards.pass _
      · exact (or_false _).symm.to_iff

theorem guards_levelOption (given : 2 < argv.length) (objectInstance : UInt32) :
    Guards (Refusal state) state
      (NoLevel fp argv 2 ∨ 3 < argv.length ∧ asksFor argv "momentary" 3 = false)
      (do
        let level ← strtodArgument fp argv 2 "argv[2]=%s invalid percentage"
        if 3 < argv.length then
          let text ← argument argv 3
          if startsWithWord "momentary".toList text then
            update (lights.overriddenMomentary objectInstance level)
            cmdLightingOutputValuePrint fp lights objectInstance
          else fail .shellHelp (-Errno.einval)
        else
          update (lights.overriddenSet objectInstance level)
          cmdLightingOutputValuePrint fp lights objectInstance)
      (performOrFault fp lights
        (.ok { objectInstance, calls := [levelCall fp argv] })) := by
  apply (guards_strtodArgument _ given).bind
  rw [levelCall]
  by_cases option : 3 < argv.length
  · rw [if_pos option, if_pos option, argument_of_given option, pure_bind]
    by_cases momentary : asksFor argv "momentary" 3
    · have word : startsWithWord "momentary".toList (textAt argv 3) = true := momentary
      rw [if_pos word]
      exact (Guards.pass _).of_iff (by simp [momentary])
    · have other : ¬startsWithWord "momentary".toList (textAt argv 3) = true := momentary
      rw [if_neg other]
      exact guards_fail.of_iff (by simp [option, momentary])
  · rw [if_neg option, if_neg option]
    exact (Guards.pass _).of_iff (by simp [option])

/-- The options of an override that names an object. -/
theorem guards_overrideOptions (given : 2 < argv.length) (objectInstance : UInt32) :
    Guards (Refusal state) state
      ((∃ index ∈ LightingHandler.override.levels argv, NoLevel fp argv index) ∨ NotMomentary argv)
      (do
        let text ← argument argv 2
        if startsWithWord "clear".toList text then
          update (lights.overriddenClear objectInstance)
          cmdLightingOutputValuePrint fp lights objectInstance
        else if startsWithWord "ramp".toList text then
          let level ← strtodArgument fp argv 3 "argv[3]=%s invalid percentage"
          let rampRate ← strtodArgument fp argv 4 "argv[4]=%s invalid ramp rate"
          update (lights.overriddenRamp objectInstance level rampRate)
          cmdLightingOutputValuePrint fp lights objectInstance
        else
          let level ← strtodArgument fp argv 2 "argv[2]=%s invalid percentage"
          if 3 < argv.length then
            let text ← argument argv 3
            if startsWithWord "momentary".toList text then
              update (lights.overriddenMomentary objectInstance level)
              cmdLightingOutputValuePrint fp lights objectInstance
            else fail .shellHelp (-Errno.einval)
          else
            update (lights.overriddenSet objectInstance level)
            cmdLightingOutputValuePrint fp lights objectInstance)
      (performOrFault fp lights
        ((overrideCalls fp argv).map fun calls => { objectInstance, calls })) := by
  rw [argument_of_given given, pure_bind, overrideCalls, if_pos given]
  by_cases clear : asksFor argv "clear" 2
  · have word : startsWithWord "clear".toList (textAt argv 2) = true := clear
    rw [if_pos word, if_pos clear]
    exact (Guards.pass _).of_iff (by simp [LightingHandler.levels, NotMomentary, clear])
  have notClear : ¬startsWithWord "clear".toList (textAt argv 2) = true := clear
  rw [if_neg notClear, if_neg clear]
  by_cases ramp : asksFor argv "ramp" 2
  · have word : startsWithWord "ramp".toList (textAt argv 2) = true := ramp
    rw [if_pos word, if_pos ramp]
    exact (guards_ramp objectInstance).of_iff
      (by simp [LightingHandler.levels, NotMomentary, clear, ramp])
  · have notRamp : ¬startsWithWord "ramp".toList (textAt argv 2) = true := ramp
    rw [if_neg notRamp, if_neg ramp]
    exact (guards_levelOption given objectInstance).of_iff
      (by simp [LightingHandler.levels, NotMomentary, clear, ramp])

/-- An override makes its one call, or reads beyond the arguments after `ramp`. -/
theorem performs_override : LightingHandler.Performs platform fp lights argv state .override := by
  rw [LightingHandler.Performs, LightingHandler.request, LightingHandler.calls]
  by_cases more : 2 < argv.length
  · apply Guards.of_iff
    · apply guards_validInstanceArgument.bind
      rw [if_pos more]
      exact guards_overrideOptions more _
    · simp [LightingHandler.Refuses, LightingHandler.numbers, or_assoc, or_left_comm]
  · rw [overrideCalls, if_neg more]
    apply Guards.of_iff
    · apply guards_validInstanceArgument.bind
      rw [if_neg more]
      exact Guards.pass _
    · simp [refuses_short (Nat.le_of_not_lt more)]

/-- Every handler refuses its arguments, or does what it is asked for. -/
theorem LightingHandler.performs (platform : StoragePlatform) (fp : FloatingPoint)
    (lights : LightingOutputs Library fp.Real) (argv : List CString) (state : ShellState Library)
    (handler : LightingHandler) : handler.Performs platform fp lights argv state := by
  cases handler with
  | set => exact performs_set
  | relinquish => exact performs_relinquish
  | fade => exact performs_fade
  | ramp => exact performs_ramp
  | stop => exact performs_stop
  | step operation => exact performs_step operation
  | blink operation => exact performs_blink operation
  | override => exact performs_override

/-! ## What a request does -/

theorem eval_print (objectInstance : UInt32) :
    ∃ after, eval (cmdLightingOutputValuePrint fp lights objectInstance) state =
        .ok (.ok (if lights.validInstance objectInstance state.library then 0 else -Errno.einval),
          after) ∧
      after.library = state.library := by
  rw [cmdLightingOutputValuePrint]
  cases valid : lights.validInstance objectInstance state.library with
  | false =>
      simp only [query, eval_bind, eval_ask, valid, Bool.false_eq_true, if_false, eval_pure]
      exact ⟨state, rfl, rfl⟩
  | true =>
      simp only [query, eval_bind, eval_ask, valid, if_true, eval_emit, eval_pure]
      exact ⟨_, rfl, rfl⟩

/-- A request succeeds exactly if the output is there afterwards. -/
theorem LightingRequest.eval_perform (request : LightingRequest fp.Real) :
    ∃ after, eval (request.perform fp lights) state =
        .ok (.ok (if lights.validInstance request.objectInstance
          (request.applyAll lights state.library) then 0 else -Errno.einval), after) ∧
      after.library = request.applyAll lights state.library :=
  @eval_print _ fp lights { state with library := request.applyAll lights state.library }
    request.objectInstance

end Results

end BacnetZephyr
