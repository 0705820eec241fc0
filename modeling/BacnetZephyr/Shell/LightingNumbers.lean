import BacnetZephyr.Shell.LightingRequest
import BacnetZephyr.Shell.NullWord

/-!
# Numbers for lighting outputs

Whether the lighting outputs get the numbers that were typed. The handlers convert an
argument with `strtoul` and store the result in a variable of 32 or 16 bits. They check
that some digit was found, but neither that the text ends there nor that the number fits,
and a command drops a priority that is none. `numbersKept_iff` says for which arguments
nothing comes of that.
-/

namespace BacnetZephyr

open CLib Procedure

/-! ## Lighting outputs that remember -/

/-- The lighting outputs, and the calls that have changed them. -/
structure Recorded (Library Real : Type) where
  library : Library
  calls : List (UInt32 × LightingCall Real)

section Definitions

variable {Library Real : Type}

def LightingCall.record (lights : LightingOutputs Library Real) (objectInstance : UInt32)
    (call : LightingCall Real) (recorded : Recorded Library Real) : Recorded Library Real where
  library := call.apply lights objectInstance recorded.library
  calls := recorded.calls ++ [(objectInstance, call)]

def LightingOutputs.recorded (lights : LightingOutputs Library Real) :
    LightingOutputs (Recorded Library Real) Real where
  count recorded := lights.count recorded.library
  indexToInstance index recorded := lights.indexToInstance index recorded.library
  validInstance object recorded := lights.validInstance object recorded.library
  presentValue object recorded := lights.presentValue object recorded.library
  trackingValue object recorded := lights.trackingValue object recorded.library
  presentValuePriority object recorded := lights.presentValuePriority object recorded.library
  overriddenStatus object recorded := lights.overriddenStatus object recorded.library
  outOfService object recorded := lights.outOfService object recorded.library
  relinquishDefault object recorded := lights.relinquishDefault object recorded.library
  priorityArrayValue object index recorded :=
    lights.priorityArrayValue object index recorded.library
  priorityArrayRelinquished object index recorded :=
    lights.priorityArrayRelinquished object index recorded.library
  defaultPriority object recorded := lights.defaultPriority object recorded.library
  overriddenClear object := LightingCall.overriddenClear.record lights object
  overriddenRamp object level rampRate :=
    (LightingCall.overriddenRamp level rampRate).record lights object
  overriddenMomentary object level := (LightingCall.overriddenMomentary level).record lights object
  overriddenSet object level := (LightingCall.overriddenSet level).record lights object
  presentValueRelinquish object priority :=
    (LightingCall.presentValueRelinquish priority).record lights object
  presentValueSet object level priority :=
    (LightingCall.presentValueSet level priority).record lights object
  lightingCommandSet object data := (LightingCall.lightingCommandSet data).record lights object
  blinkWarnFeatureSet object offValue interval count :=
    (LightingCall.blinkWarnFeatureSet offValue interval count).record lights object
  egressTimeSet object seconds := (LightingCall.egressTimeSet seconds).record lights object

/-- The integers of a call, other than the number of the object, whether they are used or not. -/
def LightingCall.integers : LightingCall Real → List (NumberField × ℕ)
  | presentValueSet _ priority | presentValueRelinquish priority => [(.priority, priority.toNat)]
  | lightingCommandSet data =>
      [(.priority, data.priority.toNat), (.fadeTime, data.fadeTime.toNat)]
  | blinkWarnFeatureSet _ interval _ => [(.interval, interval.toNat)]
  | egressTimeSet seconds => [(.egressSeconds, seconds.toNat)]
  | overriddenClear | overriddenRamp _ _ | overriddenMomentary _ | overriddenSet _ => []

/-- The functions of both do the same with the object. -/
structure LightingOutputs.AgreeAt (objectInstance : UInt32)
    (lights others : LightingOutputs Library Real) : Prop where
  validInstance : others.validInstance objectInstance = lights.validInstance objectInstance
  presentValue : others.presentValue objectInstance = lights.presentValue objectInstance
  trackingValue : others.trackingValue objectInstance = lights.trackingValue objectInstance
  presentValuePriority :
    others.presentValuePriority objectInstance = lights.presentValuePriority objectInstance
  overriddenStatus :
    others.overriddenStatus objectInstance = lights.overriddenStatus objectInstance
  outOfService : others.outOfService objectInstance = lights.outOfService objectInstance
  defaultPriority : others.defaultPriority objectInstance = lights.defaultPriority objectInstance
  changes : ∀ call : LightingCall Real,
    call.apply others objectInstance = call.apply lights objectInstance

end Definitions

/-- What a command returns, early or at its end. -/
def returned : Except Int Int → Int
  | .error result => result
  | .ok result => result

/-- The whole text is a number that the field can hold. -/
def FitsField (text : CString) (field : NumberField) : Prop :=
  ∃ number : ℕ, numeral text = some (number : ℤ) ∧ field.Holds number

/--
The lighting outputs get the numbers that were typed, or none: every integer of a call is
the number its argument denotes, no other object is asked for anything, and a text that is
no number for its field is an error without a call.
-/
structure NumbersKept {Library : Type} (platform : StoragePlatform) (fp : FloatingPoint)
    (lights : LightingOutputs Library fp.Real) (handler : LightingHandler) (argv : List CString)
    (library : Library) (output : List ShellOutput) : Prop where
  used : ∀ outcome after,
    eval (handler.run platform fp lights.recorded argv) ⟨⟨library, []⟩, output⟩ =
      .ok (outcome, after) →
    returned outcome ≠ -Errno.einval →
    ∀ entry ∈ after.library.calls,
    ∀ integer ∈ (.objectInstance, entry.1.toNat) :: entry.2.integers,
    ∀ index text, (index, integer.1) ∈ handler.numbers → argv[index]? = some text →
      numeral text = some (integer.2 : ℤ)
  asked : ∀ outcome after,
    eval (handler.run platform fp lights.recorded argv) ⟨⟨library, []⟩, output⟩ =
      .ok (outcome, after) →
    returned outcome ≠ -Errno.einval →
    ∃ (objectInstance : UInt32) (text : CString), argv[1]? = some text ∧
      numeral text = some (objectInstance.toNat : ℤ) ∧
      ∀ others, lights.recorded.AgreeAt objectInstance others →
        eval (handler.run platform fp others argv) ⟨⟨library, []⟩, output⟩ =
          .ok (outcome, after)
  refused : ∀ number ∈ handler.numbers, ∀ text, argv[number.1]? = some text →
    ¬FitsField text number.2 →
    ∃ outcome after,
      eval (handler.run platform fp lights.recorded argv) ⟨⟨library, []⟩, output⟩ =
        .ok (outcome, after) ∧
      returned outcome = -Errno.einval ∧ after.library.calls = []

/-- The command makes a call unless it refuses its arguments. -/
def LightingHandler.Changes (argv : List CString) : LightingHandler → Prop
  | .relinquish | .stop | .blink _ => True
  | .set | .fade | .ramp | .step _ | .override => 2 < argv.length

/-! ## Recorded calls -/

section Recording

variable {Library Real : Type} {lights : LightingOutputs Library Real}

theorem apply_recorded (call : LightingCall Real) (objectInstance : UInt32)
    (recorded : Recorded Library Real) :
    call.apply lights.recorded objectInstance recorded =
      call.record lights objectInstance recorded := by
  cases call <;> rfl

theorem applyAll_recorded (request : LightingRequest Real) (recorded : Recorded Library Real) :
    (request.applyAll lights.recorded recorded).calls =
      recorded.calls ++ request.calls.map fun call => (request.objectInstance, call) := by
  rcases request with ⟨objectInstance, calls⟩
  simp only [LightingRequest.applyAll]
  induction calls generalizing recorded with
  | nil => simp
  | cons call rest ih =>
      rw [List.foldl_cons, ih, apply_recorded, LightingCall.record, List.map_cons,
        List.append_assoc, List.singleton_append]

end Recording

section Results

variable {Library : Type} {platform : StoragePlatform} {fp : FloatingPoint} {argv : List CString}
  {handler : LightingHandler}

/-! ## Integers of a request -/

theorem toUlong_of_lt (platform : StoragePlatform) {number : ℕ} (small : number < 2 ^ 32) :
    toUlong platform.ulongBits number = number := by
  rcases platform.ulongBits_range with bits | bits
  · rw [bits, toUlong, if_neg (by simp only [ulongMax, Int.natAbs_natCast]; omega)]
    omega
  · rw [bits, toUlong, if_neg (by simp only [ulongMax, Int.natAbs_natCast]; omega)]
    omega

/-- A number of 32 bits is converted to itself on every platform. -/
theorem numberAt_of_numeral {index number : ℕ} {text : CString} (given : argv[index]? = some text)
    (denoted : numeral text = some (number : ℤ)) (small : number < 2 ^ 32) :
    numberAt platform argv index = number := by
  have converted := (@strtoul_whole_iff platform.ulongBits text number).mpr
    ⟨_, denoted, toUlong_of_lt platform small⟩
  rw [numberAt, textAt, List.getD_eq_getElem?_getD, given]
  exact converted.2.2

theorem NumberField.largest_lt (field : NumberField) : field.largest < 2 ^ 32 := by
  cases field <;> decide

theorem NumberField.Holds.lt {field : NumberField} {number : ℕ} (held : field.Holds number) :
    number < 2 ^ 32 :=
  Nat.lt_of_le_of_lt held.2 field.largest_lt

theorem NumberField.Holds.toNat_ofNat {field : NumberField} {number : ℕ}
    (held : field.Holds number) : (UInt32.ofNat number).toNat = number :=
  UInt32.toNat_ofNat_of_lt' held.lt

/-- The integer is what its argument starts with, if the field can hold that. -/
def FromArgument (platform : StoragePlatform) (argv : List CString) (handler : LightingHandler)
    (integer : NumberField × ℕ) : Prop :=
  ∀ index, (index, integer.1) ∈ handler.numbers → index < argv.length →
    integer.1.Holds (numberAt platform argv index) →
    integer.2 = numberAt platform argv index

theorem fromArgument_givenOr {field : NumberField} {place : ℕ}
    (only : ∀ index, (index, field) ∈ handler.numbers → index = place) (default : UInt32) :
    FromArgument platform argv handler (field,
      (givenOr argv place default (UInt32.ofNat (numberAt platform argv place))).toNat) := by
  intro index mem given held
  rcases only index mem with rfl
  rw [givenOr, if_pos given, held.toNat_ofNat]

theorem withPriority_fadeTime {Real : Type} (priority : UInt32) (data : LightingCommand Real) :
    (data.withPriority priority).fadeTime = data.fadeTime := by
  rw [LightingCommand.withPriority]
  split <;> rfl

/-- A priority from 1 to 16 becomes that of the command. -/
theorem withPriority_priority {Real : Type} {number : ℕ}
    (held : NumberField.priority.Holds number) (data : LightingCommand Real) :
    (data.withPriority (UInt32.ofNat number)).priority.toNat = number := by
  have range : 1 ≤ UInt32.ofNat number ∧ UInt32.ofNat number ≤ 16 := by
    rw [UInt32.le_iff_toNat_le, UInt32.le_iff_toNat_le, held.toNat_ofNat]
    exact held
  rw [LightingCommand.withPriority, if_pos range]
  exact held.toNat_ofNat

/-- A command hands on its priority and, where it has one, its fade time. -/
theorem fromArgument_command {data : LightingCommand fp.Real} {place : ℕ}
    (only : ∀ index, (index, .priority) ∈ handler.numbers → index = place)
    (fade : FromArgument platform argv handler (.fadeTime, data.fadeTime.toNat)) :
    ∀ integer ∈ (commandCall platform fp argv data place).integers,
      FromArgument platform argv handler integer := by
  rw [commandCall, LightingCall.integers]
  simp only [List.forall_mem_cons, withPriority_fadeTime]
  refine ⟨?_, fade, List.forall_mem_nil _⟩
  intro index mem given held
  rcases only index mem with rfl
  rw [givenOr, if_pos given]
  exact withPriority_priority held data

/-- A command of a handler without an argument for a fade time. -/
theorem fromArgument_plainCommand {data : LightingCommand fp.Real} {place : ℕ}
    (only : ∀ index, (index, .priority) ∈ handler.numbers → index = place)
    (plain : ∀ index, (index, .fadeTime) ∉ handler.numbers) :
    ∀ integer ∈ (commandCall platform fp argv data place).integers,
      FromArgument platform argv handler integer :=
  fromArgument_command only fun index mem => absurd mem (plain index)

theorem LightingCall.integers_ne_objectInstance {Real : Type} (call : LightingCall Real) :
    ∀ integer ∈ call.integers, integer.1 ≠ .objectInstance := by
  cases call <;> simp [LightingCall.integers]

/-- All integers of the calls come from the arguments that are meant for them. -/
theorem fromArgument_of_calls {defaultPriority : UInt32} {calls : List (LightingCall fp.Real)}
    (made : handler.calls platform fp argv defaultPriority = .ok calls) :
    ∀ call ∈ calls, ∀ integer ∈ call.integers, FromArgument platform argv handler integer := by
  cases handler with
  | set =>
      simp only [LightingHandler.calls] at made
      split at made
      · cases made
        rw [List.forall_mem_singleton]
        split
        · rw [LightingCall.integers, List.forall_mem_singleton]
          exact fromArgument_givenOr (by simp [LightingHandler.numbers]) _
        · rw [LightingCall.integers, List.forall_mem_singleton]
          exact fromArgument_givenOr (by simp [LightingHandler.numbers]) _
      · cases made
        exact List.forall_mem_nil _
  | relinquish =>
      cases made
      rw [List.forall_mem_singleton, LightingCall.integers, List.forall_mem_singleton]
      exact fromArgument_givenOr (by simp [LightingHandler.numbers]) _
  | fade =>
      simp only [LightingHandler.calls] at made
      split at made
      · cases made
        rw [List.forall_mem_singleton]
        apply fromArgument_command (by simp [LightingHandler.numbers])
        exact fromArgument_givenOr (by simp [LightingHandler.numbers]) 0
      · cases made
        exact List.forall_mem_nil _
  | ramp =>
      simp only [LightingHandler.calls] at made
      split at made
      · cases made
        rw [List.forall_mem_singleton]
        exact fromArgument_plainCommand (by simp [LightingHandler.numbers])
          (by simp [LightingHandler.numbers])
      · cases made
        exact List.forall_mem_nil _
  | stop =>
      cases made
      rw [List.forall_mem_singleton]
      exact fromArgument_plainCommand (by simp [LightingHandler.numbers])
          (by simp [LightingHandler.numbers])
  | step operation =>
      simp only [LightingHandler.calls] at made
      split at made
      · cases made
        rw [List.forall_mem_singleton]
        exact fromArgument_plainCommand (by simp [LightingHandler.numbers])
          (by simp [LightingHandler.numbers])
      · cases made
        exact List.forall_mem_nil _
  | blink operation =>
      cases made
      simp only [List.forall_mem_cons]
      refine ⟨?_, ?_, ?_, List.forall_mem_nil _⟩
      · rw [LightingCall.integers, List.forall_mem_singleton]
        intro index mem given held
        rcases (by simpa [LightingHandler.numbers] using mem : index = 3) with rfl
        have small : numberAt platform argv 3 < 2 ^ 16 := Nat.lt_succ_of_le held.2
        rw [givenOr, if_pos given, UInt16.toNat_ofNat_of_lt' small]
      · rw [LightingCall.integers, List.forall_mem_singleton]
        exact fromArgument_givenOr (by simp [LightingHandler.numbers]) _
      · exact fromArgument_plainCommand (by simp [LightingHandler.numbers])
          (by simp [LightingHandler.numbers])
  | override =>
      -- an override has no number besides that of its object
      intro call mem integer handed index number given
      have field : index = 1 ∧ integer.1 = .objectInstance := by
        simpa [LightingHandler.numbers] using number
      exact absurd field.2 (call.integers_ne_objectInstance integer handed)

/-- With nothing but the object given there is no call. -/
theorem calls_of_silent (silent : ¬handler.Changes argv) (defaultPriority : UInt32) :
    handler.calls platform fp argv defaultPriority = .ok [] := by
  cases handler with
  | set | fade | ramp | step _ =>
      simp only [LightingHandler.Changes] at silent
      simp only [LightingHandler.calls, if_neg silent]
  | override =>
      simp only [LightingHandler.Changes] at silent
      simp only [LightingHandler.calls, overrideCalls, if_neg silent]
  | relinquish | stop | blink _ => exact absurd trivial silent

theorem silent_of_calls {defaultPriority : UInt32}
    (made : handler.calls platform fp argv defaultPriority = .ok []) :
    ¬handler.Changes argv := by
  intro changes
  cases handler with
  | set | fade | ramp | step _ =>
      simp only [LightingHandler.Changes] at changes
      simp only [LightingHandler.calls, if_pos changes] at made
      cases made
  | override =>
      simp only [LightingHandler.Changes] at changes
      simp only [LightingHandler.calls, overrideCalls, rampCalls, if_pos changes] at made
      repeat' split at made
      all_goals
        cases made
  | relinquish | stop | blink _ => cases made

/-! ## One object -/

section OneObject

variable {lights others : LightingOutputs Library fp.Real} {request : LightingRequest fp.Real}

theorem perform_eq_of_agreeAt (agree : lights.AgreeAt request.objectInstance others) :
    request.perform fp others = request.perform fp lights := by
  have changes : request.applyAll others = request.applyAll lights := by
    funext library
    simp only [LightingRequest.applyAll, agree.changes]
  simp only [LightingRequest.perform, cmdLightingOutputValuePrint, changes, agree.validInstance,
    agree.presentValue, agree.trackingValue, agree.presentValuePriority, agree.overriddenStatus,
    agree.outOfService]

/-- What a handler does is determined by what both do with its object. -/
theorem eval_run_of_agreeAt {state : ShellState Library}
    (agree : lights.AgreeAt (instanceAt platform argv) others)
    (read : ¬handler.Refuses platform fp argv
      (lights.validInstance (instanceAt platform argv) state.library)) :
    eval (handler.run platform fp others argv) state =
      eval (handler.run platform fp lights argv) state := by
  have performed := (handler.performs platform fp lights argv state).goesOn read
  rw [← agree.validInstance] at read
  have performedOther := (handler.performs platform fp others argv state).goesOn read
  rw [performed, performedOther, agree.defaultPriority, LightingHandler.request]
  cases handler.calls platform fp argv
      (lights.defaultPriority (instanceAt platform argv) state.library) with
  | error what => rfl
  | ok calls =>
      have same := @perform_eq_of_agreeAt _ _ lights others ⟨instanceAt platform argv, calls⟩ agree
      simp only [Except.map, performOrFault, same]

end OneObject

/-! ## Runs -/

section Runs

variable {lights : LightingOutputs Library fp.Real} {library : Library}
  (output : List ShellOutput)

/-- A handler that reads its arguments makes its calls, and reports a missing output. -/
theorem eval_run_recorded
    (read : ¬handler.Refuses platform fp argv
      (lights.validInstance (instanceAt platform argv) library)) {defaultPriority : UInt32}
    (default : lights.defaultPriority (instanceAt platform argv) library = defaultPriority)
    {calls : List (LightingCall fp.Real)}
    (made : handler.calls platform fp argv defaultPriority = .ok calls) :
    ∃ result after, eval (handler.run platform fp lights.recorded argv) ⟨⟨library, []⟩, output⟩ =
        .ok (.ok result, after) ∧
      after.library.calls = calls.map (fun call => (instanceAt platform argv, call)) ∧
      (calls = [] → (result = -Errno.einval ↔
        lights.validInstance (instanceAt platform argv) library = false)) := by
  have performed := (handler.performs platform fp lights.recorded argv
    ⟨⟨library, []⟩, output⟩).goesOn read
  have request : handler.request platform fp argv
      (lights.recorded.defaultPriority (instanceAt platform argv) ⟨library, []⟩) =
        .ok ⟨instanceAt platform argv, calls⟩ := by
    rw [LightingHandler.request]
    show (handler.calls platform fp argv
      (lights.defaultPriority (instanceAt platform argv) library)).map _ = _
    rw [default, made]
    rfl
  rw [performed, request]
  rcases @LightingRequest.eval_perform _ fp lights.recorded ⟨⟨library, []⟩, output⟩
    ⟨instanceAt platform argv, calls⟩ with ⟨after, ran, changed⟩
  refine ⟨_, after, ran, ?_, ?_⟩
  · rw [changed, applyAll_recorded]
    rfl
  · rintro rfl
    show (if lights.validInstance (instanceAt platform argv) library then 0
      else -Errno.einval) = -Errno.einval ↔ _
    cases lights.validInstance (instanceAt platform argv) library with
    | false => exact iff_of_true rfl rfl
    | true => exact iff_of_false (by decide) (by decide)

/-- An error without a call keeps the promise whatever the arguments are. -/
theorem numbersKept_of_einval {outcome : Except Int Int}
    {after : ShellState (Recorded Library fp.Real)}
    (ran : eval (handler.run platform fp lights.recorded argv) ⟨⟨library, []⟩, output⟩ =
      .ok (outcome, after))
    (einval : returned outcome = -Errno.einval) (none : after.library.calls = []) :
    NumbersKept platform fp lights handler argv library output := by
  constructor
  · intro other reached ranOther different
    cases ran.symm.trans ranOther
    exact absurd einval different
  · intro other reached ranOther different
    cases ran.symm.trans ranOther
    exact absurd einval different
  · intro number _ text _ _
    exact ⟨outcome, after, ran, einval, none⟩

theorem numbersKept_of_refuses
    (refuses : handler.Refuses platform fp argv
      (lights.validInstance (instanceAt platform argv) library)) :
    NumbersKept platform fp lights handler argv library output := by
  rcases (handler.performs platform fp lights.recorded argv ⟨⟨library, []⟩, output⟩).stops
    refuses with ⟨result, stopped, early, einval, unchanged⟩
  apply numbersKept_of_einval output early einval
  rw [unchanged]

/-- A handler that reads its arguments either makes calls or reads beyond the arguments. -/
theorem eval_run_cases
    (read : ¬handler.Refuses platform fp argv
      (lights.validInstance (instanceAt platform argv) library)) :
    (∃ what, eval (handler.run platform fp lights.recorded argv) ⟨⟨library, []⟩, output⟩ =
      .error what) ∨
    ∃ calls, handler.calls platform fp argv
        (lights.defaultPriority (instanceAt platform argv) library) = .ok calls := by
  cases made : handler.calls platform fp argv
      (lights.defaultPriority (instanceAt platform argv) library) with
  | ok calls => exact .inr ⟨calls, rfl⟩
  | error what =>
      left
      have performed := (handler.performs platform fp lights.recorded argv
        ⟨⟨library, []⟩, output⟩).goesOn read
      have request : handler.request platform fp argv
          (lights.recorded.defaultPriority (instanceAt platform argv) ⟨library, []⟩) =
            .error what := by
        rw [LightingHandler.request]
        show (handler.calls platform fp argv
          (lights.defaultPriority (instanceAt platform argv) library)).map _ = _
        rw [made]
        rfl
      rw [performed, request]
      exact ⟨what, rfl⟩

/-- Without a call a command that does not find its object reports it. -/
theorem numbersKept_of_silent
    (read : ¬handler.Refuses platform fp argv
      (lights.validInstance (instanceAt platform argv) library))
    (silent : ¬handler.Changes argv)
    (missing : lights.validInstance (instanceAt platform argv) library = false) :
    NumbersKept platform fp lights handler argv library output := by
  have none := @calls_of_silent platform fp argv handler silent
    (lights.defaultPriority (instanceAt platform argv) library)
  rcases eval_run_recorded output read rfl none with ⟨result, reached, ran, recorded, reports⟩
  exact numbersKept_of_einval output ran ((reports rfl).mpr missing) recorded

theorem LightingHandler.index_objectInstance {index : ℕ} (handler : LightingHandler)
    (mem : (index, .objectInstance) ∈ handler.numbers) : index = 1 := by
  cases handler <;> simpa [LightingHandler.numbers] using mem

theorem FitsField.held {index : ℕ} {text : CString} {field : NumberField}
    (fits : FitsField text field) (given : argv[index]? = some text) :
    numeral text = some (numberAt platform argv index : ℤ) ∧
      field.Holds (numberAt platform argv index) := by
  rcases fits with ⟨number, denoted, held⟩
  rw [numberAt_of_numeral given denoted held.lt]
  exact ⟨denoted, held⟩

/-- Numbers that fit their fields are handed on as they are. -/
theorem numbersKept_of_fits
    (read : ¬handler.Refuses platform fp argv
      (lights.validInstance (instanceAt platform argv) library))
    (fits : ∀ number ∈ handler.numbers, ∀ text, argv[number.1]? = some text →
      FitsField text number.2) :
    NumbersKept platform fp lights handler argv library output := by
  have object : ∀ text, argv[1]? = some text →
      numeral text = some ((instanceAt platform argv).toNat : ℤ) := by
    intro text given
    rcases @FitsField.held platform _ _ _ _ (fits _ handler.first_mem_numbers text given) given with
      ⟨denoted, held⟩
    rw [instanceAt, held.toNat_ofNat]
    exact denoted
  constructor
  · intro outcome after ran other entry recordedEntry integer handed index text number given
    rcases eval_run_cases output read with ⟨what, faulted⟩ | ⟨calls, made⟩
    · rw [faulted] at ran
      cases ran
    · rcases eval_run_recorded output read rfl made with ⟨result, reached, expected, recorded, -⟩
      rw [expected] at ran
      cases ran
      rw [recorded] at recordedEntry
      rcases List.mem_map.mp recordedEntry with ⟨call, mem, rfl⟩
      rcases List.mem_cons.mp handed with rfl | handed
      · rcases handler.index_objectInstance number with rfl
        exact object text given
      · have inside : index < argv.length := (List.getElem?_eq_some_iff.mp given).1
        rcases @FitsField.held platform _ _ _ _ (fits _ number text given) given with
          ⟨denoted, held⟩
        rw [fromArgument_of_calls made call mem integer handed index number inside held]
        exact denoted
  · intro outcome after ran other
    have many : 1 < argv.length := by
      refine Nat.lt_of_not_le fun few => read (.inl few)
    refine ⟨instanceAt platform argv, argv[1], List.getElem?_eq_getElem many,
      object _ (List.getElem?_eq_getElem many), ?_⟩
    intro others agree
    rw [← ran]
    exact eval_run_of_agreeAt agree read
  · intro number mem text given misfit
    exact absurd (fits number mem text given) misfit

/-- A number that does not fit is only harmless where no call is made and no object found. -/
theorem silent_of_kept (kept : NumbersKept platform fp lights handler argv library output)
    (read : ¬handler.Refuses platform fp argv
      (lights.validInstance (instanceAt platform argv) library))
    {number : ℕ × NumberField} (mem : number ∈ handler.numbers) {text : CString}
    (given : argv[number.1]? = some text) (misfit : ¬FitsField text number.2) :
    ¬handler.Changes argv ∧ lights.validInstance (instanceAt platform argv) library = false := by
  rcases kept.refused number mem text given misfit with ⟨outcome, after, ran, einval, silent⟩
  rcases eval_run_cases output read with ⟨what, faulted⟩ | ⟨calls, made⟩
  · rw [faulted] at ran
    cases ran
  · rcases eval_run_recorded output read rfl made with
      ⟨result, reached, expected, recorded, reports⟩
    rw [expected] at ran
    cases ran
    rw [recorded, List.map_eq_nil_iff] at silent
    rw [silent] at made
    exact ⟨silent_of_calls made, (reports silent).mp einval⟩

end Runs

/--
The lighting outputs get the numbers that were typed exactly if the arguments are refused
anyway, or every number is a whole numeral that fits its field, or the command would only
print an output that is not there.
-/
theorem numbersKept_iff (platform : StoragePlatform) (fp : FloatingPoint)
    (lights : LightingOutputs Library fp.Real) (handler : LightingHandler) (argv : List CString)
    (library : Library) (output : List ShellOutput) :
    NumbersKept platform fp lights handler argv library output ↔
      handler.Refuses platform fp argv
          (lights.validInstance (instanceAt platform argv) library) ∨
        (∀ number ∈ handler.numbers, ∀ text, argv[number.1]? = some text →
          FitsField text number.2) ∨
        ¬handler.Changes argv ∧
          lights.validInstance (instanceAt platform argv) library = false := by
  constructor
  · intro kept
    rw [or_iff_not_imp_left, or_iff_not_imp_left]
    intro read misfits
    simp only [not_forall] at misfits
    rcases misfits with ⟨number, mem, text, given, misfit⟩
    exact silent_of_kept output kept read mem given misfit
  · rintro (refuses | fits | ⟨silent, missing⟩)
    · exact numbersKept_of_refuses output refuses
    · by_cases refuses : handler.Refuses platform fp argv
        (lights.validInstance (instanceAt platform argv) library)
      · exact numbersKept_of_refuses output refuses
      · exact numbersKept_of_fits output refuses fits
    · by_cases refuses : handler.Refuses platform fp argv
        (lights.validInstance (instanceAt platform argv) library)
      · exact numbersKept_of_refuses output refuses
      · exact numbersKept_of_silent output refuses silent missing

/-- A call in spite of a number that does not fit breaks the promise. -/
theorem not_numbersKept_of_call {lights : LightingOutputs Library fp.Real} {library : Library}
    {output : List ShellOutput} {number : ℕ × NumberField} (mem : number ∈ handler.numbers)
    {text : CString} (given : argv[number.1]? = some text) (misfit : ¬FitsField text number.2)
    (called : (eval (handler.run platform fp lights.recorded argv) ⟨⟨library, []⟩, output⟩).map
      (fun outcome => outcome.2.library.calls.isEmpty) = .ok false) :
    ¬NumbersKept platform fp lights handler argv library output := by
  intro kept
  rcases kept.refused number mem text given misfit with ⟨outcome, after, ran, -, silent⟩
  rw [ran, Except.map, silent] at called
  cases called

theorem not_fitsField {text : CString} {field : NumberField} {denoted : Option ℤ}
    (denotes : numeral text = denoted)
    (outside : ∀ value ∈ denoted, value < field.smallest ∨ field.largest < value) :
    ¬FitsField text field := by
  rintro ⟨number, same, least, most⟩
  rw [denotes] at same
  have range := outside number same
  omega

end Results

/--
Text after a number, a fade time of 33 bits where `long` has 64, an interval of 17 bits,
and priorities above the largest.
-/
theorem not_numbersKept_typed :
    let fp := FloatingPoint.reference
    let lights := { LightingOutputs.recording fp with validInstance := fun _ _ => true }
    let platform := StoragePlatform.reference bacnetSettingsBaseName
    let wide : StoragePlatform := { platform with ulongBits := 64, ulongBits_range := Or.inr rfl }
    ¬NumbersKept platform fp lights .stop ["stop".toList, "1x".toList] false [] ∧
      ¬NumbersKept wide fp lights .fade
        ["fade".toList, "1".toList, "50".toList, "4294967297".toList] false [] ∧
      ¬NumbersKept platform fp lights (.blink .warn)
        ["warn".toList, "1".toList, "300".toList, "65537".toList] false [] ∧
      ¬NumbersKept platform fp lights .stop
        ["stop".toList, "1".toList, "17".toList] false [] ∧
      ¬NumbersKept platform fp lights .fade
        ["fade".toList, "1".toList, "50".toList, "0".toList, "300".toList] false [] := by
  intro fp lights platform wide
  have trailing : ¬FitsField "1x".toList .objectInstance :=
    @not_fitsField _ _ none (by decide) nofun
  have wideFade : ¬FitsField "4294967297".toList .fadeTime :=
    @not_fitsField _ _ (some 4294967297) (by decide) (by decide)
  have wideInterval : ¬FitsField "65537".toList .interval :=
    @not_fitsField _ _ (some 65537) (by decide) (by decide)
  have noPriority : ¬FitsField "17".toList .priority :=
    @not_fitsField _ _ (some 17) (by decide) (by decide)
  have largePriority : ¬FitsField "300".toList .priority :=
    @not_fitsField _ _ (some 300) (by decide) (by decide)
  have isFade : (3, .fadeTime) ∈ LightingHandler.fade.numbers := by decide
  have isInterval : (3, .interval) ∈ (LightingHandler.blink .warn).numbers := by decide
  have ofStop : (2, .priority) ∈ LightingHandler.stop.numbers := by decide
  have ofFade : (4, .priority) ∈ LightingHandler.fade.numbers := by decide
  refine ⟨?_, ?_, ?_, ?_, ?_⟩
  · exact not_numbersKept_of_call List.mem_cons_self rfl trailing rfl
  · exact not_numbersKept_of_call isFade rfl wideFade rfl
  · exact not_numbersKept_of_call isInterval rfl wideInterval rfl
  · exact not_numbersKept_of_call ofStop rfl noPriority rfl
  · exact not_numbersKept_of_call ofFade rfl largePriority rfl

end BacnetZephyr
