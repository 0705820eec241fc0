import BacnetZephyr.Device.Restart

/-!
# How a device forgets

There are two ways. A cold start clears the settings before it reboots, and
`deviceRun_coldstart` says that the default objects come back for good. With a base name
other than that of the storage handler, such as the default one, the load looks below
the wrong name, and `deviceRun_forgets` says that no start restores anything.
-/

namespace BacnetZephyr

open CLib NamedStore Transition

variable {setting : DeviceSetting}

/-! ## Cold starts -/

/-- Nothing is stored by an operation with this result. -/
def StoreEffect.StoresNothing : StoreEffect → Prop
  | .set _ _ _ => False
  | .delete _ rc => rc = 0
  | .clear _ => True
  | .unlink => True

theorem Knowledge.afterAll_forgotten {effects : List StoreEffect}
    (nothing : ∀ effect ∈ effects, effect.StoresNothing) :
    Knowledge.forgotten.afterAll effects = .forgotten := by
  induction effects with
  | nil => rfl
  | cons effect rest ih =>
      rw [List.forall_mem_cons] at nothing
      have same : Knowledge.forgotten.after effect = .forgotten := by
        cases effect with
        | set key data rc => exact nothing.1.elim
        | delete key rc =>
            have succeeded : rc = 0 := nothing.1
            simp [Knowledge.after, Knowledge.forgotten, succeeded]
        | clear rc =>
            funext key
            by_cases succeeded : rc = 0
            · simp [Knowledge.after, Knowledge.forgotten, succeeded]
            · simp [Knowledge.after, Knowledge.forgotten, succeeded]
        | unlink => rfl
      rw [Knowledge.afterAll, List.foldl_cons, same]
      exact ih nothing.2

theorem Replays.eq_nil {requests : List (BacnetWritePropertyData setting.maxApdu)}
    (replays : Replays setting .forgotten requests) : requests = [] := by
  rcases replays with ⟨entries, rebuilt, -, held⟩
  have empty : entries = [] := by
    rw [List.eq_nil_iff_forall_not_mem]
    rintro ⟨key, value⟩ mem
    have present := ((held key none rfl value).mp mem).1
    cases present
  rw [empty] at rebuilt
  exact List.forall₂_nil_left_iff.mp rebuilt

theorem requests_eq_nil_of_not_registered {now : ℕ} {replies : StorageInitReplies}
    {medium : PersistentMedium setting.settings}
    {requests : List (BacnetWritePropertyData setting.maxApdu)} {work : DeviceWork setting}
    (failed : (bacnetStorageInit setting.config replies medium).1 ≠ 0)
    (handled : initHandler setting now replies medium = (requests, work)) : requests = [] := by
  rcases initHandler_eq handled with ⟨made, -⟩
  rw [made]
  simp [startedStorage, DeviceWork.settingsInit, failed, DeviceWork.restoreEntries]

/-- A start on entries that are all known to be absent replays nothing. -/
theorem requests_eq_nil_of_forgotten
    (base : setting.platform.baseName = bacnetStorageHandlerName) {now : ℕ}
    {replies : StorageInitReplies} {medium : PersistentMedium setting.settings}
    {requests : List (BacnetWritePropertyData setting.maxApdu)} {work : DeviceWork setting}
    (forgets : MediumKnown setting .forgotten medium)
    (handled : initHandler setting now replies medium = (requests, work)) : requests = [] := by
  by_cases registered : (bacnetStorageInit setting.config replies medium).1 = 0
  · have replays := initHandler_replays base forgets registered handled
    have nothing : ∀ effect ∈ work.effects, effect.StoresNothing := by
      rcases initHandler_eq handled with ⟨-, -, effects, -⟩
      rw [effects]
      intro effect mem
      simp only [startedStorage, DeviceWork.settingsInit, List.nil_append] at mem
      split at mem
      · rw [List.mem_singleton.mp mem]
        trivial
      · cases mem
    rw [Knowledge.afterAll_forgotten nothing] at replays
    exact replays.eq_nil
  · exact requests_eq_nil_of_not_registered registered handled

/-- The task that answers a cold start clears the settings and takes the device down. -/
theorem taskHandler_coldstart {now : ℕ} {work : DeviceWork setting}
    (reboot : setting.configReboot = true)
    (requested : work.ram.reinit.reinitializedState = .coldstart)
    (expired : mstimerExpired work.ram.reinit.reinitializeTimer now = true) :
    (taskHandler now work).1 = true ∧
      ∃ ram, ram.settingsReady = work.ram.settingsReady ∧
        (taskHandler now work).2 = ({ work with ram } : DeviceWork setting).settingsClear := by
  have task : bacnetReinitializeDeviceTask setting.configReboot true now work.ram.reinit =
      ({ work.ram.reinit with reinitializeTimer := mstimerSet now 0 },
        [.coldstartCallback, .sysRebootCold]) := by
    simp [bacnetReinitializeDeviceTask, requested, expired, reboot]
  refine ⟨by simp [taskHandler, task], ?_⟩
  refine ⟨{ work.ram with reinit :=
    { work.ram.reinit with reinitializeTimer := mstimerSet now 0 } }, rfl, ?_⟩
  simp [taskHandler, task]

/--
After a cold start whose clear succeeds, every start brings back the default objects
as long as nothing is stored in between.
-/
theorem deviceRun_coldstart (base : setting.platform.baseName = bacnetStorageHandlerName)
    {known : Knowledge} {first before down last after : DeviceState setting}
    {taken since : List (Taken (DeviceState setting) (DeviceLabel setting))}
    (knows : MediumKnown setting known first.medium)
    (run : Run (DeviceStep setting) first taken before)
    (reboot : setting.configReboot = true) {ram : DeviceRam setting} (up : before.ram = some ram)
    (ready : ram.settingsReady = true)
    (requested : ram.reinit.reinitializedState = .coldstart) {now : ℕ}
    (expired : mstimerExpired ram.reinit.reinitializeTimer now = true)
    (cleared : (bacnetStorageClear setting.settings.backend setting.platform
      (before.medium.store setting.config)).1 = 0)
    {effects : List StoreEffect}
    (task : DeviceStep setting before ⟨.task now, effects, []⟩ down)
    (later : Run (DeviceStep setting) down since last)
    (quiet : ∀ effect ∈ effectsOfDevice since, effect.StoresNothing)
    {restart : ℕ} {replies : StorageInitReplies} {startEffects : List StoreEffect}
    {requests : List (BacnetWritePropertyData setting.maxApdu)}
    (start : DeviceStep setting last ⟨.start restart replies, startEffects, requests⟩ after) :
    down.ram = none ∧ requests = [] ∧
      ∃ ram, after.ram = some ram ∧ ram.objects = setting.device.initial := by
  have short : setting.platform.baseName.length ≤ 25 := by
    rw [base]
    decide
  have knowsDown := task.keepsKnown short (deviceRun_known short knows run)
  have shape : down.ram = none ∧ effects = [.clear 0] := by
    cases task with
    | running other handled =>
        cases up
        rcases @taskHandler_coldstart _ now ⟨ram, _, []⟩ reboot requested expired
          with ⟨goesDown, ram', same, clears⟩
        rw [DeviceEvent.onRunning] at handled
        rw [handled] at goesDown clears
        simp only at goesDown clears
        subst goesDown
        refine ⟨rfl, ?_⟩
        simp [clears, DeviceWork.settingsClear, DeviceWork.callSettings, same, ready, cleared]
  rcases shape with ⟨isDown, rfl⟩
  have forgets : MediumKnown setting .forgotten last.medium := by
    have knowsLast := deviceRun_known short knowsDown later
    have forgot : (known.afterAll (effectsOfDevice taken)).afterAll [.clear 0] = .forgotten := rfl
    rw [forgot, Knowledge.afterAll_forgotten quiet] at knowsLast
    exact knowsLast
  cases start with
  | start handled =>
      have nothing := requests_eq_nil_of_forgotten base forgets handled
      rcases initHandler_eq handled with ⟨-, -, -, objects, -⟩
      rw [nothing] at objects
      exact ⟨isDown, nothing, _, rfl, objects⟩
  | running other handled => exact absurd rfl (other restart replies)

/-- A value stored before a cold start is not replayed after it. -/
theorem deviceRun_coldstart_presentValue :
    let setting := DeviceSetting.reference bacnetStorageHandlerName
    let replies : StorageInitReplies := ⟨0, 0, 0, 0⟩
    let begun := (initHandler setting 0 replies (DeviceState.new setting).medium).2
    let stored := DeviceWork.storageSet ⟨begun.ram, begun.medium, []⟩
      (bacnetStorageKeyInit 1 1 85 bacnetStorageArrayIndexNone) [0x44, 63, 128, 0, 0]
    let requested := ((DeviceEvent.reinitializeDevice .coldstart).onRunning
      (⟨stored.ram, stored.medium, []⟩ : DeviceWork setting)).2
    let cleared := (taskHandler 1000 ⟨requested.ram, requested.medium, []⟩).2
    (initHandler setting 0 replies cleared.medium).1 = [] := by
  intro setting replies begun stored requested cleared
  have started : DeviceStep setting (.new setting) ⟨.start 0 replies, begun.effects, _⟩
      ⟨some begun.ram, begun.medium⟩ := .start rfl
  have sets : DeviceStep setting ⟨some begun.ram, begun.medium⟩
      ⟨.storageSet _ _, stored.effects, []⟩ ⟨some stored.ram, stored.medium⟩ :=
    .running (fun _ _ start => by cases start) rfl
  have requests : DeviceStep setting ⟨some stored.ram, stored.medium⟩
      ⟨.reinitializeDevice .coldstart, [], []⟩ ⟨some requested.ram, requested.medium⟩ :=
    .running (fun _ _ start => by cases start) rfl
  have task : DeviceStep setting ⟨some requested.ram, requested.medium⟩
      ⟨.task 1000, cleared.effects, []⟩ ⟨none, cleared.medium⟩ :=
    .running (fun _ _ start => by cases start) rfl
  have again : DeviceStep setting ⟨none, cleared.medium⟩
      ⟨.start 0 replies, _, (initHandler setting 0 replies cleared.medium).1⟩ ⟨some _, _⟩ :=
    .start rfl
  exact (deviceRun_coldstart rfl (mediumKnown_new rfl)
    (.next (.next (.next .start started) sets) requests) rfl rfl rfl rfl rfl rfl task .start
    (fun _ mem => by cases mem) again).2.1

/-! ## Other base names -/

section Forget

variable {known : Knowledge} {first : setting.settings.backend.Store}

/-- An entry of the medium is an entry of a key, or it was in the first store. -/
def OnlyKeysAdded (setting : DeviceSetting) (first : setting.settings.backend.Store)
    (medium : PersistentMedium setting.settings) : Prop :=
  ∀ name value,
    setting.settings.backend.lookup (medium.store setting.config) name = some value →
    (∃ key, name = keyName setting.platform.baseName key) ∨
      setting.settings.backend.lookup first name = some value

theorem OnlyKeysAdded.change {medium : PersistentMedium setting.settings}
    (added : OnlyKeysAdded setting first medium) {store : setting.settings.backend.Store}
    (others : ∀ name, (∀ key, name ≠ keyName setting.platform.baseName key) →
      setting.settings.backend.lookup store name =
        setting.settings.backend.lookup (medium.store setting.config) name) :
    OnlyKeysAdded setting first (medium.setStore setting.config store) := by
  intro name value found
  rw [PersistentMedium.store_setStore] at found
  by_cases named : ∃ key, name = keyName setting.platform.baseName key
  · exact Or.inl named
  · rw [others name (not_exists.mp named)] at found
    exact added name value found

variable {work : DeviceWork setting} (added : OnlyKeysAdded setting first work.medium)

include added

theorem OnlyKeysAdded.callSettings {rc : Int} {store : setting.settings.backend.Store}
    {effect : Int → StoreEffect}
    (others : ∀ name, (∀ key, name ≠ keyName setting.platform.baseName key) →
      setting.settings.backend.lookup store name =
        setting.settings.backend.lookup (work.medium.store setting.config) name) :
    OnlyKeysAdded setting first (work.callSettings rc store effect).medium := by
  unfold DeviceWork.callSettings
  split
  · exact added.change others
  · exact added

theorem OnlyKeysAdded.settingsInit (replies : StorageInitReplies) :
    OnlyKeysAdded setting first (work.settingsInit replies).2.medium := by
  intro name value found
  simp only [DeviceWork.settingsInit, bacnetStorageInit_medium] at found
  split at found
  · rw [setting.settings.lookup_empty] at found
    cases found
  · exact added name value found

variable (short : setting.platform.baseName.length ≤ 25)

include short

theorem OnlyKeysAdded.storageSet (key : BacnetStorageKey) (data : List UInt8) :
    OnlyKeysAdded setting first (work.storageSet key data).medium := by
  simp only [DeviceWork.storageSet, bacnetStorageSet_eq (nameFits_of_short short key)]
  apply added.callSettings
  intro name different
  exact setting.settings.backend.saveOne_other _ _ data name (different key)

theorem OnlyKeysAdded.storageDelete (key : BacnetStorageKey) :
    OnlyKeysAdded setting first (work.storageDelete key).medium := by
  simp only [DeviceWork.storageDelete, bacnetStorageDelete_eq (nameFits_of_short short key)]
  apply added.callSettings
  intro name different
  exact setting.settings.backend.delete_other _ _ name (different key)

theorem OnlyKeysAdded.settingsClear (knows : work.Known known) :
    OnlyKeysAdded setting first work.settingsClear.medium := by
  simp only [DeviceWork.settingsClear]
  apply added.callSettings
  intro name different
  rw [(bacnetStorageClear_of_onlyKeys short knows).1]
  apply lookup_deleteNames_of_notMem
  intro mem
  rcases (mem_clearedNames name).mp mem with ⟨below, value, held⟩
  rcases knows.onlyKeys name value held below with ⟨key, named⟩
  exact different key named

theorem OnlyKeysAdded.onRunning (knows : work.Known known) (event : DeviceEvent setting) :
    OnlyKeysAdded setting first (event.onRunning work).2.medium := by
  cases event with
  | start now replies => exact added
  | powerLoss => exact added
  | writeProperty wpData =>
      let objects := (setting.device.writeProperty wpData work.ram.objects).2
      have written : OnlyKeysAdded setting first (work.withObjects objects).medium := added
      simp only [DeviceEvent.onRunning, DeviceWork.writeProperty]
      split
      · exact written.storageSet short _ _
      · exact written
  | storageSet key data => exact added.storageSet short key data
  | storageDelete key => exact added.storageDelete short key
  | settingsClear => exact added.settingsClear short knows
  | program update => exact added
  | reinitializeDevice state => exact added
  | task now =>
      let reinit := (bacnetReinitializeDeviceTask setting.configReboot true now
        work.ram.reinit).1
      let passed : DeviceWork setting := { work with ram := { work.ram with reinit } }
      have passedAdded : OnlyKeysAdded setting first passed.medium := added
      have passedKnown : passed.Known known := knows
      simp only [DeviceEvent.onRunning, taskHandler]
      split
      · exact passedAdded.settingsClear short passedKnown
      · exact passedAdded

end Forget

/-- Every entry is an entry of a key, or it was there before the run. -/
theorem deviceRun_onlyKeysAdded (short : setting.platform.baseName.length ≤ 25)
    {known : Knowledge} {first last : DeviceState setting}
    {taken : List (Taken (DeviceState setting) (DeviceLabel setting))}
    (knows : MediumKnown setting known first.medium)
    (run : Run (DeviceStep setting) first taken last) :
    OnlyKeysAdded setting (first.medium.store setting.config) last.medium := by
  have invariant := @Run.invariant _ _ (DeviceStep setting) first last taken fun state =>
    (∃ known, MediumKnown setting known state.medium) ∧
      OnlyKeysAdded setting (first.medium.store setting.config) state.medium
  refine (invariant ⟨⟨known, knows⟩, fun name value found => Or.inr found⟩ ?_ run).2
  rintro before label after ⟨⟨known, knows⟩, added⟩ step
  refine ⟨⟨_, step.keepsKnown short knows⟩, ?_⟩
  cases step with
  | start handled =>
      rcases initHandler_eq handled with ⟨-, medium, -⟩
      rw [medium]
      exact OnlyKeysAdded.settingsInit added _
  | @running ram medium event down work other handled =>
      let begun : DeviceWork setting := ⟨ram, medium, []⟩
      have begunAdded : OnlyKeysAdded setting _ begun.medium := added
      have begunKnown : begun.Known known := knows
      have done := begunAdded.onRunning short begunKnown event
      rw [handled] at done
      exact done

/-- A load finds nothing below the name of the handler if the entries are named otherwise. -/
theorem presented_eq_nil (single : settingsNameSeparator ∉ setting.platform.baseName)
    (other : setting.platform.baseName ≠ bacnetStorageHandlerName)
    {first : setting.settings.backend.Store} {medium : PersistentMedium setting.settings}
    (added : OnlyKeysAdded setting first medium)
    (nothing : ∀ name value, setting.settings.backend.lookup first name = some value →
      ¬AtOrBelow settingsNameSeparator bacnetStorageHandlerName name)
    (replies : StorageInitReplies) : (startedStorage setting replies medium).2 = [] := by
  let begun : DeviceWork setting := { ram := .fresh setting, medium, effects := [] }
  have begunAdded : OnlyKeysAdded setting first begun.medium := added
  rw [List.eq_nil_iff_forall_not_mem]
  intro presentation mem
  simp only [startedStorage] at mem
  split at mem
  · rcases (mem_bacnetStorageLoad _ _ presentation).mp mem with ⟨held, below, -⟩
    rcases begunAdded.settingsInit replies _ _ held with ⟨key, named⟩ | before
    · rw [named] at below
      exact other (eq_of_atOrBelow_component (by decide) single below)
    · exact nothing _ _ before below
  · cases mem

/--
With any other base name without a separator, such as the default one, no start
replays anything: the load looks below the name of the handler.
-/
theorem deviceRun_forgets (single : settingsNameSeparator ∉ setting.platform.baseName)
    (other : setting.platform.baseName ≠ bacnetStorageHandlerName)
    (short : setting.platform.baseName.length ≤ 25) {known : Knowledge}
    {first before after : DeviceState setting}
    {taken : List (Taken (DeviceState setting) (DeviceLabel setting))}
    (knows : MediumKnown setting known first.medium)
    (nothing : ∀ name value, setting.settings.backend.lookup
      (first.medium.store setting.config) name = some value →
      ¬AtOrBelow settingsNameSeparator bacnetStorageHandlerName name)
    (run : Run (DeviceStep setting) first taken before) {now : ℕ} {replies : StorageInitReplies}
    {effects : List StoreEffect} {requests : List (BacnetWritePropertyData setting.maxApdu)}
    (start : DeviceStep setting before ⟨.start now replies, effects, requests⟩ after) :
    requests = [] ∧ ∃ ram, after.ram = some ram ∧ ram.objects = setting.device.initial := by
  have added := deviceRun_onlyKeysAdded short knows run
  cases start with
  | @start _ _ _ _ work handled =>
      rcases initHandler_eq handled with ⟨made, -, -, objects, -⟩
      have presented := presented_eq_nil single other added nothing replies
      have replayed : requests = [] := by
        rw [made, presented]
        rfl
      rw [replayed] at objects
      exact ⟨replayed, _, rfl, objects⟩
  | running otherEvent handled => exact absurd rfl (otherEvent now replies)

/-- With the default base name, a stored value is not replayed. -/
theorem deviceRun_forgets_default :
    let setting := DeviceSetting.reference bacnetSettingsBaseName
    let replies : StorageInitReplies := ⟨0, 0, 0, 0⟩
    let begun := (initHandler setting 0 replies (DeviceState.new setting).medium).2
    let stored := DeviceWork.storageSet ⟨begun.ram, begun.medium, []⟩
      (bacnetStorageKeyInit 1 1 85 bacnetStorageArrayIndexNone) [0x44, 63, 128, 0, 0]
    (initHandler setting 0 replies stored.medium).1 = [] := by
  intro setting replies begun stored
  have started : DeviceStep setting (.new setting) ⟨.start 0 replies, begun.effects, _⟩
      ⟨some begun.ram, begun.medium⟩ := .start rfl
  have sets : DeviceStep setting ⟨some begun.ram, begun.medium⟩
      ⟨.storageSet _ _, stored.effects, []⟩ ⟨some stored.ram, stored.medium⟩ :=
    .running (fun _ _ start => by cases start) rfl
  have again : DeviceStep setting ⟨some stored.ram, stored.medium⟩
      ⟨.start 0 replies, _, (initHandler setting 0 replies stored.medium).1⟩ ⟨some _, _⟩ :=
    .start rfl
  exact (deviceRun_forgets (by decide) (by decide) (by decide) (mediumKnown_new rfl)
    (fun name value found => by cases found) (.next (.next .start started) sets) again).1

end BacnetZephyr
