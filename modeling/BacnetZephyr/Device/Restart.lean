import BacnetZephyr.Device.Persistence

/-!
# What a start replays

`deviceRun_replays` says that in every run a start whose storage is initialized replays
exactly the known entries onto the default objects, each once, and writes nothing
itself. It needs the base name of the storage handler.

The restore callback writes to the objects through the same function as a WriteProperty
service. Nothing is stored again, because the store callback is installed only after
the restore; `restoreEntries_silent` is the lemma.
-/

namespace BacnetZephyr

open CLib NamedStore Transition

variable {setting : DeviceSetting}

/-! ## What a start replays -/

/-- The objects after the restore callback has been called with a request. -/
def DeviceSetting.replay (setting : DeviceSetting) (objects : setting.device.Objects)
    (wpData : BacnetWritePropertyData setting.maxApdu) : setting.device.Objects :=
  (setting.device.writeProperty
    (if setting.wildcardInstance ∧ wpData.objectType = objectDevice ∧
        wpData.objectInstance = bacnetMaxInstance then
      wpData.withInstance (setting.device.instanceNumber objects)
    else wpData) objects).2

/-- The handler passes the value of the key on: the name and the value fit its buffers. -/
structure Restorable (maxApdu : ℕ) (key : BacnetStorageKey) (value : List UInt8) : Prop where
  short : key.Short
  nonempty : value ≠ []
  fitsBuffer : value.length ≤ bacnetStorageValueSizeMax
  fitsApdu : value.length ≤ maxApdu

/-- The request is the one rebuilt from the key and the value of the entry. -/
def RebuiltFromEntry (lists : PropertyLists) {maxApdu : ℕ}
    (entry : BacnetStorageKey × List UInt8) (wpData : BacnetWritePropertyData maxApdu) : Prop :=
  ∃ fits, wpData = restoredWriteProperty lists entry.1.objectType entry.1.objectInstance
    entry.1.propertyId entry.1.arrayIndex entry.2 fits

section Handler

variable {platform : StoragePlatform} {lists : PropertyLists} {maxApdu : ℕ}
  {key : BacnetStorageKey} {value : List UInt8}
  {restoreFunction : BacnetSettingsRestoreCallback maxApdu}
  (base : platform.baseName = bacnetStorageHandlerName)

include base

theorem decode_keyPath_iff :
    bacnetStorageKeyDecode platform (some (keyPath key)) (bacnetStorageKeyInit 0 0 0 0) =
      (0, key) ↔ key.Short := by
  have special : ∃ c ∈ platform.baseName, c.isDigit = false ∧ c ≠ settingsNameSeparator := by
    rw [base]
    exact ⟨'b', by decide, by decide, by decide⟩
  exact bacnetStorageKeyDecode_eq_iff platform (stripBaseName_keyPath platform special key) _

/-- The requests an entry leads to, if its value gets through the buffers. -/
theorem handlerSet_requests_of_restorable (restorable : Restorable maxApdu key value) :
    (bacnetStorageHandlerSet platform
      (some (bacnetStorageRestoreHandler lists maxApdu (some restoreFunction)))
      (some (keyPath key)) value.length (settingsReadCb value)).requests =
      [restoredWriteProperty lists key.objectType key.objectInstance key.propertyId
        key.arrayIndex value restorable.fitsApdu] := by
  have held : (value.take bacnetStorageValueSizeMax ++
      (List.replicate bacnetStorageValueSizeMax 0).drop
        (value.take bacnetStorageValueSizeMax).length).take value.length = value := by
    rw [List.take_of_length_le restorable.fitsBuffer, List.take_left]
  rw [bacnetStorageHandlerSet_decoded restorable.nonempty
      ((decode_keyPath_iff base).mpr restorable.short),
    bacnetStorageRestore, bacnetStorageRestoreHandler,
    bacnetSettingsRestore_of_take restorable.nonempty restorable.fitsApdu held]
  rfl

theorem handlerSet_requests_of_not_restorable (lost : ¬Restorable maxApdu key value) :
    (bacnetStorageHandlerSet platform
      (some (bacnetStorageRestoreHandler lists maxApdu (some restoreFunction)))
      (some (keyPath key)) value.length (settingsReadCb value)).requests = [] := by
  have special : ∃ c ∈ platform.baseName, c.isDigit = false ∧ c ≠ settingsNameSeparator := by
    rw [base]
    exact ⟨'b', by decide, by decide, by decide⟩
  by_cases short : key.Short
  · have decoded := (@decode_keyPath_iff platform key base).mpr short
    by_cases empty : value = []
    · subst empty
      simp [bacnetStorageHandlerSet, decoded, RestoreOutcome.requests]
    · rw [bacnetStorageHandlerSet_decoded empty decoded, bacnetStorageRestore]
      by_cases apdu : value.length ≤ maxApdu
      · have long : bacnetStorageValueSizeMax < value.length :=
          Nat.lt_of_not_le fun fits => lost ⟨short, empty, fits, apdu⟩
        rw [bacnetStorageRestoreHandler_outOfBounds _ apdu]
        · rfl
        · simp only [List.length_append, List.length_take, List.length_drop,
            List.length_replicate]
          omega
      · simp [bacnetStorageRestoreHandler, bacnetSettingsRestore, apdu, RestoreOutcome.requests]
  · have failed := bacnetStorageKeyDecode_keyPath_error platform short
      (stripBaseName_keyPath platform special key) (bacnetStorageKeyInit 0 0 0 0)
    rw [bacnetStorageHandlerSet_rejected rfl (by rw [failed]; decide)]
    rfl

end Handler

section Replay

variable {work : DeviceWork setting} (silent : work.ram.storeCallback = false)

@[simp]
theorem DeviceWork.withObjects_objects (objects : setting.device.Objects) :
    (work.withObjects objects).ram.objects = objects :=
  rfl

@[simp]
theorem DeviceWork.withObjects_storeCallback (objects : setting.device.Objects) :
    (work.withObjects objects).ram.storeCallback = work.ram.storeCallback :=
  rfl

@[simp]
theorem DeviceWork.withObjects_withObjects (objects later : setting.device.Objects) :
    (work.withObjects objects).withObjects later = work.withObjects later :=
  rfl

include silent

/-- Without a store callback the restore callback changes the objects only. -/
theorem settingsRestoreCallback_silent (wpData : BacnetWritePropertyData setting.maxApdu) :
    (work.settingsRestoreCallback wpData).2 =
      work.withObjects (setting.replay work.ram.objects wpData) := by
  simp only [DeviceWork.settingsRestoreCallback, DeviceWork.writeProperty, silent, Bool.and_false,
    Bool.false_eq_true, if_false, DeviceSetting.replay, DeviceWork.withObjects]
  split <;> rfl

theorem foldl_settingsRestoreCallback_silent
    (requests : List (BacnetWritePropertyData setting.maxApdu)) :
    requests.foldl (fun work wpData => (work.settingsRestoreCallback wpData).2) work =
      work.withObjects (requests.foldl setting.replay work.ram.objects) := by
  induction requests generalizing work with
  | nil => rfl
  | cons request rest ih =>
      rw [List.foldl_cons, settingsRestoreCallback_silent silent]
      have later := @ih (work.withObjects (setting.replay work.ram.objects request)) silent
      simpa using later

/-- Restoring replays the requests onto the objects, and does nothing else. -/
theorem restoreEntries_silent (presentations : List SettingsPresentation) :
    (work.restoreEntries presentations).2 =
      work.withObjects
        ((work.restoreEntries presentations).1.foldl setting.replay work.ram.objects) := by
  induction presentations generalizing work with
  | nil => rfl
  | cons presentation rest ih =>
      simp only [DeviceWork.restoreEntries, foldl_settingsRestoreCallback_silent silent,
        List.foldl_append]
      rw [ih (by simpa using silent)]
      simp

variable (base : setting.platform.baseName = bacnetStorageHandlerName)

include base

/-- The requests are those of the entries that get through the buffers of the handler. -/
theorem exists_entries_of_restoreEntries {presentations : List SettingsPresentation}
    (named : ∀ presentation ∈ presentations, ∃ key,
      presentation.name = keyName setting.platform.baseName key ∧
        presentation.path = some (keyPath key)) :
    ∃ entries : List (BacnetStorageKey × List UInt8),
      List.Forall₂ (RebuiltFromEntry setting.lists) entries
          (work.restoreEntries presentations).1 ∧
        (entries.map fun entry => keyName setting.platform.baseName entry.1).Sublist
          (presentations.map SettingsPresentation.name) ∧
        ∀ key value, (key, value) ∈ entries ↔ Restorable setting.maxApdu key value ∧
          ∃ presentation ∈ presentations,
            presentation.name = keyName setting.platform.baseName key ∧
              presentation.value = value := by
  induction presentations generalizing work with
  | nil => exact ⟨[], .nil, .slnil, by simp⟩
  | cons presentation rest ih =>
      rw [List.forall_mem_cons] at named
      rcases named with ⟨⟨key, name, path⟩, named⟩
      simp only [DeviceWork.restoreEntries, foldl_settingsRestoreCallback_silent silent, path]
      have same : ∀ other, presentation.name = keyName setting.platform.baseName other ↔
          key = other := by
        intro other
        rw [name, (keyName_injective _).eq_iff]
      by_cases restorable : Restorable setting.maxApdu key presentation.value
      · rw [handlerSet_requests_of_restorable base restorable]
        let request := restoredWriteProperty setting.lists key.objectType key.objectInstance
          key.propertyId key.arrayIndex presentation.value restorable.fitsApdu
        rcases @ih (work.withObjects (setting.replay work.ram.objects request)) silent named
          with ⟨entries, rebuilt, listed, mem⟩
        refine ⟨(key, presentation.value) :: entries, .cons ⟨_, rfl⟩ rebuilt, ?_, ?_⟩
        · rw [List.map_cons, List.map_cons, name]
          exact listed.cons_cons _
        · intro other value
          simp only [List.mem_cons, mem, Prod.mk.injEq, exists_eq_or_imp, same]
          constructor
          · rintro (⟨rfl, rfl⟩ | ⟨restorable, held⟩)
            · exact ⟨restorable, Or.inl ⟨rfl, rfl⟩⟩
            · exact ⟨restorable, Or.inr held⟩
          · rintro ⟨restorable, ⟨rfl, rfl⟩ | held⟩
            · exact Or.inl ⟨rfl, rfl⟩
            · exact Or.inr ⟨restorable, held⟩
      · rw [handlerSet_requests_of_not_restorable base restorable]
        rcases @ih (work.withObjects work.ram.objects) silent named
          with ⟨entries, rebuilt, listed, mem⟩
        refine ⟨entries, rebuilt, ?_, ?_⟩
        · rw [List.map_cons]
          exact listed.cons _
        · intro other value
          simp only [List.mem_cons, mem, exists_eq_or_imp, same]
          constructor
          · rintro ⟨restorable, held⟩
            exact ⟨restorable, Or.inr held⟩
          · rintro ⟨restored, ⟨rfl, rfl⟩ | held⟩
            · exact absurd restored restorable
            · exact ⟨restored, held⟩

end Replay

/-! ## Starts -/

section Start

variable {known : Knowledge} {now : ℕ} {replies : StorageInitReplies}
  {medium : PersistentMedium setting.settings}
  {requests : List (BacnetWritePropertyData setting.maxApdu)} {work : DeviceWork setting}

/-- The device after its storage has been initialized, and what a load presents to it. -/
def startedStorage (setting : DeviceSetting) (replies : StorageInitReplies)
    (medium : PersistentMedium setting.settings) : DeviceWork setting × List SettingsPresentation :=
  let begun : DeviceWork setting := { ram := .fresh setting, medium, effects := [] }
  let (registered, work) := begun.settingsInit replies
  (work,
    if registered then
      (bacnetStorageLoad setting.settings.backend (work.medium.store setting.config)).2
    else [])

/-- A start leaves the entries to the initialization of the storage. -/
theorem initHandler_eq (handled : initHandler setting now replies medium = (requests, work)) :
    let started := startedStorage setting replies medium
    requests = (started.1.restoreEntries started.2).1 ∧
      work.medium = started.1.medium ∧ work.effects = started.1.effects ∧
      work.ram.objects = requests.foldl setting.replay setting.device.initial ∧
      work.ram.storeCallback = true := by
  let ready := (startedStorage setting replies medium).1
  let presentations := (startedStorage setting replies medium).2
  have silent : ready.ram.storeCallback = false := rfl
  have restored := restoreEntries_silent silent presentations
  have made : initHandler setting now replies medium =
      ((ready.restoreEntries presentations).1,
        { (ready.restoreEntries presentations).2 with ram :=
          { (ready.restoreEntries presentations).2.ram with
            storeCallback := true
            reinit := bacnetReinitializeDeviceInit now setting.rebootDelay
              (ready.restoreEntries presentations).2.ram.reinit } }) := rfl
  rw [handled, restored, Prod.mk.injEq] at made
  rcases made with ⟨rfl, rfl⟩
  exact ⟨rfl, rfl, rfl, rfl, rfl⟩

theorem startedStorage_known (knows : MediumKnown setting known medium) :
    (startedStorage setting replies medium).1.Known known := by
  have begun : DeviceWork.Known known { ram := .fresh setting, medium, effects := [] } := knows
  exact begun.settingsInit replies

/-- A load presents the entries at or below the name of the handler, and no others. -/
theorem mem_bacnetStorageLoad (backend : SettingsBackend) (store : backend.Store)
    (presentation : SettingsPresentation) :
    presentation ∈ (bacnetStorageLoad backend store).2 ↔
      backend.lookup store presentation.name = some presentation.value ∧
        AtOrBelow settingsNameSeparator bacnetStorageHandlerName presentation.name ∧
        presentation.path = remainder bacnetStorageHandlerName presentation.name := by
  simp only [bacnetStorageLoad, settingsLoadSubtree, List.mem_map, List.mem_filter,
    decide_eq_true_eq]
  constructor
  · rintro ⟨⟨name, value⟩, ⟨listed, below⟩, rfl⟩
    exact ⟨((backend.mem_subtree store _ name value).mp listed).1, below, rfl⟩
  · rintro ⟨held, below, path⟩
    refine ⟨(presentation.name, presentation.value), ⟨?_, below⟩, ?_⟩
    · exact (backend.mem_subtree store _ _ _).mpr ⟨held, below⟩
    · rw [← path]

theorem nodup_names_bacnetStorageLoad (backend : SettingsBackend) (store : backend.Store) :
    ((bacnetStorageLoad backend store).2.map SettingsPresentation.name).Nodup := by
  simp only [bacnetStorageLoad, settingsLoadSubtree, List.map_map]
  apply List.Nodup.sublist _ (backend.subtree_nodup store bacnetStorageHandlerName)
  exact List.filter_sublist.map Prod.fst

/-- The requests restore the known entries that get through the handler, each once. -/
def Replays (setting : DeviceSetting) (known : Knowledge)
    (requests : List (BacnetWritePropertyData setting.maxApdu)) : Prop :=
  ∃ entries : List (BacnetStorageKey × List UInt8),
    List.Forall₂ (RebuiltFromEntry setting.lists) entries requests ∧
      (entries.map Prod.fst).Nodup ∧
      ∀ key contents, known key = some contents → ∀ value,
        (key, value) ∈ entries ↔ contents = some value ∧ Restorable setting.maxApdu key value

theorem initHandler_replays (base : setting.platform.baseName = bacnetStorageHandlerName)
    (knows : MediumKnown setting known medium)
    (registered : (bacnetStorageInit setting.config replies medium).1 = 0)
    (handled : initHandler setting now replies medium = (requests, work)) :
    Replays setting (known.afterAll work.effects) requests := by
  let ready := (startedStorage setting replies medium).1
  let store := ready.medium.store setting.config
  rcases initHandler_eq handled with ⟨made, -, effects, -, -⟩
  have readyKnown : ready.Known known := startedStorage_known knows
  have loads : (startedStorage setting replies medium).2 =
      (bacnetStorageLoad setting.settings.backend store).2 := by
    simp [startedStorage, DeviceWork.settingsInit, registered, store, ready]
  have silent : ready.ram.storeCallback = false := rfl
  have named : ∀ presentation ∈ (bacnetStorageLoad setting.settings.backend store).2,
      ∃ key, presentation.name = keyName setting.platform.baseName key ∧
        presentation.path = some (keyPath key) := by
    intro presentation mem
    rcases (mem_bacnetStorageLoad _ store presentation).mp mem with ⟨held, below, path⟩
    rw [← base] at below path
    rcases readyKnown.onlyKeys _ _ held below with ⟨key, name⟩
    refine ⟨key, name, ?_⟩
    rw [path, name, keyName, remainder_append]
  rcases exists_entries_of_restoreEntries silent base named with ⟨entries, rebuilt, listed, mem⟩
  refine ⟨entries, ?_, ?_, ?_⟩
  · rw [made, loads]
    exact rebuilt
  · have once := (nodup_names_bacnetStorageLoad _ store).sublist listed
    rw [← Function.comp_def (keyName setting.platform.baseName) Prod.fst, ← List.map_map] at once
    exact once.of_map _
  · intro key contents knownKey value
    rw [effects] at knownKey
    have held := readyKnown.knows key contents knownKey
    rw [mem, and_comm]
    apply and_congr_left
    rintro -
    rw [← held]
    constructor
    · rintro ⟨presentation, presented, name, rfl⟩
      rw [← name]
      exact ((mem_bacnetStorageLoad _ store presentation).mp presented).1
    · intro lookup
      refine ⟨⟨keyName setting.platform.baseName key,
        remainder bacnetStorageHandlerName (keyName setting.platform.baseName key), value⟩,
        ?_, rfl, rfl⟩
      rw [mem_bacnetStorageLoad]
      refine ⟨lookup, ?_, rfl⟩
      rw [← base]
      exact atOrBelow_keyName _ key

end Start

/-! ## What every run replays -/

section Run

variable {known : Knowledge} (short : setting.platform.baseName.length ≤ 25)

include short

theorem DeviceWork.Known.writeProperty {work : DeviceWork setting} (knows : work.Known known)
    (wpData : BacnetWritePropertyData setting.maxApdu) :
    (work.writeProperty wpData).2.Known known := by
  let objects := (setting.device.writeProperty wpData work.ram.objects).2
  have written : (work.withObjects objects).Known known := knows
  unfold DeviceWork.writeProperty
  dsimp only
  split
  · exact written.storageSet short _ _
  · exact written

theorem DeviceEvent.onRunning_known {work : DeviceWork setting} (knows : work.Known known)
    (event : DeviceEvent setting) : (event.onRunning work).2.Known known := by
  cases event with
  | start now replies => exact knows
  | powerLoss => exact knows
  | writeProperty wpData => exact knows.writeProperty short wpData
  | storageSet key data => exact knows.storageSet short key data
  | storageDelete key => exact knows.storageDelete short key
  | settingsClear => exact knows.settingsClear short
  | program update => exact knows
  | reinitializeDevice state => exact knows
  | task now =>
      let reinit := (bacnetReinitializeDeviceTask setting.configReboot true now
        work.ram.reinit).1
      have passed : DeviceWork.Known known
        { work with ram := { work.ram with reinit } } := knows
      unfold DeviceEvent.onRunning taskHandler
      dsimp only
      split
      · exact passed.settingsClear short
      · exact passed

theorem DeviceStep.keepsKnown {before after : DeviceState setting} {label : DeviceLabel setting}
    (step : DeviceStep setting before label after)
    (knows : MediumKnown setting known before.medium) :
    MediumKnown setting (known.afterAll label.effects) after.medium := by
  cases step with
  | start handled =>
      rcases initHandler_eq handled with ⟨-, medium, effects, -, -⟩
      rw [medium, effects]
      exact startedStorage_known knows
  | @running ram medium event down work other handled =>
      have begun : DeviceWork.Known known ⟨ram, medium, []⟩ := knows
      have done := event.onRunning_known short begun
      rw [handled] at done
      exact done

theorem deviceRun_known {first last : DeviceState setting}
    {taken : List (Taken (DeviceState setting) (DeviceLabel setting))}
    (knows : MediumKnown setting known first.medium)
    (run : Run (DeviceStep setting) first taken last) :
    MediumKnown setting (known.afterAll (effectsOfDevice taken)) last.medium := by
  have invariant := @Run.invariant_taken _ _ (DeviceStep setting) first last taken
    fun taken state => MediumKnown setting (known.afterAll (effectsOfDevice taken)) state.medium
  apply invariant knows _ run
  intro earlier before label after knows step
  have later := step.keepsKnown short knows
  simpa [effectsOfDevice, Knowledge.afterAll] using later

omit short in
theorem Knowledge.afterAll_append (known : Knowledge) (effects later : List StoreEffect) :
    known.afterAll (effects ++ later) = (known.afterAll effects).afterAll later :=
  List.foldl_append

omit short in
/--
Every start that registers the handler replays the entries known from the run so far,
each once, onto the default objects. It leaves the entries to the initialization.
-/
theorem deviceRun_replays (base : setting.platform.baseName = bacnetStorageHandlerName)
    {first before after : DeviceState setting}
    {taken : List (Taken (DeviceState setting) (DeviceLabel setting))}
    (knows : MediumKnown setting known first.medium)
    (run : Run (DeviceStep setting) first taken before) {now : ℕ} {replies : StorageInitReplies}
    {effects : List StoreEffect} {requests : List (BacnetWritePropertyData setting.maxApdu)}
    (start : DeviceStep setting before ⟨.start now replies, effects, requests⟩ after)
    (registered : (bacnetStorageInit setting.config replies before.medium).1 = 0) :
    Replays setting (known.afterAll (effectsOfDevice taken ++ effects)) requests ∧
      after.medium = (bacnetStorageInit setting.config replies before.medium).2 ∧
      ∃ ram, after.ram = some ram ∧ ram.storeCallback = true ∧
        ram.objects = requests.foldl setting.replay setting.device.initial := by
  have short : setting.platform.baseName.length ≤ 25 := by
    rw [base]
    decide
  have knowsBefore := deviceRun_known short knows run
  cases start with
  | start handled =>
      rcases initHandler_eq handled with ⟨-, medium, -, objects, stores⟩
      rw [Knowledge.afterAll_append]
      exact ⟨initHandler_replays base knowsBefore registered handled, medium,
        _, rfl, stores, objects⟩
  | running other handled => exact absurd rfl (other now replies)

end Run

/-- A device with one property, which holds the application data last written. -/
def BasicDevice.reference (maxApdu : ℕ) : BasicDevice maxApdu where
  Objects := List UInt8
  initial := [0x44, 0, 0, 0, 0]
  instanceNumber := fun _ => 260124
  writeProperty := fun wpData _ => ((true, .other), wpData.applicationData)
  storeIndex := fun wpData => wpData.arrayIndex

def DeviceSetting.reference (baseName : CString) : DeviceSetting where
  platform := .reference baseName
  settings := .reference
  lists := .reference
  config := ⟨false, false⟩
  maxApdu := 480
  device := .reference 480
  configReboot := true
  rebootDelay := 1000
  wildcardInstance := false

/-- A device that has never been started. -/
def DeviceState.new (setting : DeviceSetting) : DeviceState setting :=
  { ram := none, medium := { nvs := setting.settings.empty, settingsFile := none } }

theorem mediumKnown_new (file : setting.config.settingsFile = false) :
    MediumKnown setting .forgotten (DeviceState.new setting).medium := by
  have store : (DeviceState.new setting).medium.store setting.config = setting.settings.empty := by
    simp [DeviceState.new, PersistentMedium.store, file]
  refine { knows := ?_, onlyKeys := ?_ }
  · intro key contents known
    rw [store, setting.settings.lookup_empty, ← Option.some.inj known]
  · intro name value found
    rw [store, setting.settings.lookup_empty] at found
    cases found

/-- The present value written before a restart is replayed by it. -/
theorem deviceRun_replays_presentValue :
    let setting := DeviceSetting.reference bacnetStorageHandlerName
    let replies : StorageInitReplies := ⟨0, 0, 0, 0⟩
    let wpData : BacnetWritePropertyData 480 :=
      restoredWriteProperty .reference 1 1 propPresentValue bacnetArrayAll [0x44, 63, 128, 0, 0]
        (by decide)
    let begun := (initHandler setting 0 replies (DeviceState.new setting).medium).2
    let written := (DeviceWork.writeProperty ⟨begun.ram, begun.medium, []⟩ wpData).2
    let restarted := initHandler setting 0 replies written.medium
    Replays setting (Knowledge.forgotten.afterAll (written.effects ++ restarted.2.effects))
      restarted.1 := by
  intro setting replies wpData begun written restarted
  have started : DeviceStep setting (.new setting) ⟨.start 0 replies, begun.effects, _⟩
      ⟨some begun.ram, begun.medium⟩ := .start rfl
  have wrote : DeviceStep setting ⟨some begun.ram, begun.medium⟩
      ⟨.writeProperty wpData, written.effects, []⟩ ⟨some written.ram, written.medium⟩ :=
    .running (fun _ _ start => by cases start) rfl
  have again : DeviceStep setting ⟨some written.ram, written.medium⟩
      ⟨.start 0 replies, restarted.2.effects, restarted.1⟩ ⟨some restarted.2.ram, _⟩ := .start rfl
  exact (deviceRun_replays rfl (mediumKnown_new rfl) (.next (.next .start started) wrote) again
    rfl).1

end BacnetZephyr
