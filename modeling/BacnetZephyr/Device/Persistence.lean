import BacnetZephyr.Foundation.Transition
import BacnetZephyr.Osif.Reinit
import BacnetZephyr.Settings.Restore
import BacnetZephyr.Shell.Arguments
import BacnetZephyr.Storage.Clear
import BacnetZephyr.Storage.Init

/-!
# What a device keeps across restarts

The sample applications store every property that WriteProperty has changed, restore
the stored properties when they start, and clear them before a cold start. This file
runs such a device through any number of restarts, with writes, shell commands and
reinitializations in between, any of whose calls of the settings may fail.

The abstract side is what is known of the entries: `Knowledge.after` says what an
operation with its result does to it. `DeviceWork.Known` is the refinement, and each
operation keeps it, whether it succeeds or fails.
-/

namespace BacnetZephyr

open CLib NamedStore Transition

/-- The same request for another instance. -/
def BacnetWritePropertyData.withInstance {maxApdu : ℕ} (wpData : BacnetWritePropertyData maxApdu)
    (objectInstance : UInt32) : BacnetWritePropertyData maxApdu :=
  { wpData with objectInstance }

/--
The objects of a device, with the parts of the BACnet library that write to them and
choose the array index under which a write is stored.
-/
structure BasicDevice (maxApdu : ℕ) where
  Objects : Type
  /-- The objects that the init handler creates, with their default values. -/
  initial : Objects
  /-- `Device_Object_Instance_Number`. -/
  instanceNumber : Objects → UInt32
  /-- `Device_Write_Property`: the status, the error code and the objects. -/
  writeProperty : BacnetWritePropertyData maxApdu → Objects → (Bool × BacnetErrorCode) × Objects
  storeIndex : BacnetWritePropertyData maxApdu → UInt32

/-- The build of a device and its platform. -/
structure DeviceSetting where
  platform : StoragePlatform
  settings : PersistentSettings
  lists : PropertyLists
  config : StorageInitConfig
  maxApdu : ℕ
  device : BasicDevice maxApdu
  /-- `CONFIG_REBOOT`. -/
  configReboot : Bool
  /-- `CONFIG_BACNET_REINIT_REBOOT_DELAY`. -/
  rebootDelay : ℕ
  /-- The sample puts its own instance in the place of the wildcard of a Device object. -/
  wildcardInstance : Bool

/-- What an operation has done to the entries, with the result of its call. -/
inductive StoreEffect where
  | set (key : BacnetStorageKey) (data : List UInt8) (rc : Int)
  | delete (key : BacnetStorageKey) (rc : Int)
  | clear (rc : Int)
  | unlink
deriving DecidableEq

/-- What is known of the entry of each key: `none` after a call that failed. -/
abbrev Knowledge := BacnetStorageKey → Option (Option (List UInt8))

/-- Every entry is known to be absent. -/
def Knowledge.forgotten : Knowledge := fun _ => some none

def Knowledge.after (known : Knowledge) : StoreEffect → Knowledge
  | .set key data rc =>
      Function.update known key (if rc = 0 ∧ data ≠ [] then some (some data) else none)
  | .delete key rc => Function.update known key (if rc = 0 then some none else none)
  | .clear rc =>
      if rc = 0 then fun _ => some none
      else fun key => if known key = some none then some none else none
  | .unlink => fun _ => some none

def Knowledge.afterAll (known : Knowledge) (effects : List StoreEffect) : Knowledge :=
  effects.foldl Knowledge.after known

section Definitions

variable (setting : DeviceSetting)

/-- What does not survive a restart. -/
structure DeviceRam where
  objects : setting.device.Objects
  /-- `settings_subsys_init` has succeeded. -/
  settingsReady : Bool
  /-- `bacnet_settings_basic_store` is the store callback of the basic server. -/
  storeCallback : Bool
  reinit : ReinitDevice

/-- A device while its code runs, with what the code has done to the entries so far. -/
structure DeviceWork where
  ram : DeviceRam setting
  medium : PersistentMedium setting.settings
  effects : List StoreEffect

/-- A device between two events; it has no memory while it is down. -/
structure DeviceState where
  ram : Option (DeviceRam setting)
  medium : PersistentMedium setting.settings

end Definitions

def PersistentMedium.setStore {settings : PersistentSettings} (config : StorageInitConfig)
    (medium : PersistentMedium settings) (store : settings.backend.Store) :
    PersistentMedium settings :=
  if config.settingsFile then { medium with settingsFile := some store }
  else { medium with nvs := store }

variable {setting : DeviceSetting}

namespace DeviceWork

/-- The device with other objects. -/
def withObjects (work : DeviceWork setting) (objects : setting.device.Objects) :
    DeviceWork setting :=
  { work with ram := { work.ram with objects } }

/-- A call of the settings, which reach no entry before their initialization. -/
def callSettings (work : DeviceWork setting) (rc : Int) (store : setting.settings.backend.Store)
    (effect : Int → StoreEffect) : DeviceWork setting :=
  if work.ram.settingsReady then
    { work with
      medium := work.medium.setStore setting.config store
      effects := work.effects ++ [effect rc] }
  else work

/-- `bacnet_storage_set` with the entries of the device. -/
def storageSet (work : DeviceWork setting) (key : BacnetStorageKey) (data : List UInt8) :
    DeviceWork setting :=
  let (rc, store) := bacnetStorageSet setting.platform setting.settings.backend
    (work.medium.store setting.config) key data
  work.callSettings rc store (.set key data)

def storageDelete (work : DeviceWork setting) (key : BacnetStorageKey) : DeviceWork setting :=
  let (rc, store) := bacnetStorageDelete setting.platform setting.settings.backend
    (work.medium.store setting.config) key
  work.callSettings rc store (.delete key)

/-- `bacnet_settings_clear`. -/
def settingsClear (work : DeviceWork setting) : DeviceWork setting :=
  let (rc, store) := bacnetStorageClear setting.settings.backend setting.platform
    (work.medium.store setting.config)
  work.callSettings rc store .clear

/-- `bacnet_settings_init`: whether it succeeded, and the device. -/
def settingsInit (work : DeviceWork setting) (replies : StorageInitReplies) :
    Bool × DeviceWork setting :=
  let (err, medium) := bacnetStorageInit setting.config replies work.medium
  let littlefs := setting.config.settingsFile && setting.config.fileSystemLittlefs
  let settingsReady : Bool :=
    (!littlefs || replies.mount = 0) && replies.settingsSubsysInit = 0
  let unlinked : Bool := littlefs && replies.mount = 0 && replies.unlink = 0
  (err = 0,
    { ram := { work.ram with settingsReady }
      medium
      effects := work.effects ++ if unlinked then [.unlink] else [] })

/-- `bacnet_settings_basic_store`. -/
def basicStore (work : DeviceWork setting) (objectType objectInstance objectProperty
    arrayIndex : UInt32) (applicationData : List UInt8) : DeviceWork setting :=
  work.storageSet
    (bacnetStorageKeyInit objectType.toUInt16 objectInstance objectProperty arrayIndex)
    applicationData

/-- A WriteProperty of the basic server, which calls the store callback if it succeeds. -/
def writeProperty (work : DeviceWork setting) (wpData : BacnetWritePropertyData setting.maxApdu) :
    (Bool × BacnetErrorCode) × DeviceWork setting :=
  let (result, objects) := setting.device.writeProperty wpData work.ram.objects
  let work := work.withObjects objects
  if result.1 && work.ram.storeCallback then
    (result, work.basicStore wpData.objectType wpData.objectInstance wpData.objectProperty
      (setting.device.storeIndex wpData) wpData.applicationData)
  else (result, work)

/-- `Settings_Restore_Callback` of the samples. -/
def settingsRestoreCallback (work : DeviceWork setting)
    (wpData : BacnetWritePropertyData setting.maxApdu) :
    (Bool × BacnetErrorCode) × DeviceWork setting :=
  if setting.wildcardInstance ∧ wpData.objectType = objectDevice ∧
      wpData.objectInstance = bacnetMaxInstance then
    work.writeProperty (wpData.withInstance (setting.device.instanceNumber work.ram.objects))
  else work.writeProperty wpData

/-- The entries of a load, one after the other; also the requests that they led to. -/
def restoreEntries (work : DeviceWork setting) : List SettingsPresentation →
    List (BacnetWritePropertyData setting.maxApdu) × DeviceWork setting
  | [] => ([], work)
  | presentation :: rest =>
      let restore : BacnetSettingsRestoreCallback setting.maxApdu :=
        fun wpData => (work.settingsRestoreCallback wpData).1
      let outcome := bacnetStorageHandlerSet setting.platform
        (some (bacnetStorageRestoreHandler setting.lists setting.maxApdu (some restore)))
        presentation.path presentation.value.length (settingsReadCb presentation.value)
      let requests := outcome.requests
      let work := requests.foldl (fun work wpData => (work.settingsRestoreCallback wpData).2) work
      let (later, work) := work.restoreEntries rest
      (requests ++ later, work)

end DeviceWork

/-- What the memory holds when the init handler starts. -/
def DeviceRam.fresh (setting : DeviceSetting) : DeviceRam setting where
  objects := setting.device.initial
  settingsReady := false
  storeCallback := false
  reinit := { reinitializeTimer := ⟨0, 0⟩, reinitializedState := .idle }

/-- The init handler of the samples. -/
def initHandler (setting : DeviceSetting) (now : ℕ) (replies : StorageInitReplies)
    (medium : PersistentMedium setting.settings) :
    List (BacnetWritePropertyData setting.maxApdu) × DeviceWork setting :=
  let work : DeviceWork setting := { ram := .fresh setting, medium, effects := [] }
  -- nobody looks at the result, but without a registered handler nothing is presented
  let (registered, work) := work.settingsInit replies
  let presentations :=
    if registered then
      (bacnetStorageLoad setting.settings.backend (work.medium.store setting.config)).2
    else []
  let (requests, work) := work.restoreEntries presentations
  let ram :=
    { work.ram with
      storeCallback := true
      reinit := bacnetReinitializeDeviceInit now setting.rebootDelay work.ram.reinit }
  (requests, { work with ram })

/-- One call of the task handler; also whether the device goes down. -/
def taskHandler (now : ℕ) (work : DeviceWork setting) : Bool × DeviceWork setting :=
  let (reinit, effects) :=
    bacnetReinitializeDeviceTask setting.configReboot true now work.ram.reinit
  let work := { work with ram := { work.ram with reinit } }
  let work := if .coldstartCallback ∈ effects then work.settingsClear else work
  (.sysRebootCold ∈ effects || .sysRebootWarm ∈ effects, work)

/-! ## Runs -/

inductive DeviceEvent (setting : DeviceSetting) where
  | start (now : ℕ) (replies : StorageInitReplies)
  | writeProperty (wpData : BacnetWritePropertyData setting.maxApdu)
  /-- A value set by a shell command or by the application. -/
  | storageSet (key : BacnetStorageKey) (data : List UInt8)
  | storageDelete (key : BacnetStorageKey)
  | settingsClear
  /-- The program of the application sets values, of which nothing is stored. -/
  | program (update : setting.device.Objects → setting.device.Objects)
  | reinitializeDevice (state : BacnetReinitializedState)
  | task (now : ℕ)
  | powerLoss

/-- An event, what it did to the entries, and the requests a start has replayed. -/
structure DeviceLabel (setting : DeviceSetting) where
  event : DeviceEvent setting
  effects : List StoreEffect
  requests : List (BacnetWritePropertyData setting.maxApdu)

/-- What an event does to a device that is up. -/
def DeviceEvent.onRunning (work : DeviceWork setting) : DeviceEvent setting →
    Bool × DeviceWork setting
  | .start _ _ | .powerLoss => (true, work)
  | .writeProperty wpData => (false, (work.writeProperty wpData).2)
  | .storageSet key data => (false, work.storageSet key data)
  | .storageDelete key => (false, work.storageDelete key)
  | .settingsClear => (false, work.settingsClear)
  | .program update => (false, work.withObjects (update work.ram.objects))
  | .reinitializeDevice state =>
      (false, { work with ram :=
        { work.ram with reinit := { work.ram.reinit with reinitializedState := state } } })
  | .task now => taskHandler now work

/-- A start finds a device down or up; nothing else happens on a device that is down. -/
inductive DeviceStep (setting : DeviceSetting) :
    DeviceState setting → DeviceLabel setting → DeviceState setting → Prop where
  | start {before : DeviceState setting} {now : ℕ} {replies : StorageInitReplies}
      {requests : List (BacnetWritePropertyData setting.maxApdu)} {work : DeviceWork setting}
      (handled : initHandler setting now replies before.medium = (requests, work)) :
      DeviceStep setting before ⟨.start now replies, work.effects, requests⟩
        ⟨some work.ram, work.medium⟩
  | running {ram : DeviceRam setting} {medium : PersistentMedium setting.settings}
      {event : DeviceEvent setting} {down : Bool} {work : DeviceWork setting}
      (other : ∀ now replies, event ≠ .start now replies)
      (handled : event.onRunning ⟨ram, medium, []⟩ = (down, work)) :
      DeviceStep setting ⟨some ram, medium⟩ ⟨event, work.effects, []⟩
        ⟨if down then none else some work.ram, work.medium⟩

/-- What the transitions did to the entries, in order. -/
def effectsOfDevice (taken : List (Taken (DeviceState setting) (DeviceLabel setting))) :
    List StoreEffect :=
  taken.flatMap fun transition => transition.label.effects

/-! ## What is known stays true -/

/-- The entries are as they are known, and below the base name there are entries of keys only. -/
structure MediumKnown (setting : DeviceSetting) (known : Knowledge)
    (medium : PersistentMedium setting.settings) : Prop where
  knows : Knows (setting.settings.backend.lookup (medium.store setting.config))
    (keyName setting.platform.baseName) known
  onlyKeys : ∀ name value,
    setting.settings.backend.lookup (medium.store setting.config) name = some value →
    AtOrBelow settingsNameSeparator setting.platform.baseName name →
    ∃ key, name = keyName setting.platform.baseName key

@[simp]
theorem PersistentMedium.store_setStore {settings : PersistentSettings}
    (config : StorageInitConfig) (medium : PersistentMedium settings)
    (store : settings.backend.Store) : (medium.setStore config store).store config = store := by
  by_cases file : config.settingsFile = true
  · simp [PersistentMedium.store, PersistentMedium.setStore, file]
  · simp [PersistentMedium.store, PersistentMedium.setStore, file]

section Known

variable {known : Knowledge} {work : DeviceWork setting}
  (short : setting.platform.baseName.length ≤ 25)

/-- The operations so far and their results are all that is needed to know the entries. -/
def DeviceWork.Known (known : Knowledge) (work : DeviceWork setting) : Prop :=
  MediumKnown setting (known.afterAll work.effects) work.medium

theorem Knowledge.afterAll_snoc (known : Knowledge) (effects : List StoreEffect)
    (effect : StoreEffect) :
    known.afterAll (effects ++ [effect]) = (known.afterAll effects).after effect := by
  simp [Knowledge.afterAll]

/-- A change at the name of one key keeps what is known, with the new entry of the key. -/
theorem MediumKnown.change {medium : PersistentMedium setting.settings}
    (mediumKnown : MediumKnown setting known medium) {key : BacnetStorageKey}
    {store : setting.settings.backend.Store} {entry : Option (Option (List UInt8))}
    (now : ∀ contents, entry = some contents →
      setting.settings.backend.lookup store (keyName setting.platform.baseName key) = contents)
    (others : ∀ name, name ≠ keyName setting.platform.baseName key →
      setting.settings.backend.lookup store name =
        setting.settings.backend.lookup (medium.store setting.config) name) :
    MediumKnown setting (Function.update known key entry)
      (medium.setStore setting.config store) where
  knows := by
    rw [PersistentMedium.store_setStore]
    exact mediumKnown.knows.update (keyName_injective _) now others
  onlyKeys := by
    rw [PersistentMedium.store_setStore]
    intro name value found below
    by_cases same : name = keyName setting.platform.baseName key
    · exact ⟨key, same⟩
    · rw [others name same] at found
      exact mediumKnown.onlyKeys name value found below

/-- A call keeps the knowledge if what is known after it is true of the store it leaves. -/
theorem DeviceWork.Known.callSettings (knows : work.Known known) {rc : Int}
    {store : setting.settings.backend.Store} {effect : Int → StoreEffect}
    (called : MediumKnown setting ((known.afterAll work.effects).after (effect rc))
      (work.medium.setStore setting.config store)) :
    (work.callSettings rc store effect).Known known := by
  unfold DeviceWork.callSettings
  split
  · rw [DeviceWork.Known, Knowledge.afterAll_snoc]
    exact called
  · exact knows

include short

theorem DeviceWork.Known.storageSet (knows : work.Known known) (key : BacnetStorageKey)
    (data : List UInt8) : (work.storageSet key data).Known known := by
  let backend := setting.settings.backend
  let store := work.medium.store setting.config
  simp only [DeviceWork.storageSet, bacnetStorageSet_eq (nameFits_of_short short key)]
  apply knows.callSettings
  apply MediumKnown.change knows
  · intro contents known
    split at known
    · rename_i succeeded
      rw [← Option.some.inj known]
      exact backend.saveOne_saved store _ data succeeded.2 succeeded.1
    · cases known
  · intro name different
    exact backend.saveOne_other store _ data name different

theorem DeviceWork.Known.storageDelete (knows : work.Known known) (key : BacnetStorageKey) :
    (work.storageDelete key).Known known := by
  let backend := setting.settings.backend
  let store := work.medium.store setting.config
  simp only [DeviceWork.storageDelete, bacnetStorageDelete_eq (nameFits_of_short short key)]
  apply knows.callSettings
  apply MediumKnown.change knows
  · intro contents known
    split at known
    · rename_i succeeded
      rw [← Option.some.inj known]
      exact backend.delete_deleted store _ succeeded
    · cases known
  · intro name different
    exact backend.delete_other store _ name different

/-- A clear deletes entries of keys only, whatever its deletions return. -/
theorem bacnetStorageClear_of_onlyKeys {medium : PersistentMedium setting.settings}
    (mediumKnown : MediumKnown setting known medium) :
    let backend := setting.settings.backend
    let store := medium.store setting.config
    let deletions := deleteNames backend store (clearedNames backend setting.platform store)
    (bacnetStorageClear backend setting.platform store).2 = deletions.2 ∧
      ((bacnetStorageClear backend setting.platform store).1 = 0 →
        ∀ deletion ∈ deletions.1, deletion.2 = 0) := by
  intro backend store deletions
  have below : ∀ entry ∈ backend.subtree store setting.platform.baseName,
      AtOrBelow settingsNameSeparator setting.platform.baseName entry.1 :=
    fun entry mem => ((backend.mem_subtree store _ entry.1 entry.2).mp mem).2
  have small : ∀ entry ∈ backend.subtree store setting.platform.baseName,
      entry.1.length ≤ settingsMaxNameLen := by
    intro entry mem
    have held := (backend.mem_subtree store _ entry.1 entry.2).mp mem
    rcases mediumKnown.onlyKeys entry.1 entry.2 held.1 held.2 with ⟨key, name⟩
    rw [name]
    exact nameFits_of_short short key
  simp only [bacnetStorageClear, settingsLoadSubtreeDirect,
    visitEntries_bacnetStorageClearCb below small, if_true]
  split
  · rename_i failed
    exact ⟨rfl, fun succeeded => absurd succeeded failed⟩
  · exact ⟨rfl, fun succeeded => (firstError_eq_zero_iff _).mp succeeded⟩

theorem DeviceWork.Known.settingsClear (knows : work.Known known) :
    work.settingsClear.Known known := by
  let backend := setting.settings.backend
  let store := work.medium.store setting.config
  let names := clearedNames backend setting.platform store
  rcases bacnetStorageClear_of_onlyKeys short knows with ⟨made, succeeds⟩
  have listed := map_fst_deleteNames store names
  have nodup : names.Nodup := backend.subtree_nodup store setting.platform.baseName
  have kept : ∀ name, name ∉ names →
      backend.lookup (deleteNames backend store names).2 name = backend.lookup store name :=
    fun name notMem => lookup_deleteNames_of_notMem notMem
  have absent : ∀ key, keyName setting.platform.baseName key ∉ names →
      backend.lookup store (keyName setting.platform.baseName key) = none := by
    intro key notMem
    rw [Option.eq_none_iff_forall_ne_some]
    intro value held
    exact notMem ((mem_clearedNames _).mpr ⟨atOrBelow_keyName _ key, value, held⟩)
  simp only [DeviceWork.settingsClear]
  apply knows.callSettings
  refine { knows := ?_, onlyKeys := ?_ }
  · rw [PersistentMedium.store_setStore, made]
    intro key contents known
    simp only [Knowledge.after] at known
    split at known
    · rename_i succeeded
      rw [← Option.some.inj known]
      by_cases mem : keyName setting.platform.baseName key ∈ names
      · apply lookup_deleteNames_of_deleted nodup
        rw [← listed] at mem
        rcases List.mem_map.mp mem with ⟨⟨name, rc⟩, deletion, rfl⟩
        rwa [show rc = 0 from succeeds succeeded _ deletion] at deletion
      · rw [kept _ mem]
        exact absent key mem
    · -- after a failure only an entry that was absent is known
      dsimp only at known
      split at known
      · rename_i wasAbsent
        rw [← Option.some.inj known]
        have gone := knows.knows key none wasAbsent
        have notMem : keyName setting.platform.baseName key ∉ names := by
          intro mem
          rcases ((mem_clearedNames _).mp mem).2 with ⟨value, held⟩
          rw [gone] at held
          cases held
        rw [kept _ notMem]
        exact gone
      · cases known
  · rw [PersistentMedium.store_setStore, made]
    intro name value found below
    by_cases mem : name ∈ names
    · rcases ((mem_clearedNames name).mp mem).2 with ⟨value, held⟩
      exact knows.onlyKeys name value held below
    · rw [kept name mem] at found
      exact knows.onlyKeys name value found below

omit short

/-- The initialization either unlinks the settings file or keeps the entries. -/
theorem bacnetStorageInit_medium (config : StorageInitConfig) (replies : StorageInitReplies)
    {settings : PersistentSettings} (medium : PersistentMedium settings) :
    (bacnetStorageInit config replies medium).2.store config =
      if config.settingsFile && config.fileSystemLittlefs && replies.mount = 0 &&
          replies.unlink = 0 then settings.empty
      else medium.store config := by
  by_cases littlefs : (config.settingsFile && config.fileSystemLittlefs) = true
  · have file : config.settingsFile = true := by
      simp only [Bool.and_eq_true] at littlefs
      exact littlefs.1
    simp only [bacnetStorageInit, littlefs, if_true, Bool.true_and]
    by_cases mounted : replies.mount = 0
    · simp only [mounted, ne_eq, not_true_eq_false, if_false, startSettings_medium]
      rcases shape : medium.settingsFile with _ | content
      · simp [PersistentMedium.store, unlinkSettingsFile, shape, file]
      · by_cases unlinked : replies.unlink = 0
        · simp [PersistentMedium.store, unlinkSettingsFile, shape, file, unlinked]
        · simp [PersistentMedium.store, unlinkSettingsFile, shape, file, unlinked]
    · simp [mounted]
  · simp only [Bool.not_eq_true] at littlefs
    simp [bacnetStorageInit, littlefs, startSettings_medium]

theorem DeviceWork.Known.settingsInit (knows : work.Known known) (replies : StorageInitReplies) :
    (work.settingsInit replies).2.Known known := by
  have store := bacnetStorageInit_medium setting.config replies work.medium
  simp only [DeviceWork.Known, DeviceWork.settingsInit]
  by_cases unlinked : (setting.config.settingsFile && setting.config.fileSystemLittlefs &&
      replies.mount = 0 && replies.unlink = 0) = true
  · rw [if_pos unlinked] at store
    rw [if_pos unlinked, Knowledge.afterAll_snoc]
    refine { knows := ?_, onlyKeys := ?_ }
    · intro key contents known
      rw [store, setting.settings.lookup_empty, Option.some.inj known]
    · intro name value found
      rw [store, setting.settings.lookup_empty] at found
      cases found
  · rw [if_neg unlinked] at store
    rw [if_neg unlinked, List.append_nil]
    refine { knows := ?_, onlyKeys := ?_ }
    · rw [store]
      exact knows.knows
    · rw [store]
      exact knows.onlyKeys

end Known

end BacnetZephyr
