import BacnetZephyr.Storage.Access

/-!
# Initializing the storage

`bacnet_storage_init` after a reboot. With the settings in a file on LittleFS it
mounts the file system and unlinks the settings file before it starts the settings
subsystem; with the NVS backend it only starts the subsystem.

The unlink takes the stored entries with it. `bacnetStorageInit_keeps_iff` says
when every key reads as before.
-/

namespace BacnetZephyr

open CLib NamedStore

/-- `CONFIG_SETTINGS_FILE` and `CONFIG_FILE_SYSTEM_LITTLEFS`. -/
structure StorageInitConfig where
  settingsFile : Bool
  fileSystemLittlefs : Bool
deriving DecidableEq, Repr

/-- The settings backend of a build, and the store it finds where nothing is persisted. -/
structure PersistentSettings where
  backend : SettingsBackend
  empty : backend.Store
  lookup_empty : ∀ name, backend.lookup empty name = none

/-- What survives a reboot: the NVS partition, and the settings file if there is one. -/
structure PersistentMedium (settings : PersistentSettings) where
  nvs : settings.backend.Store
  settingsFile : Option settings.backend.Store

/-- The entries the settings subsystem works on. -/
def PersistentMedium.store {settings : PersistentSettings} (config : StorageInitConfig)
    (medium : PersistentMedium settings) : settings.backend.Store :=
  if config.settingsFile then medium.settingsFile.getD settings.empty else medium.nvs

/-- What the functions called by `bacnet_storage_init` return. -/
structure StorageInitReplies where
  mount : Int
  unlink : Int
  settingsSubsysInit : Int
  settingsRegister : Int
deriving DecidableEq, Repr

/-- `fs_unlink(CONFIG_SETTINGS_FILE_PATH)`. -/
def unlinkSettingsFile {settings : PersistentSettings} (reply : Int)
    (medium : PersistentMedium settings) : Int × PersistentMedium settings :=
  match medium.settingsFile with
  | none => (-Errno.enoent, medium)
  | some _ => if reply = 0 then (0, { medium with settingsFile := none }) else (reply, medium)

/-- The start of the settings subsystem and the registration of the handler. -/
def startSettings {settings : PersistentSettings} (replies : StorageInitReplies)
    (medium : PersistentMedium settings) : Int × PersistentMedium settings :=
  let rc := replies.settingsSubsysInit
  if rc ≠ 0 then (rc, medium) else (replies.settingsRegister, medium)

def bacnetStorageInit {settings : PersistentSettings} (config : StorageInitConfig)
    (replies : StorageInitReplies) (medium : PersistentMedium settings) :
    Int × PersistentMedium settings :=
  if config.settingsFile && config.fileSystemLittlefs then
    let rc := replies.mount
    if rc ≠ 0 then (rc, medium)
    else
      -- an error other than a missing file is only logged
      let (_, medium) := unlinkSettingsFile replies.unlink medium
      startSettings replies medium
  else startSettings replies medium

/-! ## What a get reads -/

variable {platform : StoragePlatform} {backend : SettingsBackend}

/-- The name a key is read at. -/
def storedName (platform : StoragePlatform) (key : BacnetStorageKey) : CString :=
  (bacnetStorageKeyEncode platform (settingsMaxNameLen + 1) key).2

/-- A get at the name takes the value of the entry: its name has no component left. -/
def GetTakes (platform : StoragePlatform) (name : CString) (entry : CString × List UInt8) : Prop :=
  (platform.names.nameNext (remainder name entry.1)).1 = 0

/-- Some key reads a value from the store. -/
def HoldsValue (platform : StoragePlatform) (backend : SettingsBackend) (store : backend.Store) :
    Prop :=
  ∃ key, ∃ entry ∈ backend.subtree store (storedName platform key),
    GetTakes platform (storedName platform key) entry

theorem bacnetStorageGet_eq_load (store : backend.Store) (key : BacnetStorageKey)
    (data : List UInt8) :
    bacnetStorageGet platform backend store key data =
      loadImmediateValue platform backend store (storedName platform key) data := by
  simp only [bacnetStorageGet, storedName, bacnetStorageKeyEncode_eq, snprintf]
  rw [if_neg (by omega)]

theorem directLoaderImmediateValue_of_not_takes {name : CString} {entry : CString × List UInt8}
    (skipped : ¬GetTakes platform name entry) (readCb : SettingsReadCb)
    (context : DirectImmediateValue) :
    directLoaderImmediateValue platform (remainder name entry.1) readCb context =
      (0, context) := by
  have left : (platform.names.nameNext (remainder name entry.1)).1 ≠ 0 := skipped
  simp [directLoaderImmediateValue, left]

theorem directLoaderImmediateValue_of_takes {name : CString} {entry : CString × List UInt8}
    (taken : GetTakes platform name entry) (value : List UInt8) (context : DirectImmediateValue) :
    (directLoaderImmediateValue platform (remainder name entry.1) (settingsReadCb value)
        context).1 = 0 ∧
      (directLoaderImmediateValue platform (remainder name entry.1) (settingsReadCb value)
        context).2.fetched = true := by
  have last : (platform.names.nameNext (remainder name entry.1)).1 = 0 := taken
  have read : ¬(settingsReadCb value context.valueSize).1 < 0 := by
    simp only [settingsReadCb]
    omega
  have fits : (settingsReadCb value context.valueSize).1.toNat ≤ context.valueSize := by
    simp only [settingsReadCb, Int.toNat_natCast, List.length_take]
    exact Nat.min_le_left _ _
  simp only [directLoaderImmediateValue, last, if_true]
  rw [if_neg read, if_pos fits]
  exact ⟨rfl, rfl⟩

theorem visitEntries_of_not_takes {name : CString} {entries : List (CString × List UInt8)}
    (skipped : ∀ entry ∈ entries, ¬GetTakes platform name entry) (context : DirectImmediateValue) :
    visitEntries name (directLoaderImmediateValue platform) entries context = context := by
  induction entries with
  | nil => rfl
  | cons entry rest ih =>
      simp only [visitEntries, directLoaderImmediateValue_of_not_takes
        (skipped entry List.mem_cons_self), ne_eq, not_true_eq_false, if_false]
      exact ih fun other mem => skipped other (List.mem_cons_of_mem _ mem)

theorem fetched_visitEntries {name : CString} {entries : List (CString × List UInt8)}
    {context : DirectImmediateValue}
    (taken : context.fetched = true ∨ ∃ entry ∈ entries, GetTakes platform name entry) :
    (visitEntries name (directLoaderImmediateValue platform) entries context).fetched = true := by
  induction entries generalizing context with
  | nil => simpa [visitEntries] using taken
  | cons entry rest ih =>
      by_cases takes : GetTakes platform name entry
      · rcases directLoaderImmediateValue_of_takes takes entry.2 context with ⟨returned, fetched⟩
        simp only [visitEntries, returned, ne_eq, not_true_eq_false, if_false]
        exact ih (Or.inl fetched)
      · simp only [visitEntries, directLoaderImmediateValue_of_not_takes takes, ne_eq,
          not_true_eq_false, if_false]
        apply ih
        rcases taken with fetched | ⟨other, mem, takes'⟩
        · exact Or.inl fetched
        · rcases List.mem_cons.mp mem with rfl | mem
          · exact absurd takes' takes
          · exact Or.inr ⟨other, mem, takes'⟩

section Loads

variable {store : backend.Store} (loads : ∀ name, backend.loadResult store name = 0)
  {key : BacnetStorageKey}

include loads

theorem bacnetStorageGet_of_not_holds
    (skipped : ∀ entry ∈ backend.subtree store (storedName platform key),
      ¬GetTakes platform (storedName platform key) entry) (data : List UInt8) :
    bacnetStorageGet platform backend store key data = (-Errno.enoent, data) := by
  simp only [bacnetStorageGet_eq_load, loadImmediateValue, settingsLoadSubtreeDirect, loads,
    if_true, visitEntries_of_not_takes skipped]
  rfl

theorem bacnetStorageGet_of_holds
    (taken : ∃ entry ∈ backend.subtree store (storedName platform key),
      GetTakes platform (storedName platform key) entry) (data : List UInt8) :
    0 ≤ (bacnetStorageGet platform backend store key data).1 := by
  simp only [bacnetStorageGet_eq_load, loadImmediateValue, settingsLoadSubtreeDirect, loads,
    if_true, fetched_visitEntries (Or.inr taken)]
  omega

end Loads

/-! ## The entries across the initialization -/

variable {settings : PersistentSettings} {config : StorageInitConfig}
  {replies : StorageInitReplies} {medium : PersistentMedium settings}

theorem not_holdsValue_empty (settings : PersistentSettings) :
    ¬HoldsValue platform settings.backend settings.empty := by
  rintro ⟨key, ⟨name, value⟩, mem, _⟩
  have held := ((settings.backend.mem_subtree _ _ name value).mp mem).1
  rw [settings.lookup_empty] at held
  cases held

theorem startSettings_medium (replies : StorageInitReplies) (medium : PersistentMedium settings) :
    (startSettings replies medium).2 = medium := by
  unfold startSettings
  dsimp only
  split <;> rfl

/-- The unlink is the only step of the initialization that touches the entries. -/
theorem bacnetStorageInit_store (initialized : (bacnetStorageInit config replies medium).1 = 0) :
    (bacnetStorageInit config replies medium).2.store config =
      if config.settingsFile = true ∧ config.fileSystemLittlefs = true ∧ replies.unlink = 0 then
        settings.empty
      else medium.store config := by
  by_cases littlefs : config.settingsFile = true ∧ config.fileSystemLittlefs = true
  · rcases littlefs with ⟨file, littlefs⟩
    simp only [bacnetStorageInit, file, littlefs, Bool.and_self, if_true] at initialized ⊢
    by_cases mounted : replies.mount = 0
    · simp only [mounted, ne_eq, not_true_eq_false, if_false, startSettings_medium]
      rcases shape : medium.settingsFile with _ | content
      · simp [PersistentMedium.store, unlinkSettingsFile, shape, file]
      · by_cases unlinked : replies.unlink = 0
        · simp [PersistentMedium.store, unlinkSettingsFile, shape, file, unlinked]
        · simp [PersistentMedium.store, unlinkSettingsFile, shape, file, unlinked]
    · simp only [ne_eq, mounted, not_false_eq_true, if_true] at initialized
  · have skipped : (config.settingsFile && config.fileSystemLittlefs) = false := by
      simpa using littlefs
    rw [if_neg (fun taken => littlefs ⟨taken.1, taken.2.1⟩)]
    simp only [bacnetStorageInit, skipped, Bool.false_eq_true, if_false, startSettings_medium]

/-- Every key reads the same from the two stores. -/
def ReadsSame (platform : StoragePlatform) (backend : SettingsBackend)
    (before after : backend.Store) : Prop :=
  ∀ key data, bacnetStorageGet platform backend after key data =
    bacnetStorageGet platform backend before key data

theorem readsSame_empty_iff (settings : PersistentSettings)
    (loads : ∀ store name, settings.backend.loadResult store name = 0)
    (store : settings.backend.Store) :
    ReadsSame platform settings.backend store settings.empty ↔
      ¬HoldsValue platform settings.backend store := by
  have emptyGet : ∀ key data, bacnetStorageGet platform settings.backend settings.empty key data =
      (-Errno.enoent, data) := by
    intro key data
    apply bacnetStorageGet_of_not_holds (loads settings.empty)
    intro entry mem takes
    exact not_holdsValue_empty settings ⟨key, entry, mem, takes⟩
  constructor
  · rintro same ⟨key, taken⟩
    have found := bacnetStorageGet_of_holds (loads store) taken []
    rw [← same, emptyGet] at found
    exact absurd found (by decide)
  · intro nothing key data
    rw [emptyGet, bacnetStorageGet_of_not_holds (loads store)]
    intro entry mem takes
    exact nothing ⟨key, entry, mem, takes⟩

/--
After a reboot and a successful initialization every key reads as before, exactly when
the initialization does not unlink a settings file that holds a value for some key.
-/
theorem bacnetStorageInit_keeps_iff (platform : StoragePlatform) (settings : PersistentSettings)
    (loads : ∀ store name, settings.backend.loadResult store name = 0)
    (config : StorageInitConfig) (replies : StorageInitReplies)
    (medium : PersistentMedium settings)
    (initialized : (bacnetStorageInit config replies medium).1 = 0) :
    ReadsSame platform settings.backend (medium.store config)
        ((bacnetStorageInit config replies medium).2.store config) ↔
      ¬(config.settingsFile = true ∧ config.fileSystemLittlefs = true ∧ replies.unlink = 0 ∧
        HoldsValue platform settings.backend (medium.store config)) := by
  rw [bacnetStorageInit_store initialized]
  by_cases unlinks : config.settingsFile = true ∧ config.fileSystemLittlefs = true ∧
      replies.unlink = 0
  · rw [if_pos unlinks, readsSame_empty_iff settings loads]
    simp [unlinks]
  · rw [if_neg unlinks]
    constructor
    · rintro _ ⟨file, littlefs, unlinked, _⟩
      exact unlinks ⟨file, littlefs, unlinked⟩
    · intro _ key data
      rfl

/-- The reference backend, which starts without entries. -/
def PersistentSettings.reference : PersistentSettings where
  backend := SettingsBackend.reference
  empty := ⟨[], List.nodup_nil⟩
  lookup_empty := fun _ => rfl

/-- A store in which one key has been set. -/
def storeOfKey (platform : StoragePlatform) (key : BacnetStorageKey) (value : UInt8) :
    ReferenceStore :=
  (bacnetStorageSet platform SettingsBackend.reference ⟨[], List.nodup_nil⟩ key [value]).2

theorem bacnetStorageInit_keeps_iff_nvs :
    ReadsSame (StoragePlatform.reference bacnetSettingsBaseName) SettingsBackend.reference
      (storeOfKey (StoragePlatform.reference bacnetSettingsBaseName) ⟨8, 1, 77, 0xFFFFFFFF⟩ 5)
      ((bacnetStorageInit ⟨false, true⟩ ⟨0, 0, 0, 0⟩
        (⟨storeOfKey (StoragePlatform.reference bacnetSettingsBaseName) ⟨8, 1, 77, 0xFFFFFFFF⟩ 5,
          none⟩ : PersistentMedium .reference)).2.store ⟨false, true⟩) := by
  apply (bacnetStorageInit_keeps_iff (StoragePlatform.reference bacnetSettingsBaseName) .reference
    (fun _ _ => rfl) ⟨false, true⟩ ⟨0, 0, 0, 0⟩ ⟨storeOfKey _ _ 5, none⟩ rfl).mpr
  rintro ⟨file, _⟩
  exact absurd file (by decide)

/-- A settings file on LittleFS is unlinked, and with it the value of the key. -/
theorem bacnetStorageInit_loses_file :
    ¬∀ (config : StorageInitConfig) (replies : StorageInitReplies)
        (medium : PersistentMedium .reference),
      (bacnetStorageInit config replies medium).1 = 0 →
        ReadsSame (StoragePlatform.reference bacnetSettingsBaseName) SettingsBackend.reference
          (medium.store config) ((bacnetStorageInit config replies medium).2.store config) := by
  intro keeps
  let platform := StoragePlatform.reference bacnetSettingsBaseName
  let key : BacnetStorageKey := ⟨8, 1, 77, 0xFFFFFFFF⟩
  have same := keeps ⟨true, true⟩ ⟨0, 0, 0, 0⟩
    ⟨⟨[], List.nodup_nil⟩, some (storeOfKey platform key 5)⟩ rfl
  have lost : ReadsSame platform SettingsBackend.reference (storeOfKey platform key 5)
      PersistentSettings.reference.empty := same
  apply (readsSame_empty_iff .reference (fun _ _ => rfl) _).mp lost
  have set : (bacnetStorageSet platform SettingsBackend.reference ⟨[], List.nodup_nil⟩ key [5]) =
      SettingsBackend.reference.saveOne ⟨[], List.nodup_nil⟩ (storedName platform key) [5] := by
    simp only [bacnetStorageSet, storedName, bacnetStorageKeyEncode_eq, snprintf]
    rw [if_neg (by omega)]
  refine ⟨key, (storedName platform key, [5]), ?_, ?_⟩
  · apply (SettingsBackend.reference.mem_subtree _ _ _ _).mpr
    refine ⟨?_, AtOrBelow.refl _ _⟩
    rw [storeOfKey, set]
    exact SettingsBackend.reference.saveOne_saved _ _ _ (by simp) rfl
  · simp [GetTakes, remainder_self, platform.names.nameNext_null]

end BacnetZephyr
