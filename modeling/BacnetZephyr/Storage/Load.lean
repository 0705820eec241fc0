import BacnetZephyr.Storage.Access

/-!
# Loading stored entries

The load path of the BACnet storage: `bacnet_storage_load` asks for the subtree of
the registered handler's own name, and `bacnet_storage_handler_set` decodes the
path of each entry and hands its value to the installed restore callback.

The names written by the storage start with the configured base name, the load
starts from the handler's fixed name. `presentedOnce_iff` says that the two meet
exactly when the names are equal.
-/

namespace BacnetZephyr

open CLib NamedStore

/-- `bacnet_storage_handler.name`. -/
def bacnetStorageHandlerName : CString := "bacnet".toList

abbrev bacnetStorageValueSizeMax : ℕ := settingsMaxValLen

/--
What restoring an entry does: the value returned and the requests passed to the
restore function, unless memory outside the data buffer is read.
-/
inductive RestoreOutcome (Request : Type) where
  | outOfBounds
  | returned (rc : Int) (requests : List Request)
deriving DecidableEq

/-- `bacnet_storage_restore_callback`, with its context. -/
abbrev BacnetStorageRestoreCallback (Request : Type) :=
  BacnetStorageKey → List UInt8 → ℕ → RestoreOutcome Request

section Handler

variable (platform : StoragePlatform) {Request : Type}

def bacnetStorageRestore (callback : Option (BacnetStorageRestoreCallback Request))
    (key : BacnetStorageKey) (data : List UInt8) (dataSize : ℕ) : RestoreOutcome Request :=
  match callback with
  | none => .returned 0 []
  | some callback => callback key data dataSize

def bacnetStorageHandlerSet (callback : Option (BacnetStorageRestoreCallback Request))
    (path : Option CString) (dataLen : ℕ) (readCb : SettingsReadCb) : RestoreOutcome Request :=
  let (err, key) := bacnetStorageKeyDecode platform path (bacnetStorageKeyInit 0 0 0 0)
  if err = 0 then
    if dataLen = 0 then .returned 0 []
    else
      let zeros := List.replicate bacnetStorageValueSizeMax 0
      let (rc, bytes) := readCb bacnetStorageValueSizeMax
      let data := bytes ++ zeros.drop bytes.length
      if rc < 0 then
        if rc = -Errno.enoent then .returned 0 [] else .returned rc []
      else bacnetStorageRestore callback key data dataLen
  else .returned (-Errno.einval) []

end Handler

/-- `bacnet_storage_load`: the value returned and the calls of the handler. -/
def bacnetStorageLoad (backend : SettingsBackend) (store : backend.Store) :
    Int × List SettingsPresentation :=
  (backend.loadResult store bacnetStorageHandlerName,
    settingsLoadSubtree backend store bacnetStorageHandlerName bacnetStorageHandlerName)

/-! ## Which entries a load presents -/

/-- A load presents an entry of its subtree once, with the rest of its name. -/
theorem filter_settingsLoadSubtree (backend : SettingsBackend) (store : backend.Store)
    {handler name : CString} {value : List UInt8} (held : backend.lookup store name = some value)
    (below : AtOrBelow settingsNameSeparator handler name) :
    (settingsLoadSubtree backend store handler handler).filter
        (fun presentation => presentation.name = name) =
      [{ name, path := remainder handler name, value }] := by
  have visited := (backend.mem_subtree store handler name value).mpr ⟨held, below⟩
  have shown := filter_name_of_mem (backend.subtree_nodup store handler) visited
  have entryFilter : (backend.subtree store handler).filter
      (fun entry => decide (entry.1 = name) &&
        decide (AtOrBelow settingsNameSeparator handler entry.1)) = [(name, value)] := by
    rw [← shown]
    apply List.filter_congr
    intro entry _
    by_cases same : entry.1 = name
    · simp [same, below]
    · simp [same]
  rw [settingsLoadSubtree, List.filter_map, List.filter_filter]
  simpa [Function.comp_def] using entryFilter

/-- A load presents only entries at or below the handler's name. -/
theorem filter_settingsLoadSubtree_eq_nil (backend : SettingsBackend) (store : backend.Store)
    {handler name : CString} (foreign : ¬AtOrBelow settingsNameSeparator handler name) :
    (settingsLoadSubtree backend store handler handler).filter
        (fun presentation => presentation.name = name) = [] := by
  rw [List.filter_eq_nil_iff]
  intro presentation mem
  simp only [settingsLoadSubtree, List.mem_map, List.mem_filter, decide_eq_true_eq] at mem
  rcases mem with ⟨entry, ⟨_, below⟩, rfl⟩
  simp only [decide_eq_true_eq]
  rintro rfl
  exact foreign below

/-- The name written for a key starts with the base name, cut off at the end of the buffer. -/
theorem atOrBelow_encoded {platform : StoragePlatform}
    (single : settingsNameSeparator ∉ platform.baseName) (key : BacnetStorageKey)
    {handler : CString} (noSeparator : settingsNameSeparator ∉ handler)
    (fits : handler.length < settingsMaxNameLen)
    (below : AtOrBelow settingsNameSeparator handler
      (bacnetStorageKeyEncode platform (settingsMaxNameLen + 1) key).2) :
    platform.baseName = handler := by
  simp only [bacnetStorageKeyEncode_eq, snprintf, Nat.add_sub_cancel, keyName] at below
  by_cases room : platform.baseName.length < settingsMaxNameLen
  · obtain ⟨rest, equal⟩ : ∃ rest, settingsMaxNameLen - platform.baseName.length = rest + 1 :=
      ⟨settingsMaxNameLen - platform.baseName.length - 1, by omega⟩
    rw [List.take_append, List.take_of_length_le (by omega), equal, List.take_succ_cons] at below
    exact eq_of_atOrBelow_component noSeparator single below
  · -- the whole buffer is filled by the base name, which has no separator
    exfalso
    rw [List.take_append_of_le_length (by omega)] at below
    rcases atOrBelow_iff.mp below with equal | ⟨rest, equal⟩
    · have := congrArg List.length equal
      rw [List.length_take] at this
      omega
    · apply single
      apply List.mem_of_mem_take (i := settingsMaxNameLen)
      rw [equal]
      simp

/--
The load presents the entry of the key to the handler exactly once, with the value
and with a path that decodes to the key.
-/
def PresentedOnce (platform : StoragePlatform) (backend : SettingsBackend) (store : backend.Store)
    (key : BacnetStorageKey) (value : List UInt8) : Prop :=
  let name := (bacnetStorageKeyEncode platform (settingsMaxNameLen + 1) key).2
  ∃ path,
    (bacnetStorageLoad backend store).2.filter (fun presentation => presentation.name = name) =
      [{ name, path, value }] ∧
    bacnetStorageKeyDecode platform path (bacnetStorageKeyInit 0 0 0 0) = (0, key)

/--
What was stored is found again by the storage's own load exactly when the configured
base name is the handler's name.
-/
theorem presentedOnce_iff {platform : StoragePlatform} {backend : SettingsBackend}
    (single : settingsNameSeparator ∉ platform.baseName)
    {store stored last : backend.Store} {key : BacnetStorageKey} {value : List UInt8}
    (short : key.Short) (nonempty : value ≠ [])
    (set : bacnetStorageSet platform backend store key value = (0, stored))
    (kept : backend.lookup last (bacnetStorageKeyEncode platform (settingsMaxNameLen + 1) key).2 =
      backend.lookup stored (bacnetStorageKeyEncode platform (settingsMaxNameLen + 1) key).2) :
    PresentedOnce platform backend last key value ↔
      platform.baseName = bacnetStorageHandlerName := by
  have noSeparator : settingsNameSeparator ∉ bacnetStorageHandlerName := by decide
  constructor
  · rintro ⟨path, shown, _⟩
    by_contra different
    have foreign : ¬AtOrBelow settingsNameSeparator bacnetStorageHandlerName
        (bacnetStorageKeyEncode platform (settingsMaxNameLen + 1) key).2 :=
      fun below => different (atOrBelow_encoded single key noSeparator (by decide) below)
    rw [bacnetStorageLoad, filter_settingsLoadSubtree_eq_nil backend last foreign] at shown
    simp at shown
  · intro base
    have room : platform.baseName.length ≤ 25 := by
      rw [base]
      decide
    have special : ∃ c ∈ platform.baseName, c.isDigit = false ∧ c ≠ settingsNameSeparator := by
      rw [base]
      exact ⟨'b', by decide, by decide, by decide⟩
    rw [bacnetStorageKeyEncode_of_short room] at kept
    rw [bacnetStorageSet_eq (nameFits_of_short room key)] at set
    have saved := backend.saveOne_saved store (keyName platform.baseName key) value nonempty
      (by rw [set])
    rw [set] at saved
    rw [saved] at kept
    have below : AtOrBelow settingsNameSeparator bacnetStorageHandlerName
        (keyName platform.baseName key) := by
      rw [← base]
      exact atOrBelow_keyName platform.baseName key
    refine ⟨some (keyPath key), ?_, ?_⟩
    · rw [bacnetStorageKeyEncode_of_short room, bacnetStorageLoad,
        filter_settingsLoadSubtree backend last kept below]
      simp [base, keyName]
    · exact bacnetStorageKeyDecode_keyPath platform short
        (stripBaseName_keyPath platform special key) _

/-- With the base name of the handler, a stored value is presented. -/
theorem presentedOnce_iff_handlerName :
    let platform := StoragePlatform.reference bacnetStorageHandlerName
    let backend := SettingsBackend.reference
    let key := bacnetStorageKeyInit 8 200 111 bacnetStorageArrayIndexNone
    let stored := (bacnetStorageSet platform backend ⟨[], by simp⟩ key [1, 2, 3, 4]).2
    PresentedOnce platform backend stored key [1, 2, 3, 4] ↔
      platform.baseName = bacnetStorageHandlerName :=
  presentedOnce_iff (by decide)
    ⟨by decide, by decide, Or.inl rfl⟩ (by decide) rfl rfl

/-- With the default base name, a stored value is not presented. -/
theorem not_presentedOnce_default :
    let platform := StoragePlatform.reference bacnetSettingsBaseName
    let backend := SettingsBackend.reference
    let key := bacnetStorageKeyInit 8 200 111 bacnetStorageArrayIndexNone
    let stored := (bacnetStorageSet platform backend ⟨[], by simp⟩ key [1, 2, 3, 4]).2
    ¬PresentedOnce platform backend stored key [1, 2, 3, 4] := by
  rintro platform backend key stored ⟨path, shown, _⟩
  have nothing : (bacnetStorageLoad backend stored).2 = [] := by decide
  rw [nothing] at shown
  simp at shown

end BacnetZephyr
