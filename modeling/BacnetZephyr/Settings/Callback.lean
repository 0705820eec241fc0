import BacnetZephyr.Foundation.Hex
import BacnetZephyr.Foundation.Transition
import BacnetZephyr.Settings.Restore

/-!
# The restore callback and the list commands

The storage has one callback for the entries of a load.
`bacnet_settings_write_property_restore` installs the restore handler there, and the
two list commands install a function that prints. Nobody puts the callback back, so
after a list command every load prints to the shell of that command.

`restoreKept_iff` says that the restore callback survives in exactly the runs without
a list command.
-/

namespace BacnetZephyr

open CLib Transition

/-- The functions installed with `bacnet_storage_load_callback_set`. -/
inductive StorageCallback where
  | restoreHandler
  /-- `print_storage_data` of the settings commands. -/
  | settingsPrint
  /-- `print_storage_data` of the storage commands. -/
  | storagePrint
deriving DecidableEq, Repr

/-- What becomes of an entry: a call of the restore function, or a line in the shell. -/
inductive Delivery (maxApdu : ℕ) (Function Context : Type) where
  | restored (function : Option Function) (context : Option Context)
      (wpData : BacnetWritePropertyData maxApdu)
  | printed (shell : Option Context) (line : CString)

def RestoreOutcome.map {Request Request' : Type} (f : Request → Request') :
    RestoreOutcome Request → RestoreOutcome Request'
  | .outOfBounds => .outOfBounds
  | .returned rc requests => .returned rc (requests.map f)

/--
The static variables `BACnet_Storage_Restore_Callback`, `BACnet_Storage_Restore_Context`
and `Restore_Callback`; `none` stands for a null pointer.
-/
structure RestoreCallbacks (Function Context : Type) where
  storageCallback : Option StorageCallback
  storageContext : Option Context
  restoreCallback : Option Function
deriving DecidableEq

/-- What a load needs besides the callbacks. -/
structure RestoreSetting (Function Context : Type) where
  platform : StoragePlatform
  lists : PropertyLists
  maxApdu : ℕ
  /-- What a restore function does with its context and a WriteProperty. -/
  run : Function → Option Context → BacnetSettingsRestoreCallback maxApdu

section Callbacks

variable {Function Context : Type} (setting : RestoreSetting Function Context)

/-- The restore handler with a restore function and its context. -/
def restoreDelivery (function : Option Function) (context : Option Context) :
    BacnetStorageRestoreCallback (Delivery setting.maxApdu Function Context) :=
  fun key data dataLen =>
    (bacnetStorageRestoreHandler setting.lists setting.maxApdu
      (function.map fun function => setting.run function context) key data dataLen).map
      (.restored function context)

/-- `print_storage_data`; 39 bytes fit its buffer. -/
def printStorageData (shell : Option Context) :
    BacnetStorageRestoreCallback (Delivery setting.maxApdu Function Context) :=
  fun key data dataLen =>
    let dataString := (hexText (data.take (min dataLen (80 / 2 - 1)))).map Char.toUpper
    let arrayIndex :=
      if key.arrayIndex = bacnetStorageArrayIndexNone then []
      else '/' :: unsignedText key.arrayIndex.toNat
    .returned 0 [.printed shell (setting.platform.baseName ++
      '/' :: (unsignedText key.objectType.toNat ++
        '/' :: (unsignedText key.objectInstance.toNat ++
          '/' :: (unsignedText key.propertyId.toNat ++ arrayIndex ++ '=' :: dataString))))]

/-- The call `bacnet_storage_restore` makes for an entry, if a callback is installed. -/
def RestoreCallbacks.installed (callbacks : RestoreCallbacks Function Context) :
    Option (BacnetStorageRestoreCallback (Delivery setting.maxApdu Function Context)) :=
  callbacks.storageCallback.map fun
    | .restoreHandler => restoreDelivery setting callbacks.restoreCallback callbacks.storageContext
    | .settingsPrint | .storagePrint => printStorageData setting callbacks.storageContext

/-- The entries of a load, one after the other. -/
def present (callback :
      Option (BacnetStorageRestoreCallback (Delivery setting.maxApdu Function Context)))
    (presentations : List SettingsPresentation) :
    List (RestoreOutcome (Delivery setting.maxApdu Function Context)) :=
  presentations.map fun presentation =>
    bacnetStorageHandlerSet setting.platform callback presentation.path presentation.value.length
      (settingsReadCb presentation.value)

def bacnetStorageLoadCallbackSet (restoreCb : StorageCallback) (context : Option Context)
    (callbacks : RestoreCallbacks Function Context) : Int × RestoreCallbacks Function Context :=
  (0, { callbacks with storageCallback := some restoreCb, storageContext := context })

/-- What an operation returns, leaves installed, and does with the entries it loads. -/
structure RestoreResult (setting : RestoreSetting Function Context) (Returned : Type) where
  returned : Returned
  callbacks : RestoreCallbacks Function Context
  outcomes : List (RestoreOutcome (Delivery setting.maxApdu Function Context))

variable {backend : SettingsBackend}

def bacnetSettingsWritePropertyRestore (store : backend.Store) (cb : Option Function)
    (context : Option Context) (callbacks : RestoreCallbacks Function Context) :
    RestoreResult setting Bool :=
  match cb with
  | none => { returned := false, callbacks, outcomes := [] }
  | some cb =>
      let callbacks := { callbacks with restoreCallback := some cb }
      let (err, callbacks) := bacnetStorageLoadCallbackSet .restoreHandler context callbacks
      if err ≠ 0 then { returned := false, callbacks, outcomes := [] }
      else
        let (err, presentations) := bacnetStorageLoad backend store
        let outcomes := present setting (callbacks.installed setting) presentations
        if err ≠ 0 then { returned := false, callbacks, outcomes }
        else { returned := true, callbacks, outcomes }

/-- The list command that prints with the callback. -/
def cmdListWith (callback : StorageCallback) (store : backend.Store) (sh : Context)
    (callbacks : RestoreCallbacks Function Context) : RestoreResult setting Int :=
  let (err, callbacks) := bacnetStorageLoadCallbackSet callback (some sh) callbacks
  if err ≠ 0 then { returned := -Errno.einval, callbacks, outcomes := [] }
  else
    let (err, presentations) := bacnetStorageLoad backend store
    let outcomes := present setting (callbacks.installed setting) presentations
    if err ≠ 0 then { returned := -Errno.einval, callbacks, outcomes }
    else { returned := 0, callbacks, outcomes }

/-- `cmd_list` of the settings commands. -/
def settingsCmdList (store : backend.Store) (sh : Context)
    (callbacks : RestoreCallbacks Function Context) : RestoreResult setting Int :=
  cmdListWith setting .settingsPrint store sh callbacks

/-- `cmd_list` of the storage commands. -/
def storageCmdList (store : backend.Store) (sh : Context)
    (callbacks : RestoreCallbacks Function Context) : RestoreResult setting Int :=
  cmdListWith setting .storagePrint store sh callbacks

end Callbacks

/-! ## Runs -/

/-- The operations; a load by other code presents the entries it finds. -/
inductive RestoreCall (Function Context : Type) (backend : SettingsBackend) where
  | writePropertyRestore (store : backend.Store) (cb : Option Function) (context : Option Context)
  | settingsList (store : backend.Store) (sh : Context)
  | storageList (store : backend.Store) (sh : Context)
  | load (presentations : List SettingsPresentation)

/-- The callbacks, and the function and context installed last for restoring. -/
structure RestoreSystem (Function Context : Type) where
  callbacks : RestoreCallbacks Function Context
  mostRecent : Option (Function × Option Context)

/-- Nothing is installed before the first operation. -/
def RestoreSystem.initial (Function Context : Type) : RestoreSystem Function Context where
  callbacks := { storageCallback := none, storageContext := none, restoreCallback := none }
  mostRecent := none

section Runs

variable {Function Context : Type} (setting : RestoreSetting Function Context)
  {backend : SettingsBackend}

def RestoreCall.after (system : RestoreSystem Function Context) :
    RestoreCall Function Context backend → RestoreSystem Function Context
  | writePropertyRestore store cb context =>
      { callbacks :=
          (bacnetSettingsWritePropertyRestore setting store cb context system.callbacks).callbacks
        mostRecent := (cb.map fun cb => (cb, context)).or system.mostRecent }
  | settingsList store sh =>
      { system with callbacks := (settingsCmdList setting store sh system.callbacks).callbacks }
  | storageList store sh =>
      { system with callbacks := (storageCmdList setting store sh system.callbacks).callbacks }
  | load _ => system

def RestoreStep (before : RestoreSystem Function Context)
    (call : RestoreCall Function Context backend) (after : RestoreSystem Function Context) : Prop :=
  after = call.after setting before

def RestoreCall.IsList : RestoreCall Function Context backend → Prop
  | settingsList _ _ | storageList _ _ => True
  | writePropertyRestore _ _ _ | load _ => False

/--
A load hands every entry to the function and the context installed last for restoring,
and a list command leaves the callbacks as it found them.
-/
structure RestoreKept
    (taken : Taken (RestoreSystem Function Context) (RestoreCall Function Context backend)) :
    Prop where
  delivered : ∀ presentations function context, taken.label = .load presentations →
    taken.before.mostRecent = some (function, context) →
    present setting (taken.before.callbacks.installed setting) presentations =
      present setting (some (restoreDelivery setting (some function) context)) presentations
  listed : taken.label.IsList → taken.after.callbacks = taken.before.callbacks

/-- The callbacks are those of the last installation for restoring. -/
def RestoreInstalled (system : RestoreSystem Function Context) : Prop :=
  system.callbacks =
    match system.mostRecent with
    | none => (RestoreSystem.initial Function Context).callbacks
    | some (function, context) =>
        { storageCallback := some .restoreHandler, storageContext := context
          restoreCallback := some function }

variable {setting}

theorem writePropertyRestore_callbacks (store : backend.Store) (cb : Function)
    (context : Option Context) (callbacks : RestoreCallbacks Function Context) :
    (bacnetSettingsWritePropertyRestore setting store (some cb) context callbacks).callbacks =
      { storageCallback := some .restoreHandler, storageContext := context
        restoreCallback := some cb } := by
  simp only [bacnetSettingsWritePropertyRestore, bacnetStorageLoadCallbackSet, ne_eq,
    not_true_eq_false, if_false, apply_ite RestoreResult.callbacks, ite_self]

theorem cmdListWith_callbacks (callback : StorageCallback) (store : backend.Store) (sh : Context)
    (callbacks : RestoreCallbacks Function Context) :
    (cmdListWith setting callback store sh callbacks).callbacks =
      { callbacks with storageCallback := some callback, storageContext := some sh } := by
  simp only [cmdListWith, bacnetStorageLoadCallbackSet, ne_eq, not_true_eq_false, if_false,
    apply_ite RestoreResult.callbacks, ite_self]

theorem RestoreInstalled.step {before after : RestoreSystem Function Context}
    {call : RestoreCall Function Context backend} (installed : RestoreInstalled before)
    (step : RestoreStep setting before call after)
    (kept : RestoreKept setting ⟨before, call, after⟩) : RestoreInstalled after := by
  subst step
  cases call with
  | writePropertyRestore store cb context =>
      cases cb with
      | none => exact installed
      | some cb =>
          exact writePropertyRestore_callbacks store cb context before.callbacks
  | settingsList store sh =>
      have same := kept.listed trivial
      rw [RestoreInstalled, same]
      exact installed
  | storageList store sh =>
      have same := kept.listed trivial
      rw [RestoreInstalled, same]
      exact installed
  | load presentations => exact installed

/-- A list command finds no printing callback, and leaves one. -/
theorem RestoreInstalled.cmdListWith_ne {system : RestoreSystem Function Context}
    (installed : RestoreInstalled system) {callback : StorageCallback}
    (prints : callback ≠ .restoreHandler) (store : backend.Store) (sh : Context) :
    (cmdListWith setting callback store sh system.callbacks).callbacks ≠ system.callbacks := by
  intro same
  rw [cmdListWith_callbacks] at same
  have slot := congrArg RestoreCallbacks.storageCallback same
  rw [RestoreInstalled] at installed
  cases recent : system.mostRecent with
  | none =>
      rw [recent] at installed
      rw [installed] at slot
      cases slot
  | some pair =>
      rw [recent] at installed
      rw [installed] at slot
      exact prints (Option.some.inj slot)

theorem RestoreInstalled.kept_iff {before after : RestoreSystem Function Context}
    {call : RestoreCall Function Context backend} (installed : RestoreInstalled before)
    (step : RestoreStep setting before call after) :
    RestoreKept setting ⟨before, call, after⟩ ↔ ¬call.IsList := by
  subst step
  constructor
  · intro kept list
    have same := kept.listed list
    cases call with
    | writePropertyRestore store cb context => exact list
    | settingsList store sh => exact installed.cmdListWith_ne (by decide) store sh same
    | storageList store sh => exact installed.cmdListWith_ne (by decide) store sh same
    | load presentations => exact list
  · intro noList
    refine ⟨?_, fun list => absurd list noList⟩
    intro presentations function context _ recent
    simp only at recent
    rw [RestoreInstalled, recent] at installed
    rw [installed]
    rfl

/-- An entry whose path decodes and whose value fits reaches the restore function. -/
theorem bacnetStorageHandlerSet_restoreDelivery {presentation : SettingsPresentation}
    {key : BacnetStorageKey}
    (decoded : bacnetStorageKeyDecode setting.platform presentation.path
      (bacnetStorageKeyInit 0 0 0 0) = (0, key))
    (nonempty : presentation.value ≠ [])
    (fits : presentation.value.length ≤ bacnetStorageValueSizeMax)
    (apdu : presentation.value.length ≤ setting.maxApdu) (function : Function)
    (context : Option Context) :
    ∃ rc, bacnetStorageHandlerSet setting.platform
        (some (restoreDelivery setting (some function) context)) presentation.path
        presentation.value.length (settingsReadCb presentation.value) =
      .returned rc [.restored (some function) context
        (restoredWriteProperty setting.lists key.objectType key.objectInstance key.propertyId
          key.arrayIndex presentation.value apdu)] := by
  rw [bacnetStorageHandlerSet_decoded nonempty decoded]
  have held : (presentation.value.take bacnetStorageValueSizeMax ++
      (List.replicate bacnetStorageValueSizeMax 0).drop
        (presentation.value.take bacnetStorageValueSizeMax).length).take
          presentation.value.length = presentation.value := by
    rw [List.take_of_length_le fits, List.take_left]
  simp only [bacnetStorageRestore, restoreDelivery, Option.map_some, bacnetStorageRestoreHandler,
    bacnetSettingsRestore_of_take nonempty apdu held]
  exact ⟨_, rfl⟩

/-- The print function prints an entry whose path decodes. -/
theorem bacnetStorageHandlerSet_printStorageData {presentation : SettingsPresentation}
    {key : BacnetStorageKey}
    (decoded : bacnetStorageKeyDecode setting.platform presentation.path
      (bacnetStorageKeyInit 0 0 0 0) = (0, key))
    (nonempty : presentation.value ≠ []) (shell : Option Context) :
    ∃ line, bacnetStorageHandlerSet setting.platform
        (some (@printStorageData Function Context setting shell)) presentation.path
        presentation.value.length (settingsReadCb presentation.value) =
      .returned 0 [.printed shell line] := by
  rw [bacnetStorageHandlerSet_decoded nonempty decoded]
  exact ⟨_, rfl⟩

variable (setting)

/--
In a run from the start, every load restores through what was installed last for
restoring and every list command leaves that alone, exactly when no list command is
among the operations.
-/
theorem restoreKept_iff {taken :
      List (Taken (RestoreSystem Function Context) (RestoreCall Function Context backend))}
    {last : RestoreSystem Function Context}
    (run : Run (RestoreStep setting) (.initial Function Context) taken last) :
    (∀ transition ∈ taken, RestoreKept setting transition) ↔
      ∀ transition ∈ taken, ¬transition.label.IsList := by
  have initially : RestoreInstalled (.initial Function Context) := rfl
  apply run.forall_iff initially
  · intro before call after installed step kept
    exact installed.step step kept
  · intro before call after installed step
    exact installed.kept_iff step

end Runs

section Reference

/-- One restore function that accepts everything, and contexts told apart by a number. -/
def RestoreSetting.reference : RestoreSetting Unit ℕ where
  platform := StoragePlatform.reference bacnetStorageHandlerName
  lists := PropertyLists.reference
  maxApdu := 1476
  run := fun _ _ _ => (true, .other)

/-- An entry below the name of the handler. -/
def storedEntry : SettingsPresentation where
  name := "bacnet/8/200/111".toList
  path := some "8/200/111".toList
  value := [1, 2, 3, 4]

/-- Installing and loading without a list command in between. -/
theorem restoreKept_iff_load :
    let setting := RestoreSetting.reference
    let backend := SettingsBackend.reference
    let store : backend.Store := ⟨[], by simp⟩
    let restore : RestoreCall Unit ℕ backend := .writePropertyRestore store (some ()) (some 1)
    let first := RestoreSystem.initial Unit ℕ
    let second := restore.after setting first
    let load : RestoreCall Unit ℕ backend := .load [storedEntry]
    let taken := [⟨first, restore, second⟩, ⟨second, load, second⟩]
    (∀ transition ∈ taken, RestoreKept setting transition) ↔
      ∀ transition ∈ taken, ¬transition.label.IsList :=
  restoreKept_iff RestoreSetting.reference (.next (.next .start rfl) rfl)

/-- After a list command, an entry of a load is printed instead of restored. -/
theorem not_restoreKept_list :
    let setting := RestoreSetting.reference
    let backend := SettingsBackend.reference
    let store : backend.Store := ⟨[], by simp⟩
    let restore : RestoreCall Unit ℕ backend := .writePropertyRestore store (some ()) (some 1)
    let list : RestoreCall Unit ℕ backend := .settingsList store 2
    let first := RestoreSystem.initial Unit ℕ
    let second := restore.after setting first
    let third := list.after setting second
    let load : RestoreCall Unit ℕ backend := .load [storedEntry]
    Run (RestoreStep setting) first
        [⟨first, restore, second⟩, ⟨second, list, third⟩, ⟨third, load, third⟩] third ∧
      ¬RestoreKept setting ⟨second, list, third⟩ ∧ ¬RestoreKept setting ⟨third, load, third⟩ := by
  refine ⟨.next (.next (.next .start rfl) rfl) rfl, ?_, ?_⟩
  · intro kept
    have same := kept.listed trivial
    revert same
    decide
  · intro kept
    have delivered := kept.delivered _ () (some 1) rfl rfl
    simp only [present, List.map_cons, List.map_nil, List.cons.injEq, and_true] at delivered
    obtain ⟨rc, restored⟩ := @bacnetStorageHandlerSet_restoreDelivery _ _ RestoreSetting.reference
      storedEntry (bacnetStorageKeyInit 8 200 111 bacnetStorageArrayIndexNone) (by decide)
      (by decide) (by decide) (by decide) () (some 1)
    obtain ⟨line, printed⟩ := @bacnetStorageHandlerSet_printStorageData Unit _
      RestoreSetting.reference storedEntry
      (bacnetStorageKeyInit 8 200 111 bacnetStorageArrayIndexNone) (by decide) (by decide) (some 2)
    have same := printed.symm.trans (delivered.trans restored)
    simp at same

end Reference

end BacnetZephyr
