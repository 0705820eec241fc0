import BacnetZephyr.Storage.Key

/-!
# Setting, getting and deleting stored values

The three entry points of the BACnet storage over the settings backend, and the
proof that runs of them refine a map from keys to byte strings.

The refinement has two parts. Distinct keys have distinct names, so a save or a
delete changes the map at one key. A get loads the subtree of the key's name,
which also holds the entries of the same property with an array index; the direct
loader skips those because their remaining path starts with a digit. The
invariant carries, besides the represented map, that no other entries lie at or
below the base name.

A buffer smaller than the value is filled and reported as the whole value;
`getsWhole_iff` says so.
-/

namespace BacnetZephyr

open CLib NamedStore

section Operations

variable (platform : StoragePlatform) (backend : SettingsBackend)

def bacnetStorageSet (store : backend.Store) (key : BacnetStorageKey) (data : List UInt8) :
    Int × backend.Store :=
  let (rc, name) := bacnetStorageKeyEncode platform (settingsMaxNameLen + 1) key
  if rc < 0 then (rc, store)
  else backend.saveOne store name data

/-- `struct direct_immediate_value`; `value` is the caller's buffer. -/
structure DirectImmediateValue where
  valueSize : ℕ
  valueLen : ℕ
  value : List UInt8
  fetched : Bool
deriving DecidableEq

def directLoaderImmediateValue : SettingsLoadDirectCb DirectImmediateValue :=
  fun name readCb context =>
    let (nameLen, _) := platform.names.nameNext name
    -- only the exact match: descendants have a component left
    if nameLen = 0 then
      let (rc, bytes) := readCb context.valueSize
      let context := { context with value := bytes ++ context.value.drop bytes.length }
      if rc < 0 then (rc, context)
      else if rc.toNat ≤ context.valueSize then
        (0, { context with fetched := true, valueLen := rc.toNat })
      else (-Errno.einval, context)
    else (0, context)

/-- `load_immediate_value`: the value returned and the contents of the buffer. -/
def loadImmediateValue (store : backend.Store) (name : CString) (value : List UInt8) :
    Int × List UInt8 :=
  let context : DirectImmediateValue :=
    { fetched := false, valueSize := value.length, valueLen := 0, value }
  let (rc, context) :=
    settingsLoadSubtreeDirect backend store name (directLoaderImmediateValue platform) context
  if rc = 0 then
    if context.fetched then (context.valueLen, context.value)
    else (-Errno.enoent, context.value)
  else (rc, context.value)

/-- `bacnet_storage_get` into a buffer: the value returned and the contents of the buffer. -/
def bacnetStorageGet (store : backend.Store) (key : BacnetStorageKey) (data : List UInt8) :
    Int × List UInt8 :=
  let (rc, name) := bacnetStorageKeyEncode platform (settingsMaxNameLen + 1) key
  if rc < 0 then (rc, data)
  else loadImmediateValue platform backend store name data

def bacnetStorageDelete (store : backend.Store) (key : BacnetStorageKey) :
    Int × backend.Store :=
  let (rc, name) := bacnetStorageKeyEncode platform (settingsMaxNameLen + 1) key
  if rc < 0 then (rc, store)
  else backend.delete store name

end Operations

/-! ## Runs -/

inductive StorageOp where
  | set (key : BacnetStorageKey) (data : List UInt8)
  | delete (key : BacnetStorageKey)
  | get (key : BacnetStorageKey) (data : List UInt8)

def StorageOp.key : StorageOp → BacnetStorageKey
  | .set key _ | .delete key | .get key _ => key

/-- What a call does to the map from keys to byte strings. -/
def StorageOp.apply (contents : BacnetStorageKey → Option (List UInt8)) :
    StorageOp → BacnetStorageKey → Option (List UInt8)
  | .set key data => Function.update contents key (some data)
  | .delete key => Function.update contents key none
  | .get _ _ => contents

/-- The map after a sequence of calls, starting from the empty map. -/
def contentsAfter (ops : List StorageOp) : BacnetStorageKey → Option (List UInt8) :=
  ops.foldl StorageOp.apply fun _ => none

/-- One call whose backend calls succeed; values are not empty and not too long to store. -/
inductive StorageStep (platform : StoragePlatform) (backend : SettingsBackend) :
    backend.Store → StorageOp → backend.Store → Prop where
  | set {store store' : backend.Store} {key : BacnetStorageKey} {data : List UInt8}
      (nonempty : data ≠ []) (fits : data.length ≤ settingsMaxValLen)
      (succeeds : bacnetStorageSet platform backend store key data = (0, store')) :
      StorageStep platform backend store (.set key data) store'
  | delete {store store' : backend.Store} {key : BacnetStorageKey}
      (succeeds : bacnetStorageDelete platform backend store key = (0, store')) :
      StorageStep platform backend store (.delete key) store'
  | get {store : backend.Store} {key : BacnetStorageKey} {data : List UInt8}
      (succeeds : backend.loadResult store
        (bacnetStorageKeyEncode platform (settingsMaxNameLen + 1) key).2 = 0) :
      StorageStep platform backend store (.get key data) store

inductive StorageRun (platform : StoragePlatform) (backend : SettingsBackend) :
    backend.Store → List StorageOp → backend.Store → Prop where
  | nil (store : backend.Store) : StorageRun platform backend store [] store
  | snoc {first store last : backend.Store} {ops : List StorageOp} {op : StorageOp}
      (run : StorageRun platform backend first ops store)
      (step : StorageStep platform backend store op last) :
      StorageRun platform backend first (ops ++ [op]) last

/-! ## Loading past the descendants -/

/-- Entries on which the callback does nothing can be left out of a visit. -/
theorem visitEntries_filter {State : Type} {root : CString}
    {callback : SettingsLoadDirectCb State} (keep : CString × List UInt8 → Bool)
    {entries : List (CString × List UInt8)}
    (skipped : ∀ entry ∈ entries, keep entry = false → ∀ state,
      callback (remainder root entry.1) (settingsReadCb entry.2) state = (0, state))
    (state : State) :
    visitEntries root callback entries state =
      visitEntries root callback (entries.filter keep) state := by
  induction entries generalizing state with
  | nil => rfl
  | cons entry rest ih =>
      have ihRest := ih fun other mem => skipped other (by simp [mem])
      rcases entry with ⟨name, value⟩
      by_cases kept : keep (name, value) = true
      · rw [List.filter_cons_of_pos kept]
        simp only [visitEntries]
        split
        · rfl
        · exact ihRest _
      · have quiet := skipped (name, value) (by simp) (by simpa using kept) state
        rw [List.filter_cons_of_neg kept]
        simp only [visitEntries, quiet]
        exact ihRest state

/-- Below the name of a key lie only the names of the same property with an array index. -/
theorem keyPath_below {key other : BacnetStorageKey} {rest : CString}
    (below : keyPath other = keyPath key ++ settingsNameSeparator :: rest) :
    rest = Nat.toDigits 10 other.arrayIndex.toNat := by
  simp only [keyPath, List.append_assoc, List.cons_append] at below
  have first := append_separator_inj (separator_notMem_toDigits _)
    (separator_notMem_toDigits _) below
  have second := append_separator_inj (separator_notMem_toDigits _)
    (separator_notMem_toDigits _) first.2
  have last := second.2
  by_cases otherNone : other.arrayIndex = bacnetStorageArrayIndexNone
  · -- without an array index there is no further separator
    exfalso
    simp only [otherNone, if_true, List.append_nil] at last
    apply separator_notMem_toDigits other.propertyId.toNat
    rw [last]
    simp
  · by_cases keyNone : key.arrayIndex = bacnetStorageArrayIndexNone
    · simp only [otherNone, keyNone, if_true, if_false, List.nil_append] at last
      exact (append_separator_inj (separator_notMem_toDigits _)
        (separator_notMem_toDigits _) last).2.symm
    · exfalso
      simp only [otherNone, keyNone, if_false, List.cons_append] at last
      have third := append_separator_inj (separator_notMem_toDigits _)
        (separator_notMem_toDigits _) last
      apply separator_notMem_toDigits other.arrayIndex.toNat
      rw [third.2]
      simp

/-! ## The refinement -/

/-- The store represents the map, and holds nothing else at or below the base name. -/
structure StoreInvariant (platform : StoragePlatform) (backend : SettingsBackend)
    (store : backend.Store) (contents : BacnetStorageKey → Option (List UInt8)) : Prop where
  represents : Represents (backend.lookup store) (keyName platform.baseName) contents
  onlyKeys : ∀ name value, backend.lookup store name = some value →
    AtOrBelow settingsNameSeparator platform.baseName name →
    ∃ key, name = keyName platform.baseName key

section Refinement

variable {platform : StoragePlatform} {backend : SettingsBackend}
  {contents : BacnetStorageKey → Option (List UInt8)}

theorem bacnetStorageSet_eq {key : BacnetStorageKey} (fits : NameFits platform key)
    (store : backend.Store) (data : List UInt8) :
    bacnetStorageSet platform backend store key data =
      backend.saveOne store (keyName platform.baseName key) data := by
  simp only [bacnetStorageSet, bacnetStorageKeyEncode_of_fits fits]
  rw [if_neg (by omega)]

theorem bacnetStorageDelete_eq {key : BacnetStorageKey} (fits : NameFits platform key)
    (store : backend.Store) :
    bacnetStorageDelete platform backend store key =
      backend.delete store (keyName platform.baseName key) := by
  simp only [bacnetStorageDelete, bacnetStorageKeyEncode_of_fits fits]
  rw [if_neg (by omega)]

theorem bacnetStorageGet_eq {key : BacnetStorageKey} (fits : NameFits platform key)
    (store : backend.Store) (data : List UInt8) :
    bacnetStorageGet platform backend store key data =
      loadImmediateValue platform backend store (keyName platform.baseName key) data := by
  simp only [bacnetStorageGet, bacnetStorageKeyEncode_of_fits fits]
  rw [if_neg (by omega)]

theorem atOrBelow_keyName (baseName : CString) (key : BacnetStorageKey) :
    AtOrBelow settingsNameSeparator baseName (keyName baseName key) :=
  atOrBelow_append settingsNameSeparator baseName (keyPath key)

/-- A change of the entry of one key leaves only entries of keys. -/
theorem StoreInvariant.onlyKeys_of_change {store store' : backend.Store}
    (invariant : StoreInvariant platform backend store contents) {key : BacnetStorageKey}
    (others : ∀ name, name ≠ keyName platform.baseName key →
      backend.lookup store' name = backend.lookup store name)
    (name : CString) (value : List UInt8) (found : backend.lookup store' name = some value)
    (below : AtOrBelow settingsNameSeparator platform.baseName name) :
    ∃ key, name = keyName platform.baseName key := by
  by_cases same : name = keyName platform.baseName key
  · exact ⟨key, same⟩
  · rw [others name same] at found
    exact invariant.onlyKeys name value found below

/-- A successful set changes the map at its key. -/
theorem StoreInvariant.set {store store' : backend.Store}
    (invariant : StoreInvariant platform backend store contents) {key : BacnetStorageKey}
    (nameFits : NameFits platform key) {data : List UInt8} (nonempty : data ≠ [])
    (succeeds : bacnetStorageSet platform backend store key data = (0, store')) :
    StoreInvariant platform backend store' (Function.update contents key (some data)) := by
  rw [bacnetStorageSet_eq nameFits] at succeeds
  have others : ∀ name, name ≠ keyName platform.baseName key →
      backend.lookup store' name = backend.lookup store name := by
    intro name ne
    have := backend.saveOne_other store _ data name ne
    rwa [succeeds] at this
  have saved := backend.saveOne_saved store (keyName platform.baseName key) data nonempty
    (by rw [succeeds])
  rw [succeeds] at saved
  exact ⟨invariant.represents.put (keyName_injective _) saved others,
    invariant.onlyKeys_of_change others⟩

/-- Every successful call does to the store what it does to the map. -/
theorem StorageStep.invariant {store store' : backend.Store} {op : StorageOp}
    (nameFits : NameFits platform op.key)
    (invariant : StoreInvariant platform backend store contents)
    (step : StorageStep platform backend store op store') :
    StoreInvariant platform backend store' (op.apply contents) := by
  cases step with
  | set nonempty fits succeeds => exact invariant.set nameFits nonempty succeeds
  | @delete _ key succeeds =>
      change NameFits platform key at nameFits
      rw [bacnetStorageDelete_eq nameFits] at succeeds
      have others : ∀ name, name ≠ keyName platform.baseName key →
          backend.lookup store' name = backend.lookup store name := by
        intro name ne
        have := backend.delete_other store _ name ne
        rwa [succeeds] at this
      have deleted := backend.delete_deleted store (keyName platform.baseName key)
        (by rw [succeeds])
      rw [succeeds] at deleted
      exact ⟨invariant.represents.remove (keyName_injective _) deleted others,
        invariant.onlyKeys_of_change others⟩
  | get succeeds => exact invariant

theorem contentsAfter_snoc (ops : List StorageOp) (op : StorageOp) :
    contentsAfter (ops ++ [op]) = op.apply (contentsAfter ops) := by
  simp [contentsAfter]

/-- Runs of successful calls keep the store a representation of the map. -/
theorem StorageRun.invariant {first last : backend.Store} {ops : List StorageOp}
    (nameFits : ∀ op ∈ ops, NameFits platform op.key)
    (initial : StoreInvariant platform backend first fun _ => none)
    (run : StorageRun platform backend first ops last) :
    StoreInvariant platform backend last (contentsAfter ops) := by
  induction run with
  | nil => exact initial
  | snoc run step ih =>
      rw [contentsAfter_snoc]
      simp only [List.forall_mem_append, List.forall_mem_singleton] at nameFits
      exact step.invariant nameFits.2 (ih nameFits.1)

/-- Without entries at or below the base name, the store represents the empty map. -/
theorem storeInvariant_empty {store : backend.Store}
    (empty : ∀ name value, backend.lookup store name = some value →
      ¬AtOrBelow settingsNameSeparator platform.baseName name) :
    StoreInvariant platform backend store fun _ => none where
  represents := by
    intro key
    cases found : backend.lookup store (keyName platform.baseName key) with
    | none => rfl
    | some value => exact absurd (atOrBelow_keyName _ key) (empty _ value found)
  onlyKeys := fun name value found below => absurd below (empty name value found)

/-- The direct loader skips the entries below the name it loads. -/
theorem StoreInvariant.skips {store : backend.Store}
    (invariant : StoreInvariant platform backend store contents) (key : BacnetStorageKey)
    {entry : CString × List UInt8}
    (mem : entry ∈ backend.subtree store (keyName platform.baseName key))
    (different : entry.1 ≠ keyName platform.baseName key) (context : DirectImmediateValue) :
    directLoaderImmediateValue platform (remainder (keyName platform.baseName key) entry.1)
      (settingsReadCb entry.2) context = (0, context) := by
  rcases entry with ⟨name, value⟩
  have ⟨found, below⟩ := (backend.mem_subtree _ _ _ _).mp mem
  obtain ⟨other, rfl⟩ :=
    invariant.onlyKeys name value found ((atOrBelow_keyName _ key).trans below)
  rcases atOrBelow_iff.mp below with same | ⟨rest, equal⟩
  · exact absurd same different
  · have path : keyPath other = keyPath key ++ settingsNameSeparator :: rest := by
      simpa [keyName] using equal
    rcases keyPath_below path with rfl
    have notEmpty := @Nat.length_toDigits_pos 10 other.arrayIndex.toNat
    simp only [equal, remainder_append, directLoaderImmediateValue, nameNext_toDigits]
    rw [if_neg (by omega)]

/-- A load visits, of the entries that matter to it, the exact match only. -/
theorem StoreInvariant.visitEntries_eq {store : backend.Store}
    (invariant : StoreInvariant platform backend store contents) (key : BacnetStorageKey)
    (context : DirectImmediateValue) :
    visitEntries (keyName platform.baseName key) (directLoaderImmediateValue platform)
        (backend.subtree store (keyName platform.baseName key)) context =
      match contents key with
      | none => context
      | some value =>
          (directLoaderImmediateValue platform none (settingsReadCb value) context).2 := by
  rw [visitEntries_filter (fun entry => entry.1 = keyName platform.baseName key)
    (fun entry mem dropped => invariant.skips key mem (by simpa using dropped))]
  have represents := invariant.represents key
  cases held : contents key with
  | none =>
      rw [held] at represents
      rw [filter_name_of_notMem]
      · rfl
      · intro value mem
        have := ((backend.mem_subtree _ _ _ _).mp mem).1
        rw [represents] at this
        contradiction
  | some value =>
      rw [held] at represents
      rw [filter_name_of_mem (backend.subtree_nodup _ _)
        ((backend.mem_subtree _ _ _ _).mpr ⟨represents, AtOrBelow.refl _ _⟩)]
      simp only [visitEntries, remainder_self]
      split <;> rfl

/-- A get of a value fills the buffer with what fits of it. -/
theorem StoreInvariant.bacnetStorageGet_held {key : BacnetStorageKey}
    (nameFits : NameFits platform key) {store : backend.Store}
    (invariant : StoreInvariant platform backend store contents) (data : List UInt8)
    (loads : backend.loadResult store (keyName platform.baseName key) = 0)
    {value : List UInt8} (held : contents key = some value) :
    bacnetStorageGet platform backend store key data =
      (((value.take data.length).length : Int),
        value.take data.length ++ data.drop (value.take data.length).length) := by
  have nonneg : ¬((value.take data.length).length : Int) < 0 := by omega
  have fits : (value.take data.length).length ≤ data.length := List.length_take_le _ _
  rw [BacnetZephyr.bacnetStorageGet_eq nameFits]
  simp only [loadImmediateValue, settingsLoadSubtreeDirect, loads, if_true,
    invariant.visitEntries_eq, held, directLoaderImmediateValue, platform.names.nameNext_null,
    settingsReadCb, nonneg, if_false, Int.toNat_natCast, fits]

theorem StoreInvariant.bacnetStorageGet_absent {key : BacnetStorageKey}
    (nameFits : NameFits platform key) {store : backend.Store}
    (invariant : StoreInvariant platform backend store contents) (data : List UInt8)
    (loads : backend.loadResult store (keyName platform.baseName key) = 0)
    (absent : contents key = none) :
    bacnetStorageGet platform backend store key data = (-Errno.enoent, data) := by
  rw [BacnetZephyr.bacnetStorageGet_eq nameFits]
  simp [loadImmediateValue, settingsLoadSubtreeDirect, loads, invariant.visitEntries_eq, absent]

/-- The result of a load that fails is returned. -/
theorem bacnetStorageGet_failed {key : BacnetStorageKey} (nameFits : NameFits platform key)
    {store : backend.Store} (data : List UInt8)
    (fails : backend.loadResult store (keyName platform.baseName key) ≠ 0) :
    (bacnetStorageGet platform backend store key data).1 =
      backend.loadResult store (keyName platform.baseName key) := by
  rw [bacnetStorageGet_eq nameFits]
  simp [loadImmediateValue, settingsLoadSubtreeDirect, fails]

/-- A get returns what the map holds for the key. -/
theorem StoreInvariant.bacnetStorageGet_eq {key : BacnetStorageKey}
    (nameFits : NameFits platform key) {store : backend.Store}
    (invariant : StoreInvariant platform backend store contents) (data : List UInt8)
    (loads : backend.loadResult store (keyName platform.baseName key) = 0)
    (large : ∀ value, contents key = some value → value.length ≤ data.length) :
    bacnetStorageGet platform backend store key data =
      match contents key with
      | none => (-Errno.enoent, data)
      | some value => (value.length, value ++ data.drop value.length) := by
  cases held : contents key with
  | none => exact invariant.bacnetStorageGet_absent nameFits data loads held
  | some value =>
      have whole : value.take data.length = value := List.take_of_length_le (large value held)
      rw [invariant.bacnetStorageGet_held nameFits data loads held, whole]

theorem StorageOp.apply_other (op : StorageOp)
    (contents : BacnetStorageKey → Option (List UInt8)) {key : BacnetStorageKey}
    (different : op.key ≠ key) : op.apply contents key = contents key := by
  cases op with
  | set other data => exact Function.update_of_ne different.symm _ _
  | delete other => exact Function.update_of_ne different.symm _ _
  | get other data => rfl

/--
The storage behaves as a map from keys to byte strings: after every run of successful
calls a get returns the value last set and not deleted since, and a call on another
key changes nothing of that.
-/
theorem bacnetStorageGet_after_run (base : platform.baseName = bacnetSettingsBaseName)
    {first last : backend.Store} {ops : List StorageOp}
    (empty : ∀ name value, backend.lookup first name = some value →
      ¬AtOrBelow settingsNameSeparator platform.baseName name)
    (run : StorageRun platform backend first ops last)
    (key : BacnetStorageKey) (data : List UInt8)
    (loads : backend.loadResult last
      (bacnetStorageKeyEncode platform (settingsMaxNameLen + 1) key).2 = 0)
    (large : ∀ value, contentsAfter ops key = some value → value.length ≤ data.length) :
    (bacnetStorageGet platform backend last key data =
      match contentsAfter ops key with
      | none => (-Errno.enoent, data)
      | some value => (value.length, value ++ data.drop value.length)) ∧
    ∀ op last', op.key ≠ key → StorageStep platform backend last op last' →
      backend.loadResult last'
        (bacnetStorageKeyEncode platform (settingsMaxNameLen + 1) key).2 = 0 →
      bacnetStorageGet platform backend last' key data =
        bacnetStorageGet platform backend last key data := by
  have short : platform.baseName.length ≤ 25 := by
    rw [base]
    decide
  rw [bacnetStorageKeyEncode_of_short short] at loads ⊢
  have nameFits := nameFits_of_short short
  have invariant := run.invariant (fun op _ => nameFits op.key) (storeInvariant_empty empty)
  have got := invariant.bacnetStorageGet_eq (nameFits key) data loads large
  refine ⟨got, ?_⟩
  intro op last' different step loads'
  have unchanged := op.apply_other (contentsAfter ops) different
  rw [got, (step.invariant (nameFits op.key) invariant).bacnetStorageGet_eq (nameFits key) data
    loads' (by rwa [unchanged]), unchanged]

end Refinement

/-- The empty store of the concrete backend has no entries. -/
theorem not_atOrBelow_of_lookup_empty (platform : StoragePlatform) (name : CString)
    (value : List UInt8)
    (found : SettingsBackend.reference.lookup ⟨[], by simp⟩ name = some value) :
    ¬AtOrBelow settingsNameSeparator platform.baseName name := by
  simp [SettingsBackend.reference, ReferenceStore.lookup] at found

/-- A value set in the empty store is all that it holds. -/
theorem storeInvariant_reference {platform : StoragePlatform} {key : BacnetStorageKey}
    (nameFits : NameFits platform key) {value : List UInt8} (nonempty : value ≠ []) :
    StoreInvariant platform SettingsBackend.reference
      (bacnetStorageSet platform SettingsBackend.reference ⟨[], by simp⟩ key value).2
      (Function.update (fun _ => none) key (some value)) := by
  have succeeds : ∀ store : SettingsBackend.reference.Store,
      (bacnetStorageSet platform SettingsBackend.reference store key value).1 = 0 := by
    intro store
    rw [bacnetStorageSet_eq nameFits]
    rfl
  apply (storeInvariant_empty (not_atOrBelow_of_lookup_empty platform)).set nameFits nonempty
  exact Prod.ext (succeeds _) rfl

/-- An indexed entry does not disturb the entry of the whole property. -/
theorem bacnetStorageGet_after_run_indexed :
    let platform := StoragePlatform.reference bacnetSettingsBaseName
    let backend := SettingsBackend.reference
    let whole := bacnetStorageKeyInit 2 1001 87 bacnetStorageArrayIndexNone
    let indexed := bacnetStorageKeyInit 2 1001 87 3
    let store := (bacnetStorageSet platform backend ⟨[], by simp⟩ whole [7]).2
    let store' := (bacnetStorageSet platform backend store indexed [8, 9]).2
    bacnetStorageGet platform backend store' whole [0, 0] = (1, [7, 0]) := by
  intro platform backend whole indexed store store'
  have first : StorageStep platform backend ⟨[], by simp⟩ (.set whole [7]) store :=
    .set (by decide) (by decide) rfl
  have second : StorageStep platform backend store (.set indexed [8, 9]) store' :=
    .set (by decide) (by decide) rfl
  have held : contentsAfter ([] ++ [.set whole [7]] ++ [.set indexed [8, 9]]) whole = some [7] := by
    decide
  have got := (bacnetStorageGet_after_run rfl (not_atOrBelow_of_lookup_empty platform)
    (.snoc (.snoc (.nil _) first) second) whole [0, 0] rfl (by rw [held]; simp)).1
  rw [held] at got
  exact got

/-! ## Values that do not fit the buffer -/

/--
A get that does not fail returns the length of the value and has stored all of it, and a
get into a smaller buffer fails.
-/
structure GetsWhole (value data : List UInt8) (result : Int × List UInt8) : Prop where
  whole : 0 ≤ result.1 → result.1 = value.length ∧ result.2.take value.length = value
  refused : data.length < value.length → result.1 < 0

/--
In every store that represents a map, as all runs leave it, a value is got whole or
refused exactly when it fits the buffer or the load fails. The read callback has cut a
longer one, so the length compared with the size of the buffer never exceeds it.
-/
theorem getsWhole_iff {platform : StoragePlatform} {backend : SettingsBackend}
    {contents : BacnetStorageKey → Option (List UInt8)} {store : backend.Store}
    (invariant : StoreInvariant platform backend store contents) {key : BacnetStorageKey}
    (nameFits : NameFits platform key) {value : List UInt8} (held : contents key = some value)
    (data : List UInt8)
    (status : backend.loadResult store (keyName platform.baseName key) ≤ 0) :
    GetsWhole value data (bacnetStorageGet platform backend store key data) ↔
      value.length ≤ data.length ∨
        backend.loadResult store (keyName platform.baseName key) < 0 := by
  by_cases loads : backend.loadResult store (keyName platform.baseName key) = 0
  · rw [invariant.bacnetStorageGet_held nameFits data loads held]
    constructor
    · intro gets
      left
      rcases Nat.lt_or_ge data.length value.length with long | fits
      · have negative := gets.refused long
        exact absurd negative (by omega)
      · exact fits
    · rintro (fits | fails)
      · have whole : value.take data.length = value := List.take_of_length_le fits
        refine ⟨fun _ => ?_, fun long => absurd fits (by omega)⟩
        rw [whole]
        exact ⟨rfl, List.take_left⟩
      · exact absurd loads (by omega)
  · have negative : backend.loadResult store (keyName platform.baseName key) < 0 := by omega
    apply iff_of_true _ (Or.inr negative)
    have failed := bacnetStorageGet_failed nameFits data loads
    exact ⟨fun nonneg => absurd nonneg (by omega), fun _ => by omega⟩

/-- Four bytes in a buffer of eight. -/
theorem getsWhole_iff_eight :
    let platform := StoragePlatform.reference bacnetSettingsBaseName
    let backend := SettingsBackend.reference
    let key := bacnetStorageKeyInit 8 200 111 bacnetStorageArrayIndexNone
    let stored := (bacnetStorageSet platform backend ⟨[], by simp⟩ key [1, 2, 3, 4]).2
    GetsWhole [1, 2, 3, 4] (List.replicate 8 0)
        (bacnetStorageGet platform backend stored key (List.replicate 8 0)) ↔
      [1, 2, 3, 4].length ≤ (List.replicate 8 0).length ∨
        backend.loadResult stored (keyName platform.baseName key) < 0 := by
  intro platform backend key stored
  have nameFits : NameFits platform key := nameFits_of_short (by decide) key
  have invariant : StoreInvariant platform backend stored
      (Function.update (fun _ => none) key (some [1, 2, 3, 4])) :=
    storeInvariant_reference nameFits (List.cons_ne_nil _ _)
  exact getsWhole_iff invariant nameFits (Function.update_self _ _ _) _ (Int.le_refl 0)

/-- Four bytes in a buffer of two: two are returned as if they were all. -/
theorem not_getsWhole_two :
    let platform := StoragePlatform.reference bacnetSettingsBaseName
    let backend := SettingsBackend.reference
    let key := bacnetStorageKeyInit 8 200 111 bacnetStorageArrayIndexNone
    let stored := (bacnetStorageSet platform backend ⟨[], by simp⟩ key [1, 2, 3, 4]).2
    bacnetStorageGet platform backend stored key [0, 0] = (2, [1, 2]) ∧
      ¬GetsWhole [1, 2, 3, 4] [0, 0]
        (bacnetStorageGet platform backend stored key [0, 0]) := by
  intro platform backend key stored
  have got : bacnetStorageGet platform backend stored key [0, 0] = (2, [1, 2]) := by decide
  refine ⟨got, ?_⟩
  rw [got]
  intro gets
  have negative : (2 : Int) < 0 := gets.refused (by decide)
  exact absurd negative (by decide)

end BacnetZephyr
