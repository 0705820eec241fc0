import BacnetZephyr.Storage.Access
import Mathlib.Data.Set.Insert

/-!
# Names at the end of the buffer

Set, get and delete render the name of their key into a buffer of 64 characters.
For a longer name `snprintf` returns its whole length and cuts it off; the three
callers test for a negative result only, so the settings subsystem is asked for the
cut name, which other keys may share.

`keysApart_iff` says that a set of keys is kept apart exactly when the buffer holds
the name of each of them.
-/

namespace BacnetZephyr

open CLib NamedStore

section CompleteNames

variable (platform : StoragePlatform) (key : BacnetStorageKey)

/-- A set saves under the complete name of the key, or fails without a call. -/
def SetsCompleteName : Prop :=
  (∀ (backend : SettingsBackend) (store : backend.Store) (data : List UInt8),
    bacnetStorageSet platform backend store key data =
      backend.saveOne store (keyName platform.baseName key) data) ∨
  ∃ rc < 0, ∀ (backend : SettingsBackend) (store : backend.Store) (data : List UInt8),
    bacnetStorageSet platform backend store key data = (rc, store)

/-- A get loads the complete name of the key, or fails without a call. -/
def GetsCompleteName : Prop :=
  (∀ (backend : SettingsBackend) (store : backend.Store) (data : List UInt8),
    bacnetStorageGet platform backend store key data =
      loadImmediateValue platform backend store (keyName platform.baseName key) data) ∨
  ∃ rc < 0, ∀ (backend : SettingsBackend) (store : backend.Store) (data : List UInt8),
    bacnetStorageGet platform backend store key data = (rc, data)

/-- A delete passes on the complete name of the key, or fails without a call. -/
def DeletesCompleteName : Prop :=
  (∀ (backend : SettingsBackend) (store : backend.Store),
    bacnetStorageDelete platform backend store key =
      backend.delete store (keyName platform.baseName key)) ∨
  ∃ rc < 0, ∀ (backend : SettingsBackend) (store : backend.Store),
    bacnetStorageDelete platform backend store key = (rc, store)

end CompleteNames

/-- The store after a call, whether the call succeeds or not. -/
def StorageOp.run (platform : StoragePlatform) (backend : SettingsBackend)
    (store : backend.Store) : StorageOp → backend.Store
  | .set key data => (bacnetStorageSet platform backend store key data).2
  | .delete key => (bacnetStorageDelete platform backend store key).2
  | .get _ _ => store

/--
The calls on the keys pass complete names. In every store that calls on the keys
produce, a call through one of them changes nothing of what is got through another.
-/
structure KeysApart (platform : StoragePlatform) (keys : Set BacnetStorageKey) : Prop where
  sets : ∀ key ∈ keys, SetsCompleteName platform key
  gets : ∀ key ∈ keys, GetsCompleteName platform key
  deletes : ∀ key ∈ keys, DeletesCompleteName platform key
  isolated : ∀ (backend : SettingsBackend) (first : backend.Store) (ops : List StorageOp),
    (∀ name value, backend.lookup first name = some value →
      ¬AtOrBelow settingsNameSeparator platform.baseName name) →
    (∀ op ∈ ops, op.key ∈ keys) →
    ∀ (op : StorageOp) (key : BacnetStorageKey) (data : List UInt8),
      let last := ops.foldl (StorageOp.run platform backend) first
      let next := op.run platform backend last
      let name := (bacnetStorageKeyEncode platform (settingsMaxNameLen + 1) key).2
      op.key ∈ keys → key ∈ keys → op.key ≠ key →
      backend.loadResult last name = 0 → backend.loadResult next name = 0 →
      bacnetStorageGet platform backend next key data =
        bacnetStorageGet platform backend last key data

/-! ## Names that fit -/

section Fits

variable {platform : StoragePlatform} {backend : SettingsBackend}

/-- The entries of the keys, as a map from keys to byte strings. -/
def heldContents (platform : StoragePlatform) (backend : SettingsBackend)
    (store : backend.Store) (key : BacnetStorageKey) : Option (List UInt8) :=
  backend.lookup store (keyName platform.baseName key)

/-- A call changes no entry but the one of its key. -/
theorem StorageOp.run_other {op : StorageOp} (fits : NameFits platform op.key)
    (store : backend.Store) {name : CString} (different : name ≠ keyName platform.baseName op.key) :
    backend.lookup (op.run platform backend store) name = backend.lookup store name := by
  cases op with
  | set key data =>
      change NameFits platform key at fits
      simp only [StorageOp.run, bacnetStorageSet_eq fits]
      exact backend.saveOne_other store _ data name different
  | delete key =>
      change NameFits platform key at fits
      simp only [StorageOp.run, bacnetStorageDelete_eq fits]
      exact backend.delete_other store _ name different
  | get key data => rfl

theorem storeInvariant_run {op : StorageOp} (fits : NameFits platform op.key)
    {store : backend.Store}
    (invariant : StoreInvariant platform backend store (heldContents platform backend store)) :
    StoreInvariant platform backend (op.run platform backend store)
      (heldContents platform backend (op.run platform backend store)) where
  represents := fun _ => rfl
  onlyKeys := invariant.onlyKeys_of_change fun _ different => op.run_other fits store different

theorem storeInvariant_foldl {ops : List StorageOp} (fits : ∀ op ∈ ops, NameFits platform op.key)
    {store : backend.Store}
    (invariant : StoreInvariant platform backend store (heldContents platform backend store)) :
    StoreInvariant platform backend (ops.foldl (StorageOp.run platform backend) store)
      (heldContents platform backend (ops.foldl (StorageOp.run platform backend) store)) := by
  induction ops generalizing store with
  | nil => exact invariant
  | cons op ops ih =>
      simp only [List.forall_mem_cons] at fits
      exact ih fits.2 (storeInvariant_run fits.1 invariant)

/-- What a get returns depends on the entry of its key only. -/
theorem bacnetStorageGet_congr {key : BacnetStorageKey} (fits : NameFits platform key)
    {store store' : backend.Store}
    (invariant : StoreInvariant platform backend store (heldContents platform backend store))
    (invariant' : StoreInvariant platform backend store' (heldContents platform backend store'))
    (loads : backend.loadResult store (keyName platform.baseName key) = 0)
    (loads' : backend.loadResult store' (keyName platform.baseName key) = 0)
    (same : heldContents platform backend store' key = heldContents platform backend store key)
    (data : List UInt8) :
    bacnetStorageGet platform backend store' key data =
      bacnetStorageGet platform backend store key data := by
  simp only [bacnetStorageGet_eq fits, loadImmediateValue, settingsLoadSubtreeDirect, loads, loads',
    invariant.visitEntries_eq, invariant'.visitEntries_eq, same]

theorem keysApart_of_fits {keys : Set BacnetStorageKey}
    (fits : ∀ key ∈ keys, NameFits platform key) : KeysApart platform keys where
  sets := fun key mem => Or.inl fun _ store data => bacnetStorageSet_eq (fits key mem) store data
  gets := fun key mem => Or.inl fun _ store data => bacnetStorageGet_eq (fits key mem) store data
  deletes := fun key mem => Or.inl fun _ store => bacnetStorageDelete_eq (fits key mem) store
  isolated := by
    intro backend first ops empty within op key data last next name opMem keyMem different
      loads loads'
    have named : name = keyName platform.baseName key := by
      simp only [name, bacnetStorageKeyEncode_of_fits (fits key keyMem)]
    rw [named] at loads loads'
    have initial : StoreInvariant platform backend first (heldContents platform backend first) :=
      { represents := fun _ => rfl
        onlyKeys := (storeInvariant_empty empty).onlyKeys }
    have invariant := storeInvariant_foldl (fun op mem => fits _ (within op mem)) initial
    have untouched : heldContents platform backend next key =
        heldContents platform backend last key := by
      apply op.run_other (fits _ opMem)
      exact (keyName_injective _).ne different.symm
    exact bacnetStorageGet_congr (fits key keyMem) invariant
      (storeInvariant_run (fits _ opMem) invariant) loads loads' untouched data

end Fits

/-! ## Names that are cut off -/

/-- A set that does not fail for want of room saves under the name as far as it fits. -/
theorem bacnetStorageSet_cut (platform : StoragePlatform) (backend : SettingsBackend)
    (store : backend.Store) (key : BacnetStorageKey) (data : List UInt8) :
    bacnetStorageSet platform backend store key data =
      backend.saveOne store ((keyName platform.baseName key).take settingsMaxNameLen) data := by
  simp only [bacnetStorageSet, bacnetStorageKeyEncode_eq, snprintf, Nat.add_sub_cancel]
  rw [if_neg (by omega)]

theorem nameFits_of_setsCompleteName {platform : StoragePlatform} {key : BacnetStorageKey}
    (complete : SetsCompleteName platform key) : NameFits platform key := by
  let store : SettingsBackend.reference.Store := ⟨[], by simp⟩
  rcases complete with passed | ⟨rc, negative, refused⟩
  · -- the entry saved is found under the complete name only if the name was not cut
    by_contra long
    have cut : keyName platform.baseName key ≠
        (keyName platform.baseName key).take settingsMaxNameLen := by
      intro equal
      have length := congrArg List.length equal
      rw [List.length_take] at length
      exact long (by rw [NameFits]; omega)
    have saved := passed SettingsBackend.reference store [1]
    rw [bacnetStorageSet_cut] at saved
    have found := SettingsBackend.reference.saveOne_saved store (keyName platform.baseName key)
      [1] (by decide) rfl
    rw [← saved, SettingsBackend.reference.saveOne_other _ _ _ _ cut] at found
    simp [SettingsBackend.reference, ReferenceStore.lookup, store] at found
  · have returned := refused SettingsBackend.reference store [1]
    rw [bacnetStorageSet_cut] at returned
    have zero : (0 : ℤ) = rc := congrArg Prod.fst returned
    omega

/--
The calls on a set of keys keep to complete names, and the keys do not disturb one
another, exactly when the name buffer holds the name of every key of the set.
-/
theorem keysApart_iff (platform : StoragePlatform) (keys : Set BacnetStorageKey) :
    KeysApart platform keys ↔ ∀ key ∈ keys, NameFits platform key := by
  constructor
  · intro apart key mem
    exact nameFits_of_setsCompleteName (apart.sets key mem)
  · exact keysApart_of_fits

/-- With a base name of 59 characters, two instances of a type share an entry. -/
theorem not_keysApart_long :
    ¬KeysApart (StoragePlatform.reference (List.replicate 59 'b'))
      {bacnetStorageKeyInit 8 200 111 bacnetStorageArrayIndexNone,
        bacnetStorageKeyInit 8 201 111 bacnetStorageArrayIndexNone} := by
  intro apart
  have got := apart.isolated SettingsBackend.reference ⟨[], by simp⟩ []
    (by simp [SettingsBackend.reference, ReferenceStore.lookup]) (by simp)
    (.set (bacnetStorageKeyInit 8 200 111 bacnetStorageArrayIndexNone) [1])
    (bacnetStorageKeyInit 8 201 111 bacnetStorageArrayIndexNone) [0] (by simp [StorageOp.key])
    (by simp) (by decide) rfl rfl
  revert got
  decide

end BacnetZephyr
