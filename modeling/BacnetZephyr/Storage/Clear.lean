import BacnetZephyr.Storage.Key

/-!
# Clearing the stored values

`bacnet_storage_clear` loads the subtree of the base name and deletes each entry it
is shown, whose full name it puts together again from the base name and the rest of
the name. It goes on after a failed deletion and returns the error of the first one.

`bacnetStorageClear_eq` is the refinement: the call is the deletions of the names
at or below the base name, one after the other.
-/

namespace BacnetZephyr

open CLib NamedStore

structure BacnetStorageClearCtx where
  subtree : CString
  status : Int
deriving DecidableEq

/-- The name the callback puts together: the value of `snprintf` and the buffer. -/
def clearPath (subtree : CString) : Option CString → Int × CString
  | none => snprintf (settingsMaxNameLen + 1) subtree
  | some key => snprintf (settingsMaxNameLen + 1) (subtree ++ settingsNameSeparator :: key)

section Operations

variable (backend : SettingsBackend)

/-- The load acts on the store too: the callback deletes the entries it visits. -/
def bacnetStorageClearCb : SettingsLoadDirectCb (BacnetStorageClearCtx × backend.Store) :=
  fun key _ (ctx, store) =>
    let (rc, path) := clearPath ctx.subtree key
    if rc < 0 ∨ settingsMaxNameLen + 1 ≤ rc.toNat then (-Errno.enametoolong, ctx, store)
    else
      let (rc, store) := backend.delete store path
      if rc ≠ 0 ∧ ctx.status = 0 then (0, { ctx with status := rc }, store)
      else (0, ctx, store)

def bacnetStorageClear (platform : StoragePlatform) (store : backend.Store) :
    Int × backend.Store :=
  let ctx : BacnetStorageClearCtx := { subtree := platform.baseName, status := 0 }
  let (rc, ctx, store) := settingsLoadSubtreeDirect backend store platform.baseName
    (bacnetStorageClearCb backend) (ctx, store)
  if rc ≠ 0 then (rc, store) else (ctx.status, store)

end Operations

/-! ## Deleting a list of names -/

/-- The deletions of the names in order, each with its result, and the store they leave. -/
def deleteNames (backend : SettingsBackend) :
    backend.Store → List CString → List (CString × Int) × backend.Store
  | store, [] => ([], store)
  | store, name :: rest =>
      let (rc, store) := backend.delete store name
      let (results, store) := deleteNames backend store rest
      ((name, rc) :: results, store)

/-- The error of the first deletion that failed, zero if there is none. -/
def firstError : List (CString × Int) → Int
  | [] => 0
  | (_, rc) :: rest => if rc ≠ 0 then rc else firstError rest

variable {backend : SettingsBackend}

theorem map_fst_deleteNames (store : backend.Store) (names : List CString) :
    (deleteNames backend store names).1.map Prod.fst = names := by
  induction names generalizing store with
  | nil => rfl
  | cons name rest ih => simp [deleteNames, ih]

theorem lookup_deleteNames_of_notMem {store : backend.Store} {names : List CString}
    {name : CString} (notMem : name ∉ names) :
    backend.lookup (deleteNames backend store names).2 name = backend.lookup store name := by
  induction names generalizing store with
  | nil => rfl
  | cons other rest ih =>
      simp only [List.mem_cons, not_or] at notMem
      simp only [deleteNames]
      rw [ih notMem.2]
      exact backend.delete_other store other name notMem.1

/-- A name deleted without error is gone, and later deletions do not bring it back. -/
theorem lookup_deleteNames_of_deleted {store : backend.Store} {names : List CString}
    (nodup : names.Nodup) {name : CString}
    (deleted : (name, 0) ∈ (deleteNames backend store names).1) :
    backend.lookup (deleteNames backend store names).2 name = none := by
  induction names generalizing store with
  | nil => simp [deleteNames] at deleted
  | cons other rest ih =>
      rcases List.nodup_cons.mp nodup with ⟨notMem, nodup⟩
      simp only [deleteNames, List.mem_cons, Prod.mk.injEq] at deleted ⊢
      rcases deleted with ⟨rfl, succeeded⟩ | deleted
      · rw [lookup_deleteNames_of_notMem notMem]
        exact backend.delete_deleted store name succeeded.symm
      · exact ih nodup deleted

/-! ## The refinement -/

theorem clearPath_remainder {root name : CString}
    (below : AtOrBelow settingsNameSeparator root name) (short : name.length ≤ settingsMaxNameLen) :
    clearPath root (remainder root name) = ((name.length : Int), name) := by
  rcases atOrBelow_iff.mp below with rfl | ⟨rest, rfl⟩
  · rw [remainder_self, clearPath, snprintf_of_fits (by omega)]
  · rw [remainder_append, clearPath, snprintf_of_fits (by omega)]

theorem bacnetStorageClearCb_of_below {root name : CString}
    (below : AtOrBelow settingsNameSeparator root name) (short : name.length ≤ settingsMaxNameLen)
    (readCb : SettingsReadCb) (status : Int) (store : backend.Store) :
    bacnetStorageClearCb backend (remainder root name) readCb (⟨root, status⟩, store) =
      (0, ⟨root, if status = 0 then (backend.delete store name).1 else status⟩,
        (backend.delete store name).2) := by
  simp only [bacnetStorageClearCb, clearPath_remainder below short]
  rw [if_neg (by omega)]
  by_cases failed : (backend.delete store name).1 = 0
  · by_cases first : status = 0 <;> simp [failed, first]
  · by_cases first : status = 0 <;> simp [failed, first]

/-- Visiting names at or below the root deletes them in order. -/
theorem visitEntries_bacnetStorageClearCb {root : CString} {status : Int} {store : backend.Store}
    {entries : List (CString × List UInt8)}
    (below : ∀ entry ∈ entries, AtOrBelow settingsNameSeparator root entry.1)
    (short : ∀ entry ∈ entries, entry.1.length ≤ settingsMaxNameLen) :
    visitEntries root (bacnetStorageClearCb backend) entries (⟨root, status⟩, store) =
      (⟨root, if status = 0 then
          firstError (deleteNames backend store (entries.map Prod.fst)).1 else status⟩,
        (deleteNames backend store (entries.map Prod.fst)).2) := by
  induction entries generalizing status store with
  | nil => simp [visitEntries, deleteNames, firstError]
  | cons entry rest ih =>
      rcases entry with ⟨name, value⟩
      have called := bacnetStorageClearCb_of_below (below (name, value) List.mem_cons_self)
        (short (name, value) List.mem_cons_self) (settingsReadCb value) status store
      simp only [visitEntries, called, ne_eq, not_true_eq_false, if_false]
      rw [ih (fun entry mem => below entry (List.mem_cons_of_mem _ mem))
        (fun entry mem => short entry (List.mem_cons_of_mem _ mem))]
      simp only [List.map_cons, deleteNames, firstError]
      by_cases first : status = 0
      · simp [first]
      · simp [first]

theorem firstError_eq_zero_iff (deletions : List (CString × Int)) :
    firstError deletions = 0 ↔ ∀ deletion ∈ deletions, deletion.2 = 0 := by
  induction deletions with
  | nil => simp [firstError]
  | cons deletion rest ih =>
      by_cases failed : deletion.2 = 0
      · simp [firstError, failed, ih]
      · simp [firstError, failed]

/-- The names of the store that the load visits, in the order it visits them. -/
def clearedNames (backend : SettingsBackend) (platform : StoragePlatform) (store : backend.Store) :
    List CString :=
  (backend.subtree store platform.baseName).map Prod.fst

variable {platform : StoragePlatform} {store : backend.Store}

theorem mem_clearedNames (name : CString) :
    name ∈ clearedNames backend platform store ↔
      AtOrBelow settingsNameSeparator platform.baseName name ∧
        ∃ value, backend.lookup store name = some value := by
  simp only [clearedNames, List.mem_map, Prod.exists, exists_and_right, exists_eq_right]
  simp only [backend.mem_subtree]
  constructor
  · rintro ⟨value, held, below⟩
    exact ⟨below, value, held⟩
  · rintro ⟨below, value, held⟩
    exact ⟨value, held, below⟩

theorem bacnetStorageClear_eq
    (short : ∀ name value, backend.lookup store name = some value →
      name.length ≤ settingsMaxNameLen)
    (loads : backend.loadResult store platform.baseName = 0) :
    bacnetStorageClear backend platform store =
      (firstError (deleteNames backend store (clearedNames backend platform store)).1,
        (deleteNames backend store (clearedNames backend platform store)).2) := by
  have below : ∀ entry ∈ backend.subtree store platform.baseName,
      AtOrBelow settingsNameSeparator platform.baseName entry.1 := by
    rintro ⟨name, value⟩ mem
    exact ((backend.mem_subtree store _ name value).mp mem).2
  have short' : ∀ entry ∈ backend.subtree store platform.baseName,
      entry.1.length ≤ settingsMaxNameLen := by
    rintro ⟨name, value⟩ mem
    exact short name value ((backend.mem_subtree store _ name value).mp mem).1
  simp only [bacnetStorageClear, settingsLoadSubtreeDirect, loads, ne_eq, not_true_eq_false,
    if_false, visitEntries_bacnetStorageClearCb below short', if_true, clearedNames]

/--
The entries at or below the base name are deleted once each, those deleted without
error are gone, no other entry changes, and the result is the error of the first
deletion that failed.
-/
structure NamespaceCleared (backend : SettingsBackend) (platform : StoragePlatform)
    (store : backend.Store) (deletions : List (CString × Int))
    (outcome : Int × backend.Store) : Prop where
  once : (deletions.map Prod.fst).Nodup
  entries : ∀ name, name ∈ deletions.map Prod.fst ↔
    AtOrBelow settingsNameSeparator platform.baseName name ∧
      ∃ value, backend.lookup store name = some value
  made : outcome.2 = (deleteNames backend store (deletions.map Prod.fst)).2 ∧
    deletions = (deleteNames backend store (deletions.map Prod.fst)).1
  gone : ∀ name, (name, 0) ∈ deletions → backend.lookup outcome.2 name = none
  foreign : ∀ name, ¬AtOrBelow settingsNameSeparator platform.baseName name →
    backend.lookup outcome.2 name = backend.lookup store name
  result : outcome.1 = firstError deletions
  succeeds : outcome.1 = 0 ↔ ∀ deletion ∈ deletions, deletion.2 = 0

theorem bacnetStorageClear_namespace (backend : SettingsBackend) (platform : StoragePlatform)
    (store : backend.Store)
    (short : ∀ name value, backend.lookup store name = some value →
      name.length ≤ settingsMaxNameLen)
    (loads : backend.loadResult store platform.baseName = 0) :
    ∃ deletions, NamespaceCleared backend platform store deletions
      (bacnetStorageClear backend platform store) := by
  let names := clearedNames backend platform store
  have nodup : names.Nodup := backend.subtree_nodup store platform.baseName
  have listed := map_fst_deleteNames store names
  refine ⟨(deleteNames backend store names).1, ?_⟩
  rw [bacnetStorageClear_eq short loads]
  refine ⟨?_, ?_, ?_, ?_, ?_, rfl, firstError_eq_zero_iff _⟩
  · rw [listed]
    exact nodup
  · rw [listed]
    exact mem_clearedNames
  · rw [listed]
    exact ⟨rfl, rfl⟩
  · intro name deleted
    exact lookup_deleteNames_of_deleted nodup deleted
  · intro name foreign
    apply lookup_deleteNames_of_notMem
    intro mem
    exact foreign ((mem_clearedNames name).mp mem).1

/-- A store with the base name, an entry below it and one that shares its first characters. -/
def neighbourStore : ReferenceStore :=
  ⟨[(".bacnet".toList, [1]), (".bacnet2/x".toList, [2]), (".bacnet/1/2/3".toList, [3])], by decide⟩

theorem bacnetStorageClear_namespace_neighbour :
    ∃ deletions, NamespaceCleared SettingsBackend.reference
      (StoragePlatform.reference bacnetSettingsBaseName) neighbourStore deletions
      (bacnetStorageClear SettingsBackend.reference
        (StoragePlatform.reference bacnetSettingsBaseName) neighbourStore) := by
  apply bacnetStorageClear_namespace
  · intro name value held
    have mem := (ReferenceStore.mem_iff_lookup neighbourStore name value).mpr held
    simp only [neighbourStore, List.mem_cons, Prod.mk.injEq, List.not_mem_nil, or_false] at mem
    rcases mem with ⟨rfl, _⟩ | ⟨rfl, _⟩ | ⟨rfl, _⟩ <;> decide
  · rfl

end BacnetZephyr
