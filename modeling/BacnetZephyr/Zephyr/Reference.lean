import BacnetZephyr.Zephyr.Settings

/-!
# A settings subsystem that meets the assumptions

The documented behaviour assumed of the settings subsystem is satisfiable: names
are taken apart by comparing prefixes, and the persistent entries are an
association list without repeated names. Results about concrete runs are stated
for this instance.
-/

namespace BacnetZephyr

open CLib NamedStore

/-- `settings_name_next` on lists of characters. -/
def settingsNameNext : Option CString → ℕ × Option CString
  | none => (0, none)
  | some name =>
      ((name.takeWhile inComponent).length, afterSeparator (name.dropWhile inComponent))

/-- `settings_name_steq` on lists of characters, for keys without the end character. -/
def settingsNameSteq : Option CString → CString → Bool × Option CString
  | none, _ => (false, none)
  | some name, key =>
      if AtOrBelow settingsNameSeparator key name then (true, remainder key name)
      else (decide (AtOrBelow settingsNameEnd key name), none)

/-- The name routines as functions on lists of characters. -/
def SettingsNames.reference : SettingsNames where
  nameNext := settingsNameNext
  nameSteq := settingsNameSteq
  nameNext_null := rfl
  nameNext_name := fun _ => rfl
  nameSteq_null := fun _ => rfl
  nameSteq_self := by
    intro key _
    simp [settingsNameSteq, AtOrBelow.refl]
  nameSteq_below := by
    intro key rest _
    simp [settingsNameSteq, atOrBelow_append]
  nameSteq_end := by
    intro key rest noEnd
    have notBelow : ¬AtOrBelow settingsNameSeparator key (key ++ settingsNameEnd :: rest) := by
      rw [atOrBelow_iff]
      simp [show settingsNameEnd ≠ settingsNameSeparator by decide]
    simp [settingsNameSteq, notBelow, atOrBelow_append]
  nameSteq_other := by
    intro name key notBelow notEnd
    simp [settingsNameSteq, notBelow, notEnd]

abbrev ReferenceStore := { entries : List (CString × List UInt8) // (entries.map Prod.fst).Nodup }

namespace ReferenceStore

def lookup (store : ReferenceStore) (name : CString) : Option (List UInt8) :=
  (store.val.find? fun entry => entry.1 = name).map Prod.snd

def erase (store : ReferenceStore) (name : CString) : ReferenceStore :=
  ⟨store.val.filter fun entry => entry.1 ≠ name,
    store.property.sublist (List.filter_sublist.map Prod.fst)⟩

def insert (store : ReferenceStore) (name : CString) (value : List UInt8) : ReferenceStore :=
  ⟨(name, value) :: (store.erase name).val, by
    rw [List.map_cons, List.nodup_cons]
    refine ⟨?_, (store.erase name).property⟩
    simp [erase]⟩

theorem mem_iff_lookup (store : ReferenceStore) (name : CString) (value : List UInt8) :
    (name, value) ∈ store.val ↔ store.lookup name = some value := by
  constructor
  · intro mem
    have shown := filter_name_of_mem store.property mem
    rw [lookup, ← List.head?_filter, shown]
    rfl
  · intro found
    simp only [lookup, Option.map_eq_some_iff] at found
    rcases found with ⟨entry, found, rfl⟩
    have := List.find?_some found
    simp only [decide_eq_true_eq] at this
    subst name
    exact List.mem_of_find?_eq_some found

@[simp]
theorem lookup_insert_self (store : ReferenceStore) (name : CString) (value : List UInt8) :
    (store.insert name value).lookup name = some value := by
  simp [lookup, insert]

theorem lookup_erase_other (store : ReferenceStore) {name other : CString} (ne : other ≠ name) :
    (store.erase name).lookup other = store.lookup other := by
  simp only [lookup, erase, List.find?_filter]
  congr 2
  funext entry
  by_cases same : entry.1 = other
  · simp [same, ne]
  · simp [same]

theorem lookup_insert_other (store : ReferenceStore) {name other : CString} (ne : other ≠ name)
    (value : List UInt8) : (store.insert name value).lookup other = store.lookup other := by
  rw [← store.lookup_erase_other ne]
  simp [lookup, insert, ne.symm]

@[simp]
theorem lookup_erase_self (store : ReferenceStore) (name : CString) :
    (store.erase name).lookup name = none := by
  simp [lookup, erase]

end ReferenceStore

/-- A backend whose operations all succeed; an empty value deletes the entry. -/
def SettingsBackend.reference : SettingsBackend where
  Store := ReferenceStore
  lookup := ReferenceStore.lookup
  saveOne := fun store name value =>
    (0, if value = [] then store.erase name else store.insert name value)
  delete := fun store name => (0, store.erase name)
  subtree := fun store root =>
    store.val.filter fun entry => AtOrBelow settingsNameSeparator root entry.1
  loadResult := fun _ _ => 0
  saveOne_saved := by
    intro store name value nonempty _
    simp [nonempty]
  saveOne_other := by
    intro store name value other ne
    by_cases empty : value = []
    · simp [empty, store.lookup_erase_other ne]
    · simp [empty, store.lookup_insert_other ne]
  delete_deleted := by
    intro store name _
    simp
  delete_other := by
    intro store name other ne
    exact store.lookup_erase_other ne
  subtree_nodup := by
    intro store root
    exact store.property.sublist (List.filter_sublist.map Prod.fst)
  mem_subtree := by
    intro store root name value
    simp [store.mem_iff_lookup]

end BacnetZephyr
