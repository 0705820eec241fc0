import BacnetZephyr.Foundation.CString
import BacnetZephyr.Foundation.NamedStore

/-!
# The Zephyr settings subsystem

The settings subsystem is not part of the repository. It enters the development
as two parameters that carry, as fields, the documented behaviour the storage
code relies on: `SettingsNames` for the routines that take names apart, and
`SettingsBackend` for the persistent entries.

Nothing is assumed about an entry whose own operation fails, nor about the order
in which a load visits the entries.
-/

namespace BacnetZephyr

open CLib NamedStore

abbrev settingsNameSeparator : Char := '/'

/-- `SETTINGS_NAME_END`: a name read from flash may end here. -/
abbrev settingsNameEnd : Char := '='

abbrev settingsMaxDirDepth : ℕ := 8

abbrev settingsMaxNameLen : ℕ := 64

abbrev settingsMaxValLen : ℕ := 256

/-- The character does not end a component of a name. -/
def inComponent (character : Char) : Bool :=
  character ≠ settingsNameSeparator ∧ character ≠ settingsNameEnd

/-- The text after the separator, when the text starts with one. -/
def afterSeparator : CString → Option CString
  | '/' :: rest => some rest
  | _ => none

/-- Names are taken apart as documented; `none` stands for a null pointer. -/
structure SettingsNames where
  /-- `settings_name_next(name, &next)`: the length returned and `next`. -/
  nameNext : Option CString → ℕ × Option CString
  /-- `settings_name_steq(name, key, &next)`: whether it returns 1, and `next`. -/
  nameSteq : Option CString → CString → Bool × Option CString
  nameNext_null : nameNext none = (0, none)
  /-- The length of the first component, and the text after its separator. -/
  nameNext_name : ∀ name, nameNext (some name) =
    ((name.takeWhile inComponent).length, afterSeparator (name.dropWhile inComponent))
  nameSteq_null : ∀ key, nameSteq none key = (false, none)
  /-- A name matches itself, and there is no text after it. -/
  nameSteq_self : ∀ key, settingsNameEnd ∉ key → nameSteq (some key) key = (true, none)
  /-- A name matches its leading components, and `next` is the rest of the name. -/
  nameSteq_below : ∀ key rest, settingsNameEnd ∉ key →
    nameSteq (some (key ++ settingsNameSeparator :: rest)) key = (true, some rest)
  /-- A name read from flash may end at the end character. -/
  nameSteq_end : ∀ key rest, settingsNameEnd ∉ key →
    nameSteq (some (key ++ settingsNameEnd :: rest)) key = (true, none)
  /-- A name whose leading components differ from the key does not match it. -/
  nameSteq_other : ∀ name key, ¬AtOrBelow settingsNameSeparator key name →
    ¬AtOrBelow settingsNameEnd key name → nameSteq (some name) key = (false, none)

/--
The persistent entries: a map from full names to values, changed by saving and
deleting, and listed by loading a subtree.
-/
structure SettingsBackend where
  Store : Type
  lookup : Store → CString → Option (List UInt8)
  /-- `settings_save_one(name, value, val_len)`. -/
  saveOne : Store → CString → List UInt8 → Int × Store
  /-- `settings_delete(name)`. -/
  delete : Store → CString → Int × Store
  /-- The entries a load of a subtree visits, by full name. -/
  subtree : Store → CString → List (CString × List UInt8)
  /-- What a load of a subtree returns. -/
  loadResult : Store → CString → Int
  saveOne_saved : ∀ store name value, value ≠ [] → (saveOne store name value).1 = 0 →
    lookup (saveOne store name value).2 name = some value
  saveOne_other : ∀ store name value other, other ≠ name →
    lookup (saveOne store name value).2 other = lookup store other
  delete_deleted : ∀ store name, (delete store name).1 = 0 →
    lookup (delete store name).2 name = none
  delete_other : ∀ store name other, other ≠ name →
    lookup (delete store name).2 other = lookup store other
  subtree_nodup : ∀ store root, ((subtree store root).map Prod.fst).Nodup
  /-- A load visits exactly the entries at or below its root. -/
  mem_subtree : ∀ store root name value, (name, value) ∈ subtree store root ↔
    lookup store name = some value ∧ AtOrBelow settingsNameSeparator root name

/-- A `settings_read_cb`: the value returned for a buffer size, and the bytes stored. -/
abbrev SettingsReadCb := ℕ → Int × List UInt8

/-- The read callback of an entry copies what fits and returns the number of bytes copied. -/
def settingsReadCb (value : List UInt8) : SettingsReadCb :=
  fun size => ((value.take size).length, value.take size)

/-! ## Loading -/

/-- A `settings_load_direct_cb` acting on the state it is given as parameter. -/
abbrev SettingsLoadDirectCb (State : Type) :=
  Option CString → SettingsReadCb → State → Int × State

/-- Visit entries one after the other until a callback returns non-zero. -/
def visitEntries {State : Type} (root : CString) (callback : SettingsLoadDirectCb State) :
    List (CString × List UInt8) → State → State
  | [], state => state
  | (name, value) :: rest, state =>
      let (result, state) := callback (remainder root name) (settingsReadCb value) state
      if result ≠ 0 then state else visitEntries root callback rest state

/-- `settings_load_subtree_direct(subtree, cb, param)`. -/
def settingsLoadSubtreeDirect (backend : SettingsBackend) {State : Type} (store : backend.Store)
    (subtree : CString) (callback : SettingsLoadDirectCb State) (state : State) : Int × State :=
  (backend.loadResult store subtree,
    visitEntries subtree callback (backend.subtree store subtree) state)

/-- One call of a handler's `h_set` during a load. -/
structure SettingsPresentation where
  name : CString
  /-- The path the handler receives: the name without the handler's own name. -/
  path : Option CString
  value : List UInt8
deriving DecidableEq

/--
`settings_load_subtree(subtree)` with one registered handler: the entries of the
subtree that lead to the handler, each with the remainder of its name.
-/
def settingsLoadSubtree (backend : SettingsBackend) (store : backend.Store) (handler : CString)
    (subtree : CString) : List SettingsPresentation :=
  ((backend.subtree store subtree).filter fun entry =>
      AtOrBelow settingsNameSeparator handler entry.1).map fun entry =>
    { name := entry.1, path := remainder handler entry.1, value := entry.2 }

/-! ## The routines on names made of plain components -/

namespace SettingsNames

variable (names : SettingsNames)

theorem nameNext_component {component : CString} (plain : ∀ c ∈ component, inComponent c) :
    names.nameNext (some component) = (component.length, none) := by
  rw [names.nameNext_name, List.takeWhile_eq_self_iff.mpr plain,
    List.dropWhile_eq_nil_iff.mpr plain]
  rfl

theorem nameNext_append {component : CString} (plain : ∀ c ∈ component, inComponent c)
    (rest : CString) :
    names.nameNext (some (component ++ settingsNameSeparator :: rest)) =
      (component.length, some rest) := by
  have stop : inComponent settingsNameSeparator = false := by decide
  rw [names.nameNext_name, List.takeWhile_append_of_pos plain, List.dropWhile_append_of_pos plain,
    List.takeWhile_cons_of_neg (by simp [stop]), List.dropWhile_cons_of_neg (by simp [stop])]
  simp [afterSeparator]

end SettingsNames

theorem inComponent_of_isDigit {character : Char} (digit : character.isDigit) :
    inComponent character := by
  simp only [inComponent, decide_eq_true_eq]
  exact ⟨isDigit_ne digit (by decide), isDigit_ne digit (by decide)⟩

theorem inComponent_toDigits (number : ℕ) :
    ∀ character ∈ Nat.toDigits 10 number, inComponent character :=
  fun _ mem => inComponent_of_isDigit (isDigit_of_mem_toDigits mem)

end BacnetZephyr
