import BacnetZephyr.Foundation.StringBuffer
import BacnetZephyr.Storage.Access

/-!
# String settings

`bacnet_settings_string_set` stores a C string with its terminator,
`bacnet_settings_string_get` copies what is stored into the buffer of the caller, or a
default with `strncpy`.

Neither copy adds a terminator of its own. The buffer holds a string after the getter
exactly when what is copied brings a terminator that fits: `getsString_iff`. What the
setter has stored does, and is read back.
-/

namespace BacnetZephyr

open CLib NamedStore

/-- `(int)strlen(text)`. -/
def intLength (text : ByteString) : Int := (Int32.ofNat text.val.length).toInt

section Definitions

variable (platform : StoragePlatform) (backend : SettingsBackend)

/-- `bacnet_settings_string_get`: the value returned, and the buffer after it. -/
def bacnetSettingsStringGet (store : backend.Store) (objectType : UInt16)
    (objectInstance propertyId arrayIndex : UInt32) (defaultValue : Option ByteString)
    (value : List UInt8) : Int × List UInt8 :=
  let key := bacnetStorageKeyInit objectType objectInstance propertyId arrayIndex
  let valueSize := value.length
  let (rc, value) := bacnetStorageGet platform backend store key value
  if rc ≤ 0 then
    match defaultValue with
    | some defaultValue => (intLength defaultValue, strncpy defaultValue valueSize)
    | none => (rc, value)
  else (rc, value)

def bacnetSettingsStringSet (store : backend.Store) (objectType : UInt16)
    (objectInstance propertyId arrayIndex : UInt32) (value : Option ByteString) :
    Bool × backend.Store :=
  match value with
  | none => (false, store)
  | some value =>
      let key := bacnetStorageKeyInit objectType objectInstance propertyId arrayIndex
      let (rc, store) := bacnetStorageSet platform backend store key (value.val ++ [0])
      (rc = 0, store)

/-- What a load of the key delivers: nothing when it fails. -/
def loaded (store : backend.Store) (contents : BacnetStorageKey → Option (List UInt8))
    (key : BacnetStorageKey) : Option (List UInt8) :=
  if backend.loadResult store (keyName platform.baseName key) = 0 then contents key else none

/-- The text is the stored one up to its terminator, or the default. -/
def ValidString (stored : Option (List UInt8)) (defaultValue : Option ByteString)
    (text : List UInt8) : Prop :=
  (∃ bytes, stored = some bytes ∧ text = untilTerminator bytes) ∨
    ∃ default, defaultValue = some default ∧ text = default.val

/-- The getter leaves a string in every buffer of the size unless it reports a failure. -/
def GetsTerminated (store : backend.Store) (stored : Option (List UInt8)) (key : BacnetStorageKey)
    (defaultValue : Option ByteString) (valueSize : ℕ) : Prop :=
  ∀ buffer : List UInt8, buffer.length = valueSize →
    let (rc, value) := bacnetSettingsStringGet platform backend store key.objectType
      key.objectInstance key.propertyId key.arrayIndex defaultValue buffer
    0 ≤ rc → rc ≤ valueSize ∧
      ∃ text, HoldsString value text ∧ ValidString stored defaultValue text

/-- Moreover, it gives back every string that the setter stores and that fits the buffer. -/
structure GetsString (store : backend.Store) (stored : Option (List UInt8))
    (key : BacnetStorageKey) (defaultValue : Option ByteString) (valueSize : ℕ) : Prop where
  terminated : GetsTerminated platform backend store stored key defaultValue valueSize
  roundTrip : ∀ (text : ByteString) (store' : backend.Store),
    bacnetSettingsStringSet platform backend store key.objectType key.objectInstance
      key.propertyId key.arrayIndex (some text) = (true, store') →
    backend.loadResult store' (keyName platform.baseName key) = 0 →
    text.val.length < valueSize → ∀ buffer : List UInt8, buffer.length = valueSize →
    HoldsString (bacnetSettingsStringGet platform backend store' key.objectType
      key.objectInstance key.propertyId key.arrayIndex defaultValue buffer).2 text.val

end Definitions

/-- The default is shorter than the buffer, or its length is reported as a failure. -/
def DefaultFits (default : ByteString) (valueSize : ℕ) : Prop :=
  default.val.length < valueSize ∨ intLength default < 0

/--
What the getter copies brings its terminator: a stored value within the buffer, and the
default wherever it is used. An empty value is not an error, so it needs a default.
-/
def CopiesTerminator (loaded : Option (List UInt8)) (defaultValue : Option ByteString)
    (valueSize : ℕ) : Prop :=
  match loaded with
  | none => ∀ default, defaultValue = some default → DefaultFits default valueSize
  | some [] => ∃ default, defaultValue = some default ∧ DefaultFits default valueSize
  | some bytes => 0 ∈ bytes.take valueSize

/-! ## The default -/

theorem intLength_le (text : ByteString) : intLength text ≤ text.val.length := by
  rw [intLength, Int32.toInt_ofNat', Int32.size, Int.bmod]
  split
  · omega
  · omega

/-- The default leaves a string exactly if it fits. -/
theorem strncpy_terminated_iff (default : ByteString) (valueSize : ℕ) (valid : List UInt8 → Prop)
    (given : valid default.val) :
    (0 ≤ intLength default → intLength default ≤ valueSize ∧
        ∃ text, HoldsString (strncpy default valueSize) text ∧ valid text) ↔
      DefaultFits default valueSize := by
  constructor
  · intro terminated
    by_cases negative : intLength default < 0
    · exact Or.inr negative
    · rcases terminated (Int.not_lt.mp negative) with ⟨_, text, held, _⟩
      exact Or.inl ((mem_strncpy_iff default valueSize).mp held.1)
  · rintro (fits | negative) nonneg
    · have reported := intLength_le default
      refine ⟨by omega, default.val, holdsString_strncpy fits, given⟩
    · exact absurd nonneg (Int.not_le.mpr negative)

/-! ## The getter -/

section Getter

variable {platform : StoragePlatform} {backend : SettingsBackend} {store : backend.Store}
  {contents : BacnetStorageKey → Option (List UInt8)} {key : BacnetStorageKey}

/-- A value that is not empty is copied as far as it fits. -/
theorem bacnetSettingsStringGet_of_loaded (nameFits : NameFits platform key)
    (invariant : StoreInvariant platform backend store contents) {bytes : List UInt8}
    (found : loaded platform backend store contents key = some bytes) (nonempty : bytes ≠ [])
    (defaultValue : Option ByteString) {buffer : List UInt8} (room : 0 < buffer.length) :
    bacnetSettingsStringGet platform backend store key.objectType key.objectInstance
        key.propertyId key.arrayIndex defaultValue buffer =
      (((bytes.take buffer.length).length : Int),
        bytes.take buffer.length ++ buffer.drop (bytes.take buffer.length).length) := by
  rw [loaded] at found
  split at found
  · rename_i loads
    have same : bacnetStorageKeyInit key.objectType key.objectInstance key.propertyId
        key.arrayIndex = key := rfl
    have got := invariant.bacnetStorageGet_held nameFits buffer loads found
    have positive := List.length_pos_iff.mpr nonempty
    have copied : 0 < (bytes.take buffer.length).length := by
      rw [List.length_take]
      omega
    simp only [bacnetSettingsStringGet, same, got]
    rw [if_neg (by omega)]
  · cases found

theorem bacnetStorageGet_of_loaded_none (nameFits : NameFits platform key)
    (invariant : StoreInvariant platform backend store contents)
    (status : backend.loadResult store (keyName platform.baseName key) ≤ 0)
    (nothing : loaded platform backend store contents key = none) (buffer : List UInt8) :
    (bacnetStorageGet platform backend store key buffer).1 < 0 := by
  by_cases loads : backend.loadResult store (keyName platform.baseName key) = 0
  · rw [loaded, if_pos loads] at nothing
    rw [invariant.bacnetStorageGet_absent nameFits buffer loads nothing]
    exact Int.neg_neg_of_pos (by decide)
  · rw [bacnetStorageGet_failed nameFits buffer loads]
    omega

/-- An empty value is got without an error, and copies nothing. -/
theorem bacnetStorageGet_of_loaded_nil (nameFits : NameFits platform key)
    (invariant : StoreInvariant platform backend store contents)
    (empty : loaded platform backend store contents key = some []) (buffer : List UInt8) :
    bacnetStorageGet platform backend store key buffer = (0, buffer) := by
  rw [loaded] at empty
  split at empty
  · rename_i loads
    rw [invariant.bacnetStorageGet_held nameFits buffer loads empty]
    simp
  · cases empty

theorem bacnetSettingsStringGet_of_nothing {buffer : List UInt8}
    (nothing : (bacnetStorageGet platform backend store key buffer).1 ≤ 0)
    (defaultValue : Option ByteString) :
    bacnetSettingsStringGet platform backend store key.objectType key.objectInstance
        key.propertyId key.arrayIndex defaultValue buffer =
      match defaultValue with
      | some default => (intLength default, strncpy default buffer.length)
      | none => bacnetStorageGet platform backend store key buffer := by
  have same : bacnetStorageKeyInit key.objectType key.objectInstance key.propertyId
      key.arrayIndex = key := rfl
  simp only [bacnetSettingsStringGet, same]
  rw [if_pos nothing]

/-- What the setter has stored comes back with its terminator. -/
theorem bacnetSettingsStringGet_after_set (nameFits : NameFits platform key)
    (invariant : StoreInvariant platform backend store contents) {text : ByteString}
    {store' : backend.Store}
    (set : bacnetSettingsStringSet platform backend store key.objectType key.objectInstance
      key.propertyId key.arrayIndex (some text) = (true, store'))
    (loads : backend.loadResult store' (keyName platform.baseName key) = 0)
    (defaultValue : Option ByteString) {buffer : List UInt8}
    (fits : text.val.length < buffer.length) :
    HoldsString (bacnetSettingsStringGet platform backend store' key.objectType
      key.objectInstance key.propertyId key.arrayIndex defaultValue buffer).2 text.val := by
  have same : bacnetStorageKeyInit key.objectType key.objectInstance key.propertyId
      key.arrayIndex = key := rfl
  simp only [bacnetSettingsStringSet, same, Prod.mk.injEq, decide_eq_true_eq] at set
  have nonempty : text.val ++ [0] ≠ [] := by simp
  have after := invariant.set nameFits nonempty (Prod.ext set.1 set.2)
  have found : loaded platform backend store'
      (Function.update contents key (some (text.val ++ [0]))) key = some (text.val ++ [0]) := by
    rw [loaded, if_pos loads, Function.update_self]
  have whole : (text.val ++ [0]).take buffer.length = text.val ++ [0] := by
    apply List.take_of_length_le
    rw [List.length_append, List.length_singleton]
    omega
  have terminated : 0 ∈ text.val ++ [0] := by simp
  have held := holdsString_append terminated (buffer.drop (text.val ++ [0]).length)
  rw [untilTerminator_append_zero text.property] at held
  rw [bacnetSettingsStringGet_of_loaded nameFits after found nonempty defaultValue (by omega),
    whole]
  exact held

/-- A default is used without a value: it must leave a string in every buffer. -/
theorem default_terminated_iff (default : ByteString) {valueSize : ℕ}
    (nothing : ∀ buffer, (bacnetStorageGet platform backend store key buffer).1 ≤ 0)
    (stored : Option (List UInt8)) :
    GetsTerminated platform backend store stored key (some default) valueSize ↔
      DefaultFits default valueSize := by
  rw [← strncpy_terminated_iff default valueSize (ValidString stored (some default))
    (Or.inr ⟨default, rfl, rfl⟩)]
  simp only [GetsTerminated, bacnetSettingsStringGet_of_nothing (nothing _)]
  constructor
  · intro terminated
    have := terminated (List.replicate valueSize 0) List.length_replicate
    rwa [List.length_replicate] at this
  · intro terminated buffer size
    rwa [size]

/--
The getter leaves a string in every buffer exactly when what it copies brings a
terminator that fits.
-/
theorem getsString_iff (nameFits : NameFits platform key)
    (invariant : StoreInvariant platform backend store contents)
    (status : backend.loadResult store (keyName platform.baseName key) ≤ 0)
    (defaultValue : Option ByteString) {valueSize : ℕ} (room : 1 ≤ valueSize) :
    GetsString platform backend store (contents key) key defaultValue valueSize ↔
      CopiesTerminator (loaded platform backend store contents key) defaultValue valueSize := by
  have restored : GetsString platform backend store (contents key) key defaultValue valueSize ↔
      GetsTerminated platform backend store (contents key) key defaultValue valueSize := by
    constructor
    · exact fun gets => gets.terminated
    · intro terminated
      refine ⟨terminated, ?_⟩
      intro text store' set loads fits buffer size
      exact bacnetSettingsStringGet_after_set nameFits invariant set loads defaultValue
        (by omega)
  rw [restored]
  rcases found : loaded platform backend store contents key with _ | _ | ⟨byte, bytes⟩
  · have negative := bacnetStorageGet_of_loaded_none nameFits invariant status found
    cases defaultValue with
    | none =>
        apply iff_of_true
        · intro buffer _
          rw [bacnetSettingsStringGet_of_nothing (Int.le_of_lt (negative buffer))]
          exact fun nonneg => absurd nonneg (Int.not_le.mpr (negative buffer))
        · rintro default given
          cases given
    | some default =>
        rw [default_terminated_iff default (fun buffer => Int.le_of_lt (negative buffer))]
        simp [CopiesTerminator]
  · have empty := bacnetStorageGet_of_loaded_nil nameFits invariant found
    have nothing : ∀ buffer, (bacnetStorageGet platform backend store key buffer).1 ≤ 0 :=
      fun buffer => Int.le_of_eq (congrArg Prod.fst (empty buffer))
    cases defaultValue with
    | none =>
        apply iff_of_false
        · -- the buffer is left as it is
          intro terminated
          have unterminated := terminated (List.replicate valueSize 1) List.length_replicate
          rw [bacnetSettingsStringGet_of_nothing (nothing _), empty] at unterminated
          rcases unterminated (Int.le_refl 0) with ⟨_, text, held, _⟩
          simpa using held.1
        · rintro ⟨default, given, _⟩
          cases given
    | some default =>
        rw [default_terminated_iff default nothing]
        simp [CopiesTerminator]
  · have held : contents key = some (byte :: bytes) := by
      rw [loaded] at found
      split at found
      · exact found
      · cases found
    simp only [CopiesTerminator]
    constructor
    · intro terminated
      have size : (List.replicate valueSize (1 : UInt8)).length = valueSize := List.length_replicate
      have shown := terminated _ size
      rw [bacnetSettingsStringGet_of_loaded nameFits invariant found (List.cons_ne_nil _ _)
        defaultValue (by omega)] at shown
      rcases shown (by omega) with ⟨_, text, string, _⟩
      have terminator := string.1
      rw [size, List.mem_append] at terminator
      rcases terminator with copied | kept
      · exact copied
      · have := List.eq_of_mem_replicate (List.mem_of_mem_drop kept)
        exact absurd this (by decide)
    · intro terminator buffer size
      rw [bacnetSettingsStringGet_of_loaded nameFits invariant found (List.cons_ne_nil _ _)
        defaultValue (by omega)]
      rw [size]
      intro _
      refine ⟨?_, untilTerminator (byte :: bytes), holdsString_take terminator _,
        Or.inl ⟨_, held, rfl⟩⟩
      have := List.length_take_le valueSize (byte :: bytes)
      omega

end Getter

/-- A stored string of two characters, a default of four, and a buffer of eight. -/
theorem getsString_iff_name :
    let platform := StoragePlatform.reference bacnetSettingsBaseName
    let backend := SettingsBackend.reference
    let key := bacnetStorageKeyInit 8 200 77 bacnetStorageArrayIndexNone
    let default : ByteString := ⟨[110, 111, 110, 101], by decide⟩
    let stored :=
      (bacnetSettingsStringSet platform backend ⟨[], by simp⟩ 8 200 77
        bacnetStorageArrayIndexNone (some ⟨[79, 75], by decide⟩)).2
    let contents := Function.update (fun _ => none) key (some [79, 75, 0])
    GetsString platform backend stored (contents key) key (some default) 8 ↔
      CopiesTerminator (loaded platform backend stored contents key) (some default) 8 := by
  intro platform backend key default stored contents
  have nameFits : NameFits platform key := nameFits_of_short (by decide) key
  have invariant : StoreInvariant platform backend stored contents :=
    storeInvariant_reference nameFits (List.cons_ne_nil _ _)
  exact getsString_iff nameFits invariant (Int.le_refl 0) (some default) (by decide)

/-- A default as long as the buffer is copied without its terminator. -/
theorem not_getsString_default :
    let platform := StoragePlatform.reference bacnetSettingsBaseName
    let backend := SettingsBackend.reference
    let key := bacnetStorageKeyInit 8 200 77 bacnetStorageArrayIndexNone
    let default : ByteString := ⟨[110, 111, 110, 101], by decide⟩
    bacnetSettingsStringGet platform backend ⟨[], by simp⟩ 8 200 77 bacnetStorageArrayIndexNone
        (some default) [0, 0, 0, 0] = (4, [110, 111, 110, 101]) ∧
      ¬GetsString platform backend ⟨[], by simp⟩ none key (some default) 4 := by
  intro platform backend key default
  have got : bacnetSettingsStringGet platform backend ⟨[], by simp⟩ 8 200 77
      bacnetStorageArrayIndexNone (some default) [0, 0, 0, 0] = (4, [110, 111, 110, 101]) := by
    decide
  refine ⟨got, ?_⟩
  intro gets
  have shown := gets.terminated [0, 0, 0, 0] rfl
  rcases shown (by decide) with ⟨_, text, held, _⟩
  exact absurd held.1 (by decide)

end BacnetZephyr
