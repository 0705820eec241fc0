import BacnetZephyr.Storage.Load

/-!
# Storing and restoring property writes

`bacnet_settings_write_property_store` keeps the data of a WriteProperty under a key
whose last field is the priority, the array index or nothing, depending on the
property. `bacnet_settings_restore` turns such a key back into a WriteProperty.

The two classify the property by different predicates in a different order.
`writePropertyKey_eq_iff` and `restoredWriteProperty_rebuiltFrom` say that they agree as
long as the property lists of the BACnet library are consistent. Other functions store
under any index, of which the restore keeps the last byte as the priority of a command:
`priorityRestored_iff`.
-/

namespace BacnetZephyr

open CLib NamedStore

def bacnetMaxPriority : UInt8 := 16

def propPresentValue : UInt32 := 85

/--
The property lists of the BACnet library. Only a present value is commandable, and
the present value of a commandable object is not an array.
-/
structure PropertyLists where
  /-- `property_list_bacnet_array_member(object_type, object_property)`. -/
  bacnetArrayMember : UInt32 → UInt32 → Bool
  /-- `property_list_commandable_member(object_type, object_property)`. -/
  commandableMember : UInt32 → UInt32 → Bool
  commandable_presentValue : ∀ objectType objectProperty,
    commandableMember objectType objectProperty → objectProperty = propPresentValue
  commandable_notArray : ∀ objectType objectProperty,
    commandableMember objectType objectProperty →
      bacnetArrayMember objectType objectProperty = false

/-- The lists for the commandable objects of the standard and a few array properties. -/
def PropertyLists.reference : PropertyLists where
  bacnetArrayMember _ objectProperty := objectProperty ∈ [76, 87, 110, 371]
  commandableMember objectType objectProperty :=
    objectType ∈ [1, 2, 4, 5, 14, 19] && objectProperty = propPresentValue
  commandable_presentValue := by simp
  commandable_notArray := by
    intro objectType objectProperty commandable
    simp only [Bool.and_eq_true, decide_eq_true_eq] at commandable
    rw [commandable.2]
    decide

/-- The values of `BACNET_ERROR_CODE` the restore tells apart. -/
inductive BacnetErrorCode where
  | other
  | unknownObject
  | unknownProperty
  | writeAccessDenied
  | duplicateName
  | valueOutOfRange
  | invalidDataType
  | propertyIsNotAnArray
  | noSpaceToWriteProperty
  | characterSetNotSupported
  | optionalFunctionalityNotSupported
deriving DecidableEq, Repr

/-- `BACNET_WRITE_PROPERTY_DATA`; `applicationData` is the used part of its buffer. -/
structure BacnetWritePropertyData (maxApdu : ℕ) where
  objectType : UInt32
  objectInstance : UInt32
  objectProperty : UInt32
  arrayIndex : UInt32
  applicationData : List UInt8
  priority : UInt8
  fits : applicationData.length ≤ maxApdu
deriving DecidableEq

/-- `bacnet_settings_restore_callback`: the status, and the error code it leaves. -/
abbrev BacnetSettingsRestoreCallback (maxApdu : ℕ) :=
  BacnetWritePropertyData maxApdu → Bool × BacnetErrorCode

/-- The mapping of the BACnet error to a Zephyr error. -/
def BacnetErrorCode.toErrno : BacnetErrorCode → Int
  | .unknownObject | .unknownProperty => -Errno.enoent
  | .writeAccessDenied => -Errno.eacces
  | .duplicateName => -Errno.eexist
  | .valueOutOfRange => -Errno.erange
  | .invalidDataType | .propertyIsNotAnArray => -Errno.einval
  | .noSpaceToWriteProperty => -Errno.enospc
  | .characterSetNotSupported | .optionalFunctionalityNotSupported => -Errno.enotsup
  | .other => -Errno.einval

section Store

variable (platform : StoragePlatform) (backend : SettingsBackend) (lists : PropertyLists)
  {maxApdu : ℕ}

/-- The key of `bacnet_settings_write_property_store`. -/
def writePropertyKey (wpData : BacnetWritePropertyData maxApdu) : BacnetStorageKey :=
  let arrayIndex :=
    if lists.bacnetArrayMember wpData.objectType wpData.objectProperty then wpData.arrayIndex
    else if wpData.objectProperty = propPresentValue then
      -- the priority is stored as an array index
      if lists.commandableMember wpData.objectType wpData.objectProperty then
        wpData.priority.toUInt32
      else bacnetArrayAll
    else wpData.arrayIndex
  bacnetStorageKeyInit wpData.objectType.toUInt16 wpData.objectInstance wpData.objectProperty
    arrayIndex

def bacnetSettingsWritePropertyStore (store : backend.Store)
    (wpData : BacnetWritePropertyData maxApdu) : Bool × backend.Store :=
  let (rv, store) := bacnetStorageSet platform backend store (writePropertyKey lists wpData)
    wpData.applicationData
  if rv < 0 then (false, store) else (true, store)

/-- The WriteProperty `bacnet_settings_restore` fills in. -/
def restoredWriteProperty (objectType : UInt16) (objectInstance propertyId arrayIndex : UInt32)
    (applicationData : List UInt8) (fits : applicationData.length ≤ maxApdu) :
    BacnetWritePropertyData maxApdu :=
  let wpData : BacnetWritePropertyData maxApdu :=
    { objectType := objectType.toUInt32
      objectInstance
      objectProperty := propertyId
      arrayIndex
      applicationData
      priority := bacnetMaxPriority
      fits }
  if lists.commandableMember objectType.toUInt32 propertyId then
    -- the priority is stored as an array index
    { wpData with priority := arrayIndex.toUInt8, arrayIndex := bacnetArrayAll }
  else wpData

def bacnetSettingsRestore (maxApdu : ℕ) (objectType : UInt16)
    (objectInstance propertyId arrayIndex : UInt32) (data : Option (List UInt8)) (dataLen : ℕ)
    (restoreFunction : Option (BacnetSettingsRestoreCallback maxApdu)) :
    RestoreOutcome (BacnetWritePropertyData maxApdu) :=
  match data with
  | none => .returned (-Errno.einval) []
  | some data =>
      if range : 0 < dataLen ∧ dataLen ≤ maxApdu then
        -- the copy of dataLen bytes must stay inside the buffer
        if data.length < dataLen then .outOfBounds
        else
          let wpData := restoredWriteProperty lists objectType objectInstance propertyId
            arrayIndex (data.take dataLen) ((List.length_take_le dataLen data).trans range.2)
          match restoreFunction with
          | none => .returned (-Errno.einval) []
          | some restoreFunction =>
              let (status, errorCode) := restoreFunction wpData
              if status then .returned 0 [wpData]
              else .returned errorCode.toErrno [wpData]
      else .returned (-Errno.einval) []

def bacnetStorageRestoreHandler (maxApdu : ℕ)
    (restoreCallback : Option (BacnetSettingsRestoreCallback maxApdu)) :
    BacnetStorageRestoreCallback (BacnetWritePropertyData maxApdu) :=
  fun key data dataLen =>
    bacnetSettingsRestore lists maxApdu key.objectType key.objectInstance key.propertyId
      key.arrayIndex (some data) dataLen restoreCallback

end Store

/-! ## The stored bytes arrive unchanged -/

section Bytes

variable {platform : StoragePlatform} {lists : PropertyLists} {maxApdu : ℕ}
  {restoreFunction : Option (BacnetSettingsRestoreCallback maxApdu)}

/--
The data a restore function receives is the given value, byte for byte, or the entry
is refused and the function not called; no byte outside the buffer is read.
-/
def RestoredExactly (outcome : RestoreOutcome (BacnetWritePropertyData maxApdu))
    (value : List UInt8) : Prop :=
  match outcome with
  | .outOfBounds => False
  | .returned rc requests =>
      (∃ wpData, requests = [wpData] ∧ wpData.applicationData = value) ∨ (rc < 0 ∧ requests = [])

/-- What the handler passes on when the path decodes and there is a value. -/
theorem bacnetStorageHandlerSet_decoded {Request : Type} {path : Option CString}
    {key : BacnetStorageKey} {value : List UInt8} (nonempty : value ≠ [])
    (decoded : bacnetStorageKeyDecode platform path (bacnetStorageKeyInit 0 0 0 0) = (0, key))
    (callback : Option (BacnetStorageRestoreCallback Request)) :
    bacnetStorageHandlerSet platform callback path value.length (settingsReadCb value) =
      bacnetStorageRestore callback key
        (value.take bacnetStorageValueSizeMax ++
          (List.replicate bacnetStorageValueSizeMax 0).drop
            (value.take bacnetStorageValueSizeMax).length)
        value.length := by
  have notEmpty : ¬value.length = 0 := by simpa using nonempty
  have nonneg : ¬((value.take bacnetStorageValueSizeMax).length : Int) < 0 := by omega
  simp only [bacnetStorageHandlerSet, decoded, if_true, notEmpty, if_false, settingsReadCb, nonneg]

theorem bacnetStorageHandlerSet_rejected {Request : Type} {path : Option CString}
    {initial : BacnetStorageKey} (initially : initial = bacnetStorageKeyInit 0 0 0 0)
    (rejected : (bacnetStorageKeyDecode platform path initial).1 ≠ 0)
    (callback : Option (BacnetStorageRestoreCallback Request)) (dataLen : ℕ)
    (readCb : SettingsReadCb) :
    bacnetStorageHandlerSet platform callback path dataLen readCb =
      .returned (-Errno.einval) [] := by
  subst initially
  simp only [bacnetStorageHandlerSet, rejected, if_false]

theorem length_le_of_take_eq {value buffer : List UInt8}
    (held : buffer.take value.length = value) : value.length ≤ buffer.length := by
  have := congrArg List.length held
  rw [List.length_take] at this
  omega

/-- A buffer that holds the value in front restores the value. -/
theorem bacnetSettingsRestore_of_take {objectType : UInt16}
    {objectInstance propertyId arrayIndex : UInt32} {value buffer : List UInt8}
    (nonempty : value ≠ []) (apdu : value.length ≤ maxApdu)
    (held : buffer.take value.length = value)
    (restoreFunction : BacnetSettingsRestoreCallback maxApdu) :
    let wpData := restoredWriteProperty lists objectType objectInstance propertyId arrayIndex
      value apdu
    bacnetSettingsRestore lists maxApdu objectType objectInstance propertyId arrayIndex
        (some buffer) value.length (some restoreFunction) =
      .returned (if (restoreFunction wpData).1 then 0 else (restoreFunction wpData).2.toErrno)
        [wpData] := by
  have positive : 0 < value.length := List.length_pos_iff.mpr nonempty
  have large := (length_le_of_take_eq held).not_gt
  simp only [bacnetSettingsRestore, positive, apdu, and_self, dite_true, large, if_false, held]
  split
  · rfl
  · rfl

theorem bacnetStorageRestoreHandler_exactly {key : BacnetStorageKey} {value buffer : List UInt8}
    (nonempty : value ≠ []) (apdu : value.length ≤ maxApdu)
    (held : buffer.take value.length = value)
    (restoreFunction : Option (BacnetSettingsRestoreCallback maxApdu)) :
    RestoredExactly
      (bacnetStorageRestoreHandler lists maxApdu restoreFunction key buffer value.length)
      value := by
  cases restoreFunction with
  | none =>
      have positive : 0 < value.length := List.length_pos_iff.mpr nonempty
      have large := (length_le_of_take_eq held).not_gt
      simp [bacnetStorageRestoreHandler, bacnetSettingsRestore, positive, apdu, large,
        RestoredExactly, Errno.einval]
  | some restoreFunction =>
      rw [bacnetStorageRestoreHandler, bacnetSettingsRestore_of_take nonempty apdu held]
      left
      refine ⟨_, rfl, ?_⟩
      simp only [restoredWriteProperty]
      split <;> rfl

/-- A longer value than the buffer is read past its end. -/
theorem bacnetStorageRestoreHandler_outOfBounds {key : BacnetStorageKey} {buffer : List UInt8}
    {dataLen : ℕ} (long : buffer.length < dataLen) (apdu : dataLen ≤ maxApdu) :
    bacnetStorageRestoreHandler lists maxApdu restoreFunction key buffer dataLen =
      .outOfBounds := by
  have positive : 0 < dataLen := by omega
  simp [bacnetStorageRestoreHandler, bacnetSettingsRestore, positive, apdu, long]

/-- A value that does not fit the buffer of the handler is not restored. -/
theorem not_restoredExactly_of_long {path : Option CString} {value : List UInt8}
    (long : bacnetStorageValueSizeMax < value.length) (apdu : value.length ≤ maxApdu)
    (accepted :
      (bacnetStorageKeyDecode platform path (bacnetStorageKeyInit 0 0 0 0)).1 = 0) :
    ¬RestoredExactly
      (bacnetStorageHandlerSet platform
        (some (bacnetStorageRestoreHandler lists maxApdu restoreFunction)) path value.length
        (settingsReadCb value))
      value := by
  rcases decoded : bacnetStorageKeyDecode platform path (bacnetStorageKeyInit 0 0 0 0) with
    ⟨rc, key⟩
  rw [decoded] at accepted
  obtain rfl : rc = 0 := accepted
  have nonempty : value ≠ [] := List.ne_nil_of_length_pos (by omega)
  rw [bacnetStorageHandlerSet_decoded nonempty decoded, bacnetStorageRestore,
    bacnetStorageRestoreHandler_outOfBounds _ apdu]
  · exact id
  · simp only [List.length_append, List.length_take, List.length_drop, List.length_replicate]
    omega

/--
A stored value is restored byte for byte exactly when it fits the data buffer of the
handler, or its path is refused.
-/
theorem restoredExactly_iff (platform : StoragePlatform) (lists : PropertyLists)
    (restoreFunction : Option (BacnetSettingsRestoreCallback maxApdu)) (path : Option CString)
    {value : List UInt8} (nonempty : value ≠ []) (apdu : value.length ≤ maxApdu) :
    RestoredExactly
        (bacnetStorageHandlerSet platform
          (some (bacnetStorageRestoreHandler lists maxApdu restoreFunction)) path value.length
          (settingsReadCb value))
        value ↔
      value.length ≤ bacnetStorageValueSizeMax ∨
        (bacnetStorageKeyDecode platform path (bacnetStorageKeyInit 0 0 0 0)).1 ≠ 0 := by
  rcases decoded : bacnetStorageKeyDecode platform path (bacnetStorageKeyInit 0 0 0 0) with
    ⟨rc, key⟩
  by_cases accepted : rc = 0
  · subst accepted
    simp only [ne_eq, not_true_eq_false, or_false]
    constructor
    · intro restored
      by_contra long
      apply not_restoredExactly_of_long (by omega) apdu _ restored
      rw [decoded]
    · intro fits
      rw [bacnetStorageHandlerSet_decoded nonempty decoded, bacnetStorageRestore]
      apply bacnetStorageRestoreHandler_exactly nonempty apdu
      rw [List.take_of_length_le fits, List.take_left]
  · have rejected :
        (bacnetStorageKeyDecode platform path (bacnetStorageKeyInit 0 0 0 0)).1 ≠ 0 := by
      rw [decoded]
      exact accepted
    rw [bacnetStorageHandlerSet_rejected rfl rejected]
    simp [RestoredExactly, accepted, Errno.einval]

end Bytes

theorem restoredExactly_iff_four :
    let platform := StoragePlatform.reference bacnetSettingsBaseName
    let path := some "8/200/111".toList
    let value : List UInt8 := [1, 2, 3, 4]
    RestoredExactly
        (bacnetStorageHandlerSet platform
          (some (bacnetStorageRestoreHandler PropertyLists.reference 1476
            (some fun _ => (true, .other)))) path value.length (settingsReadCb value))
        value ↔
      value.length ≤ bacnetStorageValueSizeMax ∨
        (bacnetStorageKeyDecode platform path (bacnetStorageKeyInit 0 0 0 0)).1 ≠ 0 :=
  restoredExactly_iff _ _ _ _ (by decide) (by decide)

/-- A value of 257 bytes is read past the end of the buffer. -/
theorem not_restoredExactly_long :
    let platform := StoragePlatform.reference bacnetSettingsBaseName
    let path := some "8/200/111".toList
    let value : List UInt8 := List.replicate 257 7
    ¬RestoredExactly
        (bacnetStorageHandlerSet platform
          (some (bacnetStorageRestoreHandler PropertyLists.reference 1476
            (some fun _ => (true, .other)))) path value.length (settingsReadCb value))
        value := by
  have length : (List.replicate 257 (7 : UInt8)).length = 257 := List.length_replicate
  apply not_restoredExactly_of_long
  · rw [length]
    decide
  · rw [length]
    decide
  · decide

/-! ## The key and the rebuilt WriteProperty agree -/

/-- What a WriteProperty addresses within its property. -/
inductive PropertySlot where
  | command (priority : UInt8)
  | whole
  | element (arrayIndex : UInt32)
deriving DecidableEq

def PropertySlot.arrayIndex : PropertySlot → UInt32
  | .command priority => priority.toUInt32
  | .whole => bacnetArrayAll
  | .element arrayIndex => arrayIndex

section Slots

variable (lists : PropertyLists) {maxApdu : ℕ}

def BacnetWritePropertyData.slot (wpData : BacnetWritePropertyData maxApdu) : PropertySlot :=
  if lists.commandableMember wpData.objectType wpData.objectProperty then
    .command wpData.priority
  else if wpData.objectProperty = propPresentValue ∧
      lists.bacnetArrayMember wpData.objectType wpData.objectProperty = false then
    .whole
  else .element wpData.arrayIndex

/-- The requests write the same slot of the same property of the same object. -/
structure SameTarget (request other : BacnetWritePropertyData maxApdu) : Prop where
  objectType : request.objectType = other.objectType
  objectInstance : request.objectInstance = other.objectInstance
  objectProperty : request.objectProperty = other.objectProperty
  slot : request.slot lists = other.slot lists

/-- The order in which the store side asks the lists does not matter. -/
theorem writePropertyKey_eq (wpData : BacnetWritePropertyData maxApdu) :
    writePropertyKey lists wpData =
      bacnetStorageKeyInit wpData.objectType.toUInt16 wpData.objectInstance
        wpData.objectProperty (wpData.slot lists).arrayIndex := by
  have presentValue := lists.commandable_presentValue wpData.objectType wpData.objectProperty
  have notArray := lists.commandable_notArray wpData.objectType wpData.objectProperty
  simp only [writePropertyKey, BacnetWritePropertyData.slot]
  by_cases commandable : lists.commandableMember wpData.objectType wpData.objectProperty
  · rw [if_neg (by simp [notArray commandable]), if_pos (presentValue commandable),
      if_pos commandable, if_pos commandable]
    rfl
  · cases array : lists.bacnetArrayMember wpData.objectType wpData.objectProperty with
    | true => simp [commandable, PropertySlot.arrayIndex]
    | false =>
        by_cases isPresentValue : wpData.objectProperty = propPresentValue
        · rw [isPresentValue] at commandable
          simp [isPresentValue, commandable, PropertySlot.arrayIndex]
        · simp [isPresentValue, commandable, PropertySlot.arrayIndex]

/-- Within one property the array index of the key determines the slot. -/
theorem slot_eq_of_arrayIndex {request other : BacnetWritePropertyData maxApdu}
    (sameType : request.objectType = other.objectType)
    (sameProperty : request.objectProperty = other.objectProperty)
    (sameIndex : (request.slot lists).arrayIndex = (other.slot lists).arrayIndex) :
    request.slot lists = other.slot lists := by
  simp only [BacnetWritePropertyData.slot, sameType, sameProperty] at sameIndex ⊢
  by_cases commandable : lists.commandableMember other.objectType other.objectProperty
  · simp only [commandable, if_true] at sameIndex ⊢
    have samePriority : request.priority = other.priority := by
      apply UInt8.toNat_inj.mp
      simpa [PropertySlot.arrayIndex] using congrArg UInt32.toNat sameIndex
    rw [samePriority]
  · rw [if_neg commandable, if_neg commandable] at sameIndex ⊢
    split
    · rfl
    · rename_i indexed
      rw [if_neg indexed, if_neg indexed] at sameIndex
      exact congrArg PropertySlot.element sameIndex

theorem toUInt16_inj_of_le {left right : UInt32} (leftRange : left.toNat ≤ 65535)
    (rightRange : right.toNat ≤ 65535) (equal : left.toUInt16 = right.toUInt16) :
    left = right := by
  apply UInt32.toNat_inj.mp
  have := congrArg UInt16.toNat equal
  simp only [UInt32.toNat_toUInt16] at this
  omega

/-- Two requests are stored under the same key exactly when they have the same target. -/
theorem writePropertyKey_eq_iff {request other : BacnetWritePropertyData maxApdu}
    (requestRange : request.objectType.toNat ≤ 65535)
    (otherRange : other.objectType.toNat ≤ 65535) :
    writePropertyKey lists request = writePropertyKey lists other ↔
      SameTarget lists request other := by
  rw [writePropertyKey_eq, writePropertyKey_eq]
  simp only [bacnetStorageKeyInit, BacnetStorageKey.mk.injEq]
  constructor
  · rintro ⟨objectType, objectInstance, objectProperty, arrayIndex⟩
    have sameType := toUInt16_inj_of_le requestRange otherRange objectType
    exact ⟨sameType, objectInstance, objectProperty,
      slot_eq_of_arrayIndex lists sameType objectProperty arrayIndex⟩
  · rintro ⟨objectType, objectInstance, objectProperty, slot⟩
    exact ⟨by rw [objectType], objectInstance, objectProperty, by rw [slot]⟩

/--
The rebuilt request has the object, property and data of the stored one, and the
priority or the array index that belongs to its property.
-/
structure RebuiltFrom (request rebuilt : BacnetWritePropertyData maxApdu) : Prop where
  objectType : rebuilt.objectType = request.objectType
  objectInstance : rebuilt.objectInstance = request.objectInstance
  objectProperty : rebuilt.objectProperty = request.objectProperty
  applicationData : rebuilt.applicationData = request.applicationData
  commandable : lists.commandableMember request.objectType request.objectProperty →
    rebuilt.priority = request.priority ∧ rebuilt.arrayIndex = bacnetArrayAll
  notCommandable :
    lists.commandableMember request.objectType request.objectProperty = false →
    rebuilt.arrayIndex =
      if request.objectProperty = propPresentValue ∧
          lists.bacnetArrayMember request.objectType request.objectProperty = false then
        bacnetArrayAll
      else request.arrayIndex

/-- Restoring the key of a request with its data rebuilds the request. -/
theorem restoredWriteProperty_rebuiltFrom {request : BacnetWritePropertyData maxApdu}
    (typeRange : request.objectType.toNat ≤ 65535) :
    let key := writePropertyKey lists request
    RebuiltFrom lists request
      (restoredWriteProperty lists key.objectType key.objectInstance key.propertyId
        key.arrayIndex request.applicationData request.fits) := by
  have sameType : request.objectType.toUInt16.toUInt32 = request.objectType := by
    apply UInt32.toNat_inj.mp
    simp only [UInt16.toNat_toUInt32, UInt32.toNat_toUInt16]
    omega
  simp only [writePropertyKey_eq, bacnetStorageKeyInit, restoredWriteProperty, sameType]
  cases commandable : lists.commandableMember request.objectType request.objectProperty with
  | true =>
      simp only [if_true]
      refine ⟨rfl, rfl, rfl, rfl, fun _ => ⟨?_, rfl⟩, ?_⟩
      · simp [BacnetWritePropertyData.slot, commandable, PropertySlot.arrayIndex]
      · rw [commandable]
        simp
  | false =>
      refine ⟨rfl, rfl, rfl, rfl, ?_, fun _ => ?_⟩
      · rw [commandable]
        simp
      · simp only [BacnetWritePropertyData.slot, commandable, Bool.false_eq_true, if_false]
        split
        · rfl
        · rfl

end Slots

theorem bacnetSettingsWritePropertyStore_snd (platform : StoragePlatform)
    (backend : SettingsBackend) (lists : PropertyLists) {maxApdu : ℕ} (store : backend.Store)
    (wpData : BacnetWritePropertyData maxApdu) :
    (bacnetSettingsWritePropertyStore platform backend lists store wpData).2 =
      (bacnetStorageSet platform backend store (writePropertyKey lists wpData)
        wpData.applicationData).2 := by
  simp only [bacnetSettingsWritePropertyStore]
  split <;> rfl

/--
Storing a WriteProperty and rebuilding it from its key agree, and writes to different
slots never overwrite each other.
-/
theorem bacnetSettingsRestore_writePropertyStore {platform : StoragePlatform}
    {backend : SettingsBackend} {lists : PropertyLists} {maxApdu : ℕ}
    (short : platform.baseName.length ≤ 25) {store stored : backend.Store}
    {request : BacnetWritePropertyData maxApdu} (typeRange : request.objectType.toNat ≤ 65535)
    (nonempty : request.applicationData ≠ [])
    (succeeds : bacnetStorageSet platform backend store (writePropertyKey lists request)
      request.applicationData = (0, stored)) :
    let key := writePropertyKey lists request
    let name (key : BacnetStorageKey) :=
      (bacnetStorageKeyEncode platform (settingsMaxNameLen + 1) key).2
    bacnetSettingsWritePropertyStore platform backend lists store request = (true, stored) ∧
      backend.lookup stored (name key) = some request.applicationData ∧
      (∀ buffer restoreFunction,
        buffer.take request.applicationData.length = request.applicationData →
        ∃ rc rebuilt,
          bacnetSettingsRestore lists maxApdu key.objectType key.objectInstance key.propertyId
              key.arrayIndex (some buffer) request.applicationData.length
              (some restoreFunction) =
            .returned rc [rebuilt] ∧
          RebuiltFrom lists request rebuilt) ∧
      ∀ other : BacnetWritePropertyData maxApdu, other.objectType.toNat ≤ 65535 →
        (writePropertyKey lists other = key ↔ SameTarget lists other request) ∧
        (name (writePropertyKey lists other) = name key ↔ SameTarget lists other request) ∧
        (¬SameTarget lists other request → ∀ held : backend.Store,
          backend.lookup (bacnetSettingsWritePropertyStore platform backend lists held other).2
              (name key) =
            backend.lookup held (name key)) := by
  intro key name
  have named : ∀ key, name key = keyName platform.baseName key := by
    intro key
    simp only [name, bacnetStorageKeyEncode_of_short short]
  refine ⟨?_, ?_, ?_, ?_⟩
  · simp [bacnetSettingsWritePropertyStore, succeeds]
  · rw [bacnetStorageSet_eq (nameFits_of_short short _)] at succeeds
    have saved := backend.saveOne_saved store _ request.applicationData nonempty
      (by rw [succeeds])
    rw [succeeds] at saved
    rw [named]
    exact saved
  · intro buffer restoreFunction data
    exact ⟨_, _, bacnetSettingsRestore_of_take nonempty request.fits data _,
      restoredWriteProperty_rebuiltFrom lists typeRange⟩
  · intro other otherRange
    have sameKey := writePropertyKey_eq_iff lists otherRange typeRange
    have sameName : name (writePropertyKey lists other) = name key ↔
        SameTarget lists other request := by
      rw [named, named, (keyName_injective _).eq_iff]
      exact sameKey
    refine ⟨sameKey, sameName, ?_⟩
    intro different held
    have otherName : name key ≠ name (writePropertyKey lists other) :=
      fun equal => different (sameName.mp equal.symm)
    rw [named, named] at otherName
    have untouched := backend.saveOne_other held _ other.applicationData _ otherName
    rw [named, bacnetSettingsWritePropertyStore_snd,
      bacnetStorageSet_eq (nameFits_of_short short _)]
    exact untouched

/-- A command at priority 8 and its neighbour at priority 9. -/
theorem bacnetSettingsRestore_writePropertyStore_command :
    let platform := StoragePlatform.reference bacnetSettingsBaseName
    let backend := SettingsBackend.reference
    let lists := PropertyLists.reference
    let command (priority : UInt8) : BacnetWritePropertyData 1476 :=
      { objectType := 1, objectInstance := 7, objectProperty := propPresentValue
        arrayIndex := bacnetArrayAll, applicationData := [0x44, 0x42, 0xC8, 0, 0], priority
        fits := by decide }
    let stored := (bacnetSettingsWritePropertyStore platform backend lists ⟨[], by simp⟩
      (command 8)).2
    let name := (bacnetStorageKeyEncode platform (settingsMaxNameLen + 1)
      (writePropertyKey lists (command 8))).2
    backend.lookup (bacnetSettingsWritePropertyStore platform backend lists stored (command 9)).2
        name =
      some [0x44, 0x42, 0xC8, 0, 0] := by
  intro platform backend lists command stored name
  have succeeds : bacnetStorageSet platform backend ⟨[], by simp⟩
      (writePropertyKey lists (command 8)) (command 8).applicationData = (0, stored) := rfl
  have ⟨_, held, _, others⟩ :=
    bacnetSettingsRestore_writePropertyStore (by decide) (by decide) (by decide) succeeds
  have different : ¬SameTarget lists (command 9) (command 8) := by
    intro same
    have := same.slot
    revert this
    decide
  rw [(others (command 9) (by decide)).2.2 different stored]
  exact held

/-! ## The priority of a restored command -/

/-- The requests passed to the restore function. -/
def RestoreOutcome.requests {Request : Type} : RestoreOutcome Request → List Request
  | .outOfBounds => []
  | .returned _ requests => requests

/-- The request has a legal priority, the stored index if that is one. -/
structure PriorityRestored {maxApdu : ℕ} (key : BacnetStorageKey)
    (wpData : BacnetWritePropertyData maxApdu) : Prop where
  legal : 1 ≤ wpData.priority ∧ wpData.priority ≤ bacnetMaxPriority
  stored : 1 ≤ key.arrayIndex → key.arrayIndex ≤ bacnetMaxPriority.toUInt32 →
    wpData.priority.toUInt32 = key.arrayIndex

section Priority

variable {lists : PropertyLists} {maxApdu : ℕ}

/-- What a restore function receives is built from the fields of the key. -/
theorem bacnetSettingsRestore_requests {objectType : UInt16}
    {objectInstance propertyId arrayIndex : UInt32} {data : Option (List UInt8)} {dataLen : ℕ}
    {restoreFunction : Option (BacnetSettingsRestoreCallback maxApdu)}
    {wpData : BacnetWritePropertyData maxApdu}
    (handed : wpData ∈ (bacnetSettingsRestore lists maxApdu objectType objectInstance propertyId
      arrayIndex data dataLen restoreFunction).requests) :
    ∃ value fits, wpData =
      restoredWriteProperty lists objectType objectInstance propertyId arrayIndex value fits := by
  cases data with
  | none => cases handed
  | some data =>
      simp only [bacnetSettingsRestore] at handed
      split at handed
      · rename_i range
        split at handed
        · cases handed
        · cases restoreFunction with
          | none => cases handed
          | some restoreFunction =>
              refine ⟨data.take dataLen, (List.length_take_le dataLen data).trans range.2, ?_⟩
              simp only at handed
              split at handed
              · exact List.mem_singleton.mp handed
              · exact List.mem_singleton.mp handed
      · cases handed

theorem bacnetStorageHandlerSet_requests {platform : StoragePlatform} {path : Option CString}
    {key : BacnetStorageKey} {dataLen : ℕ} {readCb : SettingsReadCb}
    {restoreFunction : Option (BacnetSettingsRestoreCallback maxApdu)}
    {wpData : BacnetWritePropertyData maxApdu}
    (decoded : bacnetStorageKeyDecode platform path (bacnetStorageKeyInit 0 0 0 0) = (0, key))
    (handed : wpData ∈ (bacnetStorageHandlerSet platform
      (some (bacnetStorageRestoreHandler lists maxApdu restoreFunction)) path dataLen
      readCb).requests) :
    ∃ value fits, wpData =
      restoredWriteProperty lists key.objectType key.objectInstance key.propertyId
        key.arrayIndex value fits := by
  simp only [bacnetStorageHandlerSet, decoded, if_true, bacnetStorageRestore,
    bacnetStorageRestoreHandler] at handed
  split at handed
  · cases handed
  · split at handed
    · split at handed
      · cases handed
      · cases handed
    · exact bacnetSettingsRestore_requests handed

/-- A value that fits the buffers is handed over. -/
theorem mem_bacnetStorageHandlerSet_requests {platform : StoragePlatform}
    {path : Option CString} {key : BacnetStorageKey} {value : List UInt8} (nonempty : value ≠ [])
    (fits : value.length ≤ bacnetStorageValueSizeMax) (apdu : value.length ≤ maxApdu)
    (decoded : bacnetStorageKeyDecode platform path (bacnetStorageKeyInit 0 0 0 0) = (0, key))
    (restoreFunction : BacnetSettingsRestoreCallback maxApdu) :
    restoredWriteProperty lists key.objectType key.objectInstance key.propertyId key.arrayIndex
        value apdu ∈
      (bacnetStorageHandlerSet platform
        (some (bacnetStorageRestoreHandler lists maxApdu (some restoreFunction))) path
        value.length (settingsReadCb value)).requests := by
  have held : (value.take bacnetStorageValueSizeMax ++
      (List.replicate bacnetStorageValueSizeMax 0).drop
        (value.take bacnetStorageValueSizeMax).length).take value.length = value := by
    rw [List.take_of_length_le fits, List.take_left]
  rw [bacnetStorageHandlerSet_decoded nonempty decoded, bacnetStorageRestore,
    bacnetStorageRestoreHandler, bacnetSettingsRestore_of_take nonempty apdu held]
  exact List.mem_singleton_self _

/-- The priority is the last byte of the stored index. -/
theorem restoredWriteProperty_priority {objectType : UInt16}
    {objectInstance propertyId arrayIndex : UInt32} {value : List UInt8}
    (fits : value.length ≤ maxApdu)
    (commandable : lists.commandableMember objectType.toUInt32 propertyId = true) :
    (restoredWriteProperty lists objectType objectInstance propertyId arrayIndex value
      fits).priority = arrayIndex.toUInt8 := by
  simp only [restoredWriteProperty, commandable, if_true]

/--
Whoever has written the entry, the priority restored from a key of a commandable property
is legal exactly when the last byte of its index is a priority; the index that stands for
none becomes 255.
-/
theorem priorityRestored_iff (platform : StoragePlatform) {path : Option CString}
    {key : BacnetStorageKey} {dataLen : ℕ} {readCb : SettingsReadCb}
    {restoreFunction : Option (BacnetSettingsRestoreCallback maxApdu)}
    {wpData : BacnetWritePropertyData maxApdu}
    (decoded : bacnetStorageKeyDecode platform path (bacnetStorageKeyInit 0 0 0 0) = (0, key))
    (commandable : lists.commandableMember key.objectType.toUInt32 key.propertyId = true)
    (handed : wpData ∈ (bacnetStorageHandlerSet platform
      (some (bacnetStorageRestoreHandler lists maxApdu restoreFunction)) path dataLen
      readCb).requests) :
    PriorityRestored key wpData ↔
      1 ≤ key.arrayIndex.toNat % 256 ∧ key.arrayIndex.toNat % 256 ≤ 16 := by
  rcases bacnetStorageHandlerSet_requests decoded handed with ⟨value, fits, rfl⟩
  have priority := @restoredWriteProperty_priority lists maxApdu key.objectType
    key.objectInstance key.propertyId key.arrayIndex value fits commandable
  have range : 1 ≤ key.arrayIndex.toUInt8 ∧ key.arrayIndex.toUInt8 ≤ bacnetMaxPriority ↔
      1 ≤ key.arrayIndex.toNat % 256 ∧ key.arrayIndex.toNat % 256 ≤ 16 := by
    simp [UInt8.le_iff_toNat_le, bacnetMaxPriority]
  rw [← range]
  constructor
  · intro restored
    have legal := restored.legal
    rwa [priority] at legal
  · intro legal
    refine ⟨by rwa [priority], ?_⟩
    intro positive small
    rw [priority]
    apply UInt32.toNat_inj.mp
    have bound : key.arrayIndex.toNat ≤ 16 := UInt32.le_iff_toNat_le.mp small
    simp only [UInt8.toNat_toUInt32, UInt32.toNat_toUInt8]
    omega

end Priority

/-- A command stored at priority 8. -/
theorem priorityRestored_iff_command :
    let key := bacnetStorageKeyInit 1 7 85 8
    let value : List UInt8 := [0x91, 1]
    let wpData := restoredWriteProperty PropertyLists.reference key.objectType
      key.objectInstance key.propertyId key.arrayIndex value
      (show value.length ≤ 1476 by decide)
    PriorityRestored key wpData ↔
      1 ≤ key.arrayIndex.toNat % 256 ∧ key.arrayIndex.toNat % 256 ≤ 16 := by
  intro key value wpData
  have decoded : bacnetStorageKeyDecode (StoragePlatform.reference bacnetSettingsBaseName)
      (some "1/7/85/8".toList) (bacnetStorageKeyInit 0 0 0 0) = (0, key) := by
    decide
  have handed := @mem_bacnetStorageHandlerSet_requests PropertyLists.reference 1476 _ _ _ value
    (by decide) (by decide) (by decide) decoded fun _ => (true, .other)
  exact priorityRestored_iff _ decoded (by decide) handed

/-- A command stored without an index is restored with priority 255. -/
theorem not_priorityRestored_none :
    let platform := StoragePlatform.reference bacnetSettingsBaseName
    let key := bacnetStorageKeyInit 1 7 85 bacnetStorageArrayIndexNone
    let restore := fun _ : BacnetWritePropertyData 1476 => (true, BacnetErrorCode.other)
    let value : List UInt8 := [0x91, 1]
    bacnetStorageKeyDecode platform (some "1/7/85".toList) (bacnetStorageKeyInit 0 0 0 0) =
        (0, key) ∧
      ∃ wpData ∈ (bacnetStorageHandlerSet platform
          (some (bacnetStorageRestoreHandler PropertyLists.reference 1476 (some restore)))
          (some "1/7/85".toList) value.length (settingsReadCb value)).requests,
        wpData.priority = 255 ∧ ¬PriorityRestored key wpData := by
  intro platform key restore value
  have decoded : bacnetStorageKeyDecode platform (some "1/7/85".toList)
      (bacnetStorageKeyInit 0 0 0 0) = (0, key) := by
    decide
  refine ⟨decoded, _, mem_bacnetStorageHandlerSet_requests (by decide) (by decide) (by decide)
    decoded restore, ?_⟩
  have priority := @restoredWriteProperty_priority PropertyLists.reference 1476 key.objectType
    key.objectInstance key.propertyId key.arrayIndex value (by decide) (by decide)
  rw [show key.arrayIndex.toUInt8 = 255 by decide] at priority
  refine ⟨priority, ?_⟩
  intro restored
  have legal := restored.legal.2
  rw [priority] at legal
  exact absurd legal (by decide)

end BacnetZephyr
