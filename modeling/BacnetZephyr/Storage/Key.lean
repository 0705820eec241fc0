import BacnetZephyr.Zephyr.Reference

/-!
# Storage keys

The keys of the BACnet storage and their textual form: `bacnet_storage_key_encode`
renders a key below the base name, `bacnet_storage_key_decode` reads it back from
the full name or from the path a settings handler receives.

The rendering itself is `keyPath`; it is injective, so distinct keys have distinct
names as long as the name buffer holds the whole rendering. Decoding copies each
component into a buffer sized by the directory depth limit, so it accepts
components of at most eight characters only. `bacnetStorageKeyDecode_keyPath` and
`bacnetStorageKeyDecode_keyPath_error` say exactly which rendered keys that admits.
-/

namespace BacnetZephyr

open CLib NamedStore

structure BacnetStorageKey where
  objectType : UInt16
  objectInstance : UInt32
  propertyId : UInt32
  arrayIndex : UInt32
deriving DecidableEq, Repr

def bacnetStorageArrayIndexNone : UInt32 := 0xFFFFFFFF

def bacnetArrayAll : UInt32 := 0xFFFFFFFF

/--
What the storage code takes from its platform and configuration: the settings name
routines, the width of `unsigned long`, and `BACNET_STORAGE_BASE_NAME`.
-/
structure StoragePlatform where
  names : SettingsNames
  ulongBits : ℕ
  ulongBits_range : ulongBits = 32 ∨ ulongBits = 64
  baseName : CString

/-- The default of `BACNET_SETTINGS_BASE_NAME`. -/
def bacnetSettingsBaseName : CString := ".bacnet".toList

/-- A 32-bit platform with the reference name routines. -/
def StoragePlatform.reference (baseName : CString) : StoragePlatform where
  names := SettingsNames.reference
  ulongBits := 32
  ulongBits_range := Or.inl rfl
  baseName := baseName

/-- `bacnet_storage_key_init` on a non-null key. -/
def bacnetStorageKeyInit (objectType : UInt16) (objectInstance propertyId arrayIndex : UInt32) :
    BacnetStorageKey :=
  { objectType, objectInstance, propertyId, arrayIndex }

/-- `bacnet_storage_strtoul`: the converted value, if the whole text converts. -/
def bacnetStorageStrtoul (platform : StoragePlatform) (searchName : CString) : Option ℕ :=
  let (value, endptr) := strtoul platform.ulongBits searchName
  if endptr.length = searchName.length then none
  else if value = ulongMax platform.ulongBits then none
  else if endptr ≠ [] then none
  else some value

/-- `bacnet_storage_key_encode`: the value returned and the contents of the buffer. -/
def bacnetStorageKeyEncode (platform : StoragePlatform) (bufferSize : ℕ)
    (key : BacnetStorageKey) : Int × CString :=
  if key.arrayIndex = bacnetStorageArrayIndexNone then
    snprintf bufferSize
      (platform.baseName ++ settingsNameSeparator ::
        (Nat.toDigits 10 key.objectType.toNat ++ settingsNameSeparator ::
          (Nat.toDigits 10 key.objectInstance.toNat ++ settingsNameSeparator ::
            Nat.toDigits 10 key.propertyId.toNat)))
  else
    snprintf bufferSize
      (platform.baseName ++ settingsNameSeparator ::
        (Nat.toDigits 10 key.objectType.toNat ++ settingsNameSeparator ::
          (Nat.toDigits 10 key.objectInstance.toNat ++ settingsNameSeparator ::
            (Nat.toDigits 10 key.propertyId.toNat ++ settingsNameSeparator ::
              Nat.toDigits 10 key.arrayIndex.toNat))))

/--
One component of `bacnet_storage_key_decode`: the name must not be null, the
component must fit its buffer, and all of it must convert.
-/
def decodeComponent (platform : StoragePlatform) (name : Option CString) (nextLen : ℕ) :
    Option ℕ :=
  match name with
  | none => none
  | some name =>
      if nextLen + 1 > settingsMaxDirDepth + 1 then none
      else bacnetStorageStrtoul platform (name.take nextLen)

def stripBaseName (platform : StoragePlatform) (name : Option CString) : Option CString :=
  match platform.names.nameSteq name platform.baseName with
  | (true, some next) => some next
  | _ => name

/--
`bacnet_storage_key_decode`: the value returned and the key. Fields decoded before
an error stay in the key.
-/
def bacnetStorageKeyDecode (platform : StoragePlatform) (name : Option CString)
    (key : BacnetStorageKey) : Int × BacnetStorageKey :=
  let name := stripBaseName platform name
  let (nextLen, next) := platform.names.nameNext name
  match decodeComponent platform name nextLen with
  | none => (-Errno.einval, key)
  | some value =>
      let key := { key with objectType := UInt16.ofNat value }
      let name := next
      let (nextLen, next) := platform.names.nameNext name
      match decodeComponent platform name nextLen with
      | none => (-Errno.einval, key)
      | some value =>
          let key := { key with objectInstance := UInt32.ofNat value }
          let name := next
          let (nextLen, next) := platform.names.nameNext name
          match decodeComponent platform name nextLen with
          | none => (-Errno.einval, key)
          | some value =>
              let key := { key with
                propertyId := UInt32.ofNat value
                arrayIndex := bacnetStorageArrayIndexNone }
              let name := next
              let (nextLen, _) := platform.names.nameNext name
              -- the array index is the only component that may be missing
              if name = none then (0, key)
              else
                match decodeComponent platform name nextLen with
                | none => (-Errno.einval, key)
                | some value => (0, { key with arrayIndex := UInt32.ofNat value })

/-! ## The rendering of a key -/

def keyPath (key : BacnetStorageKey) : CString :=
  Nat.toDigits 10 key.objectType.toNat ++ settingsNameSeparator ::
    (Nat.toDigits 10 key.objectInstance.toNat ++ settingsNameSeparator ::
      (Nat.toDigits 10 key.propertyId.toNat ++
        if key.arrayIndex = bacnetStorageArrayIndexNone then []
        else settingsNameSeparator :: Nat.toDigits 10 key.arrayIndex.toNat))

def keyName (baseName : CString) (key : BacnetStorageKey) : CString :=
  baseName ++ settingsNameSeparator :: keyPath key

theorem bacnetStorageKeyEncode_eq (platform : StoragePlatform) (bufferSize : ℕ)
    (key : BacnetStorageKey) :
    bacnetStorageKeyEncode platform bufferSize key =
      snprintf bufferSize (keyName platform.baseName key) := by
  by_cases none : key.arrayIndex = bacnetStorageArrayIndexNone
  · simp [bacnetStorageKeyEncode, keyName, keyPath, none]
  · simp [bacnetStorageKeyEncode, keyName, keyPath, none]

theorem length_keyPath_le (key : BacnetStorageKey) : (keyPath key).length ≤ 38 := by
  have typeLength : (Nat.toDigits 10 key.objectType.toNat).length ≤ 5 := by
    apply (Nat.length_toDigits_le_iff (by decide) (by decide)).mpr
    have := key.objectType.toNat_lt
    omega
  have instanceLength := length_toDigits_uint32 key.objectInstance
  have propertyLength := length_toDigits_uint32 key.propertyId
  have indexLength := length_toDigits_uint32 key.arrayIndex
  simp only [keyPath, List.length_append, List.length_cons]
  split
  · simp only [List.length_nil]
    omega
  · simp only [List.length_cons]
    omega

/-- The name buffer holds the whole name of the key. -/
def NameFits (platform : StoragePlatform) (key : BacnetStorageKey) : Prop :=
  (keyName platform.baseName key).length ≤ settingsMaxNameLen

instance (platform : StoragePlatform) (key : BacnetStorageKey) :
    Decidable (NameFits platform key) :=
  inferInstanceAs (Decidable (_ ≤ _))

theorem bacnetStorageKeyEncode_of_fits {platform : StoragePlatform} {key : BacnetStorageKey}
    (fits : NameFits platform key) :
    bacnetStorageKeyEncode platform (settingsMaxNameLen + 1) key =
      (((keyName platform.baseName key).length : Int), keyName platform.baseName key) := by
  rw [bacnetStorageKeyEncode_eq]
  exact snprintf_of_fits (Nat.lt_succ_of_le fits)

/-- A base name of up to 25 characters leaves room for every key. -/
theorem nameFits_of_short {platform : StoragePlatform}
    (short : platform.baseName.length ≤ 25) (key : BacnetStorageKey) :
    NameFits platform key := by
  have := length_keyPath_le key
  simp only [NameFits, keyName, List.length_append, List.length_cons, settingsMaxNameLen]
  omega

theorem bacnetStorageKeyEncode_of_short {platform : StoragePlatform}
    (short : platform.baseName.length ≤ 25) (key : BacnetStorageKey) :
    bacnetStorageKeyEncode platform (settingsMaxNameLen + 1) key =
      (((keyName platform.baseName key).length : Int), keyName platform.baseName key) :=
  bacnetStorageKeyEncode_of_fits (nameFits_of_short short key)

theorem separator_notMem_toDigits (number : ℕ) :
    settingsNameSeparator ∉ Nat.toDigits 10 number :=
  notMem_toDigits (by decide)

theorem keyPath_injective : Function.Injective keyPath := by
  rintro ⟨objectType, objectInstance, propertyId, arrayIndex⟩
    ⟨objectType', objectInstance', propertyId', arrayIndex'⟩ equal
  simp only [keyPath] at equal
  have first := append_separator_inj (separator_notMem_toDigits _)
    (separator_notMem_toDigits _) equal
  have second := append_separator_inj (separator_notMem_toDigits _)
    (separator_notMem_toDigits _) first.2
  obtain rfl : objectType = objectType' := UInt16.toNat_inj.mp (toDigits_injective first.1)
  obtain rfl : objectInstance = objectInstance' := UInt32.toNat_inj.mp (toDigits_injective second.1)
  have last := second.2
  split at last <;> split at last
  · rename_i none none'
    simp only [List.append_nil] at last
    obtain rfl : propertyId = propertyId' := UInt32.toNat_inj.mp (toDigits_injective last)
    rw [none, none']
  · -- only one side has a separator left
    exfalso
    apply separator_notMem_toDigits propertyId.toNat
    rw [List.append_nil] at last
    simp [last]
  · exfalso
    apply separator_notMem_toDigits propertyId'.toNat
    rw [List.append_nil] at last
    simp [← last]
  · have third := append_separator_inj (separator_notMem_toDigits _)
      (separator_notMem_toDigits _) last
    obtain rfl : propertyId = propertyId' := UInt32.toNat_inj.mp (toDigits_injective third.1)
    obtain rfl : arrayIndex = arrayIndex' := UInt32.toNat_inj.mp (toDigits_injective third.2)
    rfl

theorem keyName_injective (baseName : CString) : Function.Injective (keyName baseName) := by
  intro left right equal
  apply keyPath_injective
  have := List.append_cancel_left equal
  simpa using this

/-! ## Reading a rendering back -/

section Decode

variable (platform : StoragePlatform)

theorem lt_ulongMax_of_short {number : ℕ} (short : number < 10 ^ settingsMaxDirDepth) :
    number < ulongMax platform.ulongBits := by
  simp only [settingsMaxDirDepth] at short
  rcases platform.ulongBits_range with bits | bits
  · rw [bits]
    simp only [ulongMax]
    omega
  · rw [bits]
    simp only [ulongMax]
    omega

theorem bacnetStorageStrtoul_toDigits {number : ℕ} (short : number < 10 ^ settingsMaxDirDepth) :
    bacnetStorageStrtoul platform (Nat.toDigits 10 number) = some number := by
  have fits := lt_ulongMax_of_short platform short
  have notEmpty := @Nat.length_toDigits_pos 10 number
  simp [bacnetStorageStrtoul, strtoul_toDigits fits.le, fits.ne, notEmpty.ne]

/-- A rendered number is a valid component exactly when it has at most eight digits. -/
theorem decodeComponent_toDigits (number : ℕ) (rest : CString) :
    decodeComponent platform (some (Nat.toDigits 10 number ++ rest))
        (Nat.toDigits 10 number).length =
      if number < 10 ^ settingsMaxDirDepth then some number else none := by
  have fits := @Nat.length_toDigits_le_iff 10 number settingsMaxDirDepth (by decide) (by decide)
  simp only [decodeComponent, List.take_left]
  by_cases short : number < 10 ^ settingsMaxDirDepth
  · have := fits.mpr short
    rw [if_neg (by omega), if_pos short, bacnetStorageStrtoul_toDigits platform short]
  · have := mt fits.mp short
    rw [if_pos (by omega), if_neg short]

theorem decodeComponent_toDigits_nil (number : ℕ) :
    decodeComponent platform (some (Nat.toDigits 10 number)) (Nat.toDigits 10 number).length =
      if number < 10 ^ settingsMaxDirDepth then some number else none := by
  simpa using decodeComponent_toDigits platform number []

theorem nameNext_toDigits (number : ℕ) :
    platform.names.nameNext (some (Nat.toDigits 10 number)) =
      ((Nat.toDigits 10 number).length, none) :=
  platform.names.nameNext_component (inComponent_toDigits number)

theorem nameNext_toDigits_append (number : ℕ) (rest : CString) :
    platform.names.nameNext (some (Nat.toDigits 10 number ++ settingsNameSeparator :: rest)) =
      ((Nat.toDigits 10 number).length, some rest) :=
  platform.names.nameNext_append (inComponent_toDigits number) rest

theorem objectType_short (objectType : UInt16) :
    objectType.toNat < 10 ^ settingsMaxDirDepth := by
  have := objectType.toNat_lt
  simp only [settingsMaxDirDepth]
  omega

/-- The components of the key fit the buffers of the decoder. -/
structure BacnetStorageKey.Short (key : BacnetStorageKey) : Prop where
  objectInstance : key.objectInstance.toNat < 10 ^ settingsMaxDirDepth
  propertyId : key.propertyId.toNat < 10 ^ settingsMaxDirDepth
  arrayIndex : key.arrayIndex = bacnetStorageArrayIndexNone ∨
    key.arrayIndex.toNat < 10 ^ settingsMaxDirDepth

theorem stripBaseName_path {path : CString}
    (notBelow : ¬AtOrBelow settingsNameSeparator platform.baseName path)
    (notEnd : ¬AtOrBelow settingsNameEnd platform.baseName path) :
    stripBaseName platform (some path) = some path := by
  simp [stripBaseName, platform.names.nameSteq_other path _ notBelow notEnd]

theorem stripBaseName_keyName (noEnd : settingsNameEnd ∉ platform.baseName)
    (key : BacnetStorageKey) :
    stripBaseName platform (some (keyName platform.baseName key)) = some (keyPath key) := by
  simp [stripBaseName, keyName, platform.names.nameSteq_below _ _ noEnd]

/-- A key whose components fit is read back, whatever the key held before. -/
theorem bacnetStorageKeyDecode_keyPath {key : BacnetStorageKey} (short : key.Short)
    {name : Option CString} (stripped : stripBaseName platform name = some (keyPath key))
    (initial : BacnetStorageKey) :
    bacnetStorageKeyDecode platform name initial = (0, key) := by
  rcases key with ⟨objectType, objectInstance, propertyId, arrayIndex⟩
  simp only [bacnetStorageKeyDecode, stripped, keyPath, nameNext_toDigits_append,
    decodeComponent_toDigits, objectType_short, short.objectInstance, if_true]
  have propertyShort := short.propertyId
  simp only at propertyShort
  by_cases none : arrayIndex = bacnetStorageArrayIndexNone
  · simp [none, nameNext_toDigits, decodeComponent_toDigits_nil, propertyShort]
  · have indexShort : arrayIndex.toNat < 10 ^ settingsMaxDirDepth := by
      rcases short.arrayIndex with isNone | indexShort
      · exact absurd isNone none
      · exact indexShort
    simp [none, nameNext_toDigits_append, nameNext_toDigits, decodeComponent_toDigits,
      decodeComponent_toDigits_nil, propertyShort, indexShort]

theorem bacnetStorageKeyDecode_keyPath_error {key : BacnetStorageKey} (long : ¬key.Short)
    {name : Option CString} (stripped : stripBaseName platform name = some (keyPath key))
    (initial : BacnetStorageKey) :
    (bacnetStorageKeyDecode platform name initial).1 = -Errno.einval := by
  rcases key with ⟨objectType, objectInstance, propertyId, arrayIndex⟩
  simp only [bacnetStorageKeyDecode, stripped, keyPath, nameNext_toDigits_append,
    decodeComponent_toDigits, objectType_short, if_true]
  by_cases instanceShort : objectInstance.toNat < 10 ^ settingsMaxDirDepth
  · simp only [instanceShort, if_true]
    by_cases none : arrayIndex = bacnetStorageArrayIndexNone
    · have propertyLong : ¬propertyId.toNat < 10 ^ settingsMaxDirDepth :=
        fun propertyShort => long ⟨instanceShort, propertyShort, Or.inl none⟩
      simp [none, nameNext_toDigits, decodeComponent_toDigits_nil, propertyLong]
    · simp only [none, if_false, nameNext_toDigits_append, decodeComponent_toDigits]
      by_cases propertyShort : propertyId.toNat < 10 ^ settingsMaxDirDepth
      · have indexLong : ¬arrayIndex.toNat < 10 ^ settingsMaxDirDepth :=
          fun indexShort => long ⟨instanceShort, propertyShort, Or.inr indexShort⟩
        simp [propertyShort, nameNext_toDigits, decodeComponent_toDigits_nil, indexLong]
      · simp [propertyShort]
  · simp [instanceShort]

theorem mem_keyPath {key : BacnetStorageKey} {character : Char} (mem : character ∈ keyPath key) :
    character.isDigit ∨ character = settingsNameSeparator := by
  simp only [keyPath, List.mem_append, List.mem_cons] at mem
  rcases mem with digit | rfl | digit | rfl | digit | mem
  · exact Or.inl (isDigit_of_mem_toDigits digit)
  · exact Or.inr rfl
  · exact Or.inl (isDigit_of_mem_toDigits digit)
  · exact Or.inr rfl
  · exact Or.inl (isDigit_of_mem_toDigits digit)
  · split at mem
    · simp at mem
    · rcases List.mem_cons.mp mem with rfl | digit
      · exact Or.inr rfl
      · exact Or.inl (isDigit_of_mem_toDigits digit)

/-- A base name with a character other than digits and separators starts no rendered key. -/
theorem stripBaseName_keyPath
    (special : ∃ c ∈ platform.baseName, c.isDigit = false ∧ c ≠ settingsNameSeparator)
    (key : BacnetStorageKey) :
    stripBaseName platform (some (keyPath key)) = some (keyPath key) := by
  have noPrefix : ¬platform.baseName <+: keyPath key := by
    intro isPrefix
    rcases special with ⟨character, mem, notDigit, notSeparator⟩
    rcases mem_keyPath (isPrefix.subset mem) with digit | separator
    · rw [digit] at notDigit
      contradiction
    · exact notSeparator separator
  exact stripBaseName_path platform (fun below => noPrefix below.isPrefix)
    (fun below => noPrefix below.isPrefix)

/-- A key is decoded from its path alone exactly when its components fit. -/
theorem bacnetStorageKeyDecode_eq_iff {name : Option CString} {key : BacnetStorageKey}
    (stripped : stripBaseName platform name = some (keyPath key)) (initial : BacnetStorageKey) :
    bacnetStorageKeyDecode platform name initial = (0, key) ↔ key.Short := by
  constructor
  · intro decoded
    by_contra long
    have failed := bacnetStorageKeyDecode_keyPath_error platform long stripped initial
    rw [decoded] at failed
    simp [Errno.einval] at failed
  · intro short
    exact bacnetStorageKeyDecode_keyPath platform short stripped initial

/--
Decoding the rendering of the key returns 0 and the key, on the full name and on the
path a handler receives.
-/
def RoundTrips (key initial : BacnetStorageKey) : Prop :=
  let written := (bacnetStorageKeyEncode platform (settingsMaxNameLen + 1) key).2
  bacnetStorageKeyDecode platform (some written) initial = (0, key) ∧
    bacnetStorageKeyDecode platform (some (written.drop (platform.baseName.length + 1))) initial =
      (0, key)

/--
Decoding undoes encoding exactly for the keys whose property identifier and array
index have at most eight digits.
-/
theorem roundTrips_iff (base : platform.baseName = bacnetSettingsBaseName)
    (key initial : BacnetStorageKey) (instanceRange : key.objectInstance.toNat ≤ 4194303) :
    RoundTrips platform key initial ↔
      key.propertyId.toNat < 10 ^ settingsMaxDirDepth ∧
        (key.arrayIndex = bacnetStorageArrayIndexNone ∨
          key.arrayIndex.toNat < 10 ^ settingsMaxDirDepth) := by
  have short : platform.baseName.length ≤ 25 := by
    rw [base]
    decide
  have special : ∃ c ∈ platform.baseName, c.isDigit = false ∧ c ≠ settingsNameSeparator := by
    rw [base]
    exact ⟨'.', by decide, by decide, by decide⟩
  have noEnd : settingsNameEnd ∉ platform.baseName := by
    rw [base]
    decide
  have path : (keyName platform.baseName key).drop (platform.baseName.length + 1) =
      keyPath key := by
    simp [keyName, List.drop_append]
  rw [RoundTrips, bacnetStorageKeyEncode_of_short short, path,
    bacnetStorageKeyDecode_eq_iff platform (stripBaseName_keyName platform noEnd key),
    bacnetStorageKeyDecode_eq_iff platform (stripBaseName_keyPath platform special key), and_self]
  constructor
  · intro fits
    exact ⟨fits.propertyId, fits.arrayIndex⟩
  · rintro ⟨propertyShort, indexShort⟩
    refine ⟨?_, propertyShort, indexShort⟩
    simp only [settingsMaxDirDepth]
    omega

end Decode

/-- The largest instance with a proprietary property of three digits. -/
theorem roundTrips_iff_proprietary :
    let key := bacnetStorageKeyInit 2 4194303 512 bacnetStorageArrayIndexNone
    RoundTrips (StoragePlatform.reference bacnetSettingsBaseName) key key ↔
      key.propertyId.toNat < 10 ^ settingsMaxDirDepth ∧
        (key.arrayIndex = bacnetStorageArrayIndexNone ∨
          key.arrayIndex.toNat < 10 ^ settingsMaxDirDepth) :=
  roundTrips_iff (StoragePlatform.reference bacnetSettingsBaseName) rfl
    (bacnetStorageKeyInit 2 4194303 512 bacnetStorageArrayIndexNone) _ (by decide)

/-- A property identifier of nine digits is written but not read back. -/
theorem not_roundTrips_nine_digits :
    ¬RoundTrips (StoragePlatform.reference bacnetSettingsBaseName)
      (bacnetStorageKeyInit 2 1001 100000000 bacnetStorageArrayIndexNone)
      (bacnetStorageKeyInit 0 0 0 0) := by
  unfold RoundTrips
  decide

end BacnetZephyr
