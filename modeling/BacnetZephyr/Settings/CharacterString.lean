import BacnetZephyr.Storage.Load
import Mathlib.Tactic.IntervalCases

/-!
# Character string settings

`bacnet_settings_characterstring_ansi_set` converts a C string and stores it as an
application value, `bacnet_settings_characterstring_get` reads it back or falls back
to a default.

The setter stores only when the conversion fails. A value stored with
`bacnet_settings_value_set` comes back through the getter, so the setter alone loses
it: `not_characterstringKept` holds for every string that can be converted.
-/

namespace BacnetZephyr

open CLib NamedStore

/-- What the settings take from the BACnet library about values and character strings. -/
structure ApplicationValues where
  Value : Type
  CharacterString : Type
  /-- The C string a character string holds. -/
  text : CharacterString → CString
  /-- `characterstring_init_ansi`: the status, and the string it leaves. -/
  characterstringInitAnsi : CString → Bool × CharacterString
  /-- The application value with the tag and the contents of a character string. -/
  characterStringValue : CharacterString → Value
  /-- The bytes `bacapp_encode_application_data` writes; none when it fails. -/
  encodeApplicationData : Value → List UInt8
  /-- `bacnet_character_string_application_decode`: the length, and the string it leaves. -/
  characterStringDecode : List UInt8 → Int × CharacterString
  text_characterstringInitAnsi : ∀ cstring, (characterstringInitAnsi cstring).1 = true →
    text (characterstringInitAnsi cstring).2 = cstring
  decode_encode : ∀ string,
    characterStringDecode (encodeApplicationData (characterStringValue string)) =
      (((encodeApplicationData (characterStringValue string)).length : Int), string)
  encode_nonempty : ∀ string, encodeApplicationData (characterStringValue string) ≠ []

section Settings

variable (platform : StoragePlatform) (backend : SettingsBackend) (values : ApplicationValues)

def bacnetSettingsValueSet (store : backend.Store) (objectType : UInt16)
    (objectInstance propertyId arrayIndex : UInt32) (value : values.Value) :
    Bool × backend.Store :=
  let key := bacnetStorageKeyInit objectType objectInstance propertyId arrayIndex
  let name := values.encodeApplicationData value
  if name.length = 0 then (false, store)
  else if name.length > bacnetStorageValueSizeMax then (false, store)
  else
    let (rc, store) := bacnetStorageSet platform backend store key name
    (rc = 0, store)

/-- `bacnet_settings_characterstring_get`: the length returned and the value. -/
def bacnetSettingsCharacterstringGet (store : backend.Store) (objectType : UInt16)
    (objectInstance propertyId arrayIndex : UInt32) (defaultValue : CString) :
    Int × values.CharacterString :=
  let name := List.replicate (bacnetStorageValueSizeMax + 1) 0
  let key := bacnetStorageKeyInit objectType objectInstance propertyId arrayIndex
  let (storedLen, name) := bacnetStorageGet platform backend store key name
  if storedLen > 0 then
    let (len, value) := values.characterStringDecode (name.take storedLen.toNat)
    if len ≤ 0 then (storedLen, (values.characterstringInitAnsi defaultValue).2)
    else (storedLen, value)
  else (storedLen, (values.characterstringInitAnsi defaultValue).2)

def bacnetSettingsCharacterstringAnsiSet (store : backend.Store) (objectType : UInt16)
    (objectInstance propertyId arrayIndex : UInt32) (cstring : CString) : Bool × backend.Store :=
  let (status, string) := values.characterstringInitAnsi cstring
  if !status then
    bacnetSettingsValueSet platform backend values store objectType objectInstance propertyId
      arrayIndex (values.characterStringValue string)
  else (status, store)

end Settings

/-- A backend with a record of the values saved successfully, the newest first. -/
def SettingsBackend.recording (backend : SettingsBackend) : SettingsBackend where
  Store := backend.Store × List (CString × List UInt8)
  lookup := fun store => backend.lookup store.1
  saveOne := fun store name value =>
    let (rc, saved) := backend.saveOne store.1 name value
    (rc, (saved, if rc = 0 then (name, value) :: store.2 else store.2))
  delete := fun store name =>
    let (rc, deleted) := backend.delete store.1 name
    (rc, (deleted, store.2))
  subtree := fun store => backend.subtree store.1
  loadResult := fun store => backend.loadResult store.1
  saveOne_saved := fun store => backend.saveOne_saved store.1
  saveOne_other := fun store => backend.saveOne_other store.1
  delete_deleted := fun store => backend.delete_deleted store.1
  delete_other := fun store => backend.delete_other store.1
  subtree_nodup := fun store => backend.subtree_nodup store.1
  mem_subtree := fun store => backend.mem_subtree store.1

/--
The setter reports success exactly when it has saved the encoded string, and then the
getter returns a positive length and the string.
-/
structure CharacterstringKept (platform : StoragePlatform) (backend : SettingsBackend)
    (values : ApplicationValues) (store : backend.Store) (key : BacnetStorageKey)
    (defaultValue cstring : CString) : Prop where
  written :
    let string := (values.characterstringInitAnsi cstring).2
    let encoded := values.encodeApplicationData (values.characterStringValue string)
    let result := bacnetSettingsCharacterstringAnsiSet platform backend.recording values
      (store, []) key.objectType key.objectInstance key.propertyId key.arrayIndex cstring
    result.1 = true ↔ encoded ∈ result.2.2.map Prod.snd
  got :
    let (status, store) := bacnetSettingsCharacterstringAnsiSet platform backend values store
      key.objectType key.objectInstance key.propertyId key.arrayIndex cstring
    let (storedLen, value) := bacnetSettingsCharacterstringGet platform backend values store
      key.objectType key.objectInstance key.propertyId key.arrayIndex defaultValue
    status = true →
    backend.loadResult store
      (bacnetStorageKeyEncode platform (settingsMaxNameLen + 1) key).2 = 0 →
    0 < storedLen ∧ values.text value = cstring

section Getter

variable {platform : StoragePlatform} {backend : SettingsBackend} {values : ApplicationValues}
  {contents : BacnetStorageKey → Option (List UInt8)}

/-- A successful set of a value stores its encoding, which fits the buffer of the getters. -/
theorem bacnetSettingsValueSet_stored {store stored : backend.Store}
    {contents : BacnetStorageKey → Option (List UInt8)} {key : BacnetStorageKey}
    (nameFits : NameFits platform key)
    (invariant : StoreInvariant platform backend store contents) {value : values.Value}
    (set : bacnetSettingsValueSet platform backend values store key.objectType
      key.objectInstance key.propertyId key.arrayIndex value = (true, stored)) :
    StoreInvariant platform backend stored
        (Function.update contents key (some (values.encodeApplicationData value))) ∧
      (values.encodeApplicationData value).length ≤ bacnetStorageValueSizeMax := by
  have same : bacnetStorageKeyInit key.objectType key.objectInstance key.propertyId
      key.arrayIndex = key := rfl
  simp only [bacnetSettingsValueSet, same] at set
  split at set
  · cases set
  · rename_i nonempty
    split at set
    · cases set
    · rename_i fits
      rw [Prod.mk.injEq, decide_eq_true_eq] at set
      refine ⟨invariant.set nameFits ?_ (Prod.ext set.1 set.2), Nat.not_lt.mp fits⟩
      exact fun empty => nonempty (List.length_eq_zero_iff.mpr empty)

end Getter

/-! ## Character strings as in the standard -/

/-- The largest number of bytes in a `BACNET_CHARACTER_STRING`. -/
abbrev maxCharacterStringBytes : ℕ := 475

/-- The tag and the length before the character set and the bytes of a character string. -/
def characterStringTag (length : ℕ) : List UInt8 :=
  if length + 1 < 5 then [UInt8.ofNat (0x70 + length + 1)]
  else if length + 1 < 254 then [0x75, UInt8.ofNat (length + 1)]
  else [0x75, 254, UInt8.ofNat ((length + 1) / 256), UInt8.ofNat ((length + 1) % 256)]

/-- The number of bytes before the bytes of an encoded character string. -/
def characterStringTagLength : List UInt8 → ℕ
  | 0x75 :: 254 :: _ => 5
  | 0x75 :: _ => 3
  | _ => 2

theorem characterStringTagLength_append {length : ℕ} (fits : length ≤ maxCharacterStringBytes)
    (rest : List UInt8) :
    characterStringTagLength (characterStringTag length ++ rest) =
      (characterStringTag length).length + 1 := by
  simp only [maxCharacterStringBytes] at fits
  unfold characterStringTag
  split
  · have short : length < 4 := by omega
    clear fits
    interval_cases length <;> rfl
  · split
    · rename_i medium
      have notLong : UInt8.ofNat (length + 1) ≠ 254 := by
        intro equal
        have := congrArg UInt8.toNat equal
        simp at this
        omega
      simp only [List.cons_append, List.nil_append]
      unfold characterStringTagLength
      split
      · rename_i equal
        simp only [List.cons.injEq, true_and] at equal
        exact absurd equal.1 notLong
      · rfl
      · rename_i other
        exact absurd rfl (other _)
    · rfl

/-- ASCII strings with the encoding of the standard, for strings of up to 475 bytes. -/
def ApplicationValues.reference : ApplicationValues where
  Value := { bytes : List UInt8 // bytes.length ≤ maxCharacterStringBytes }
  CharacterString := { bytes : List UInt8 // bytes.length ≤ maxCharacterStringBytes }
  text := fun string => string.val.map fun byte => Char.ofNat byte.toNat
  characterstringInitAnsi := fun cstring =>
    if fits : cstring.length ≤ maxCharacterStringBytes ∧ cstring.all (·.toNat < 256) then
      (true, ⟨cstring.map fun c => UInt8.ofNat c.toNat, by simpa using fits.1⟩)
    else (false, ⟨[], by simp⟩)
  characterStringValue := id
  encodeApplicationData := fun value =>
    characterStringTag value.val.length ++ 0 :: value.val
  characterStringDecode := fun apdu =>
    (apdu.length, ⟨(apdu.drop (characterStringTagLength apdu)).take maxCharacterStringBytes,
      List.length_take_le _ _⟩)
  text_characterstringInitAnsi := by
    intro cstring status
    by_cases fits : cstring.length ≤ maxCharacterStringBytes ∧ cstring.all (·.toNat < 256)
    · rw [dif_pos fits, List.map_map]
      conv_rhs => rw [← List.map_id cstring]
      apply List.map_congr_left
      intro c mem
      have byte := List.all_eq_true.mp fits.2 c mem
      have small : c.toNat % 256 = c.toNat := Nat.mod_eq_of_lt (of_decide_eq_true byte)
      simp [small]
    · rw [dif_neg fits] at status
      cases status
  decode_encode := by
    rintro ⟨bytes, fits⟩
    have tag := characterStringTagLength_append fits (0 :: bytes)
    have dropped : (characterStringTag bytes.length ++ 0 :: bytes).drop
        ((characterStringTag bytes.length).length + 1) = bytes := by
      simp
    simp only [id, tag, dropped, List.take_of_length_le fits]
  encode_nonempty := by simp

/--
For no string that can be converted does the setter do what it reports: it returns true
and saves nothing.
-/
theorem not_characterstringKept (platform : StoragePlatform) (backend : SettingsBackend)
    (values : ApplicationValues) (store : backend.Store) (key : BacnetStorageKey)
    (defaultValue : CString) {cstring : CString}
    (fits : (values.characterstringInitAnsi cstring).1 = true) :
    ¬CharacterstringKept platform backend values store key defaultValue cstring := by
  intro kept
  have written := kept.written
  simp [bacnetSettingsCharacterstringAnsiSet, fits] at written

/-- The name of a device is reported as stored, and lost. -/
theorem not_characterstringKept_name :
    ¬CharacterstringKept (StoragePlatform.reference bacnetSettingsBaseName)
      SettingsBackend.reference ApplicationValues.reference ⟨[], by simp⟩
      (bacnetStorageKeyInit 8 200 77 bacnetStorageArrayIndexNone) "none".toList "B-ASC".toList :=
  not_characterstringKept _ _ _ _ _ _ (by decide)

/-- After the setter has returned true, the getter finds no entry. -/
theorem bacnetSettingsCharacterstringGet_lost :
    let platform := StoragePlatform.reference bacnetSettingsBaseName
    let values := ApplicationValues.reference
    let result := bacnetSettingsCharacterstringAnsiSet platform SettingsBackend.reference values
      ⟨[], by simp⟩ 8 200 77 bacnetStorageArrayIndexNone "B-ASC".toList
    let got := bacnetSettingsCharacterstringGet platform SettingsBackend.reference values result.2
      8 200 77 bacnetStorageArrayIndexNone "none".toList
    result.1 = true ∧ got.1 = -Errno.enoent ∧ values.text got.2 = "none".toList := by
  decide

end BacnetZephyr
