import BacnetZephyr.Settings.CharacterString
import BacnetZephyr.Settings.ValueParse

/-!
# Settings of one type

`bacnet_settings_real_get` decodes what is stored with the decoder of all types and looks
at the tag. `bacnet_settings_unsigned_get` and `bacnet_settings_signed_get` use the decoder
of their own type. `typedSettings_kept` says that they agree: a value of the own type is
returned, and everything else gives the default.
-/

namespace BacnetZephyr

open CLib NamedStore

/-- A value decodes to its own type and content after it is encoded. -/
structure DecodesEncoded {Value Content : Type} (decode : List UInt8 → Int × Value)
    (ownTag : Value → Prop) (member : Value → Content) (encode : Content → List UInt8) : Prop where
  positive : ∀ content, 0 < (decode (encode content)).1
  ownTag : ∀ content, ownTag (decode (encode content)).2
  content : ∀ content, member (decode (encode content)).2 = content

theorem DecodesEncoded.of_eq {Value Content : Type} {decode : List UInt8 → Int × Value}
    {ownTag : Value → Prop} {member : Value → Content} {encode : Content → List UInt8} {len : Int}
    {value : Content → Value} (positive : 0 < len)
    (decodes : ∀ content, decode (encode content) = (len, value content))
    (own : ∀ content, ownTag (value content))
    (content : ∀ content, member (value content) = content) :
    DecodesEncoded decode ownTag member encode where
  positive other := by
    rw [decodes]
    exact positive
  ownTag other := by
    rw [decodes]
    exact own other
  content other := by
    rw [decodes]
    exact content other

/-- The decoder of one type takes what decodes to that type, and rejects everything else. -/
structure DecodesOwnType {Value Content : Type} (decode : List UInt8 → Int × Value)
    (ownTag : Value → Prop) (member : Value → Content)
    (typedDecode : List UInt8 → Content → Int × Content) : Prop where
  accepts : ∀ apdu value, 0 < (typedDecode apdu value).1 ↔
    0 < (decode apdu).1 ∧ ownTag (decode apdu).2
  content : ∀ apdu value, 0 < (typedDecode apdu value).1 →
    (typedDecode apdu value).2 = member (decode apdu).2

/-- What the settings take from the BACnet library about values of the three types. -/
structure TypedValues extends ApplicationValues where
  Real : Type
  /-- A value filled with zeros. -/
  zero : Value
  tag : Value → UInt8
  withTag : UInt8 → Value → Value
  /-- The members of the union. -/
  real : Value → Real
  unsignedInt : Value → UInt64
  signedInt : Value → Int32
  /-- The application value with the tag and the member of a type. -/
  realValue : Real → Value
  unsignedIntValue : UInt64 → Value
  signedIntValue : Int32 → Value
  /-- `bacapp_decode_application_data(apdu, apdu_len, &value)`. -/
  decodeApplicationData : List UInt8 → Value → Int × Value
  unsignedApplicationDecode : List UInt8 → UInt64 → Int × UInt64
  signedApplicationDecode : List UInt8 → Int32 → Int × Int32
  tag_zero : tag zero = tagNull
  tag_withTag : ∀ newTag value, tag (withTag newTag value) = newTag
  decode_le : ∀ apdu value, (decodeApplicationData apdu value).1 ≤ apdu.length
  decode_realValue : DecodesEncoded (fun apdu => decodeApplicationData apdu zero)
    (fun value => tag value = tagReal) real
    (fun content => encodeApplicationData (realValue content))
  decode_unsignedIntValue : DecodesEncoded (fun apdu => decodeApplicationData apdu zero)
    (fun value => tag value = tagUnsignedInt) unsignedInt
    (fun content => encodeApplicationData (unsignedIntValue content))
  decode_signedIntValue : DecodesEncoded (fun apdu => decodeApplicationData apdu zero)
    (fun value => tag value = tagSignedInt) signedInt
    (fun content => encodeApplicationData (signedIntValue content))
  unsignedApplicationDecode_own : DecodesOwnType (fun apdu => decodeApplicationData apdu zero)
    (fun value => tag value = tagUnsignedInt) unsignedInt unsignedApplicationDecode
  signedApplicationDecode_own : DecodesOwnType (fun apdu => decodeApplicationData apdu zero)
    (fun value => tag value = tagSignedInt) signedInt signedApplicationDecode

def maxBacnetApplicationTag : UInt8 := 16

/-! ## The getters and the setters -/

section Settings

variable (platform : StoragePlatform) (backend : SettingsBackend) (values : TypedValues)
  (store : backend.Store) (objectType : UInt16) (objectInstance propertyId arrayIndex : UInt32)

/-- `bacnet_settings_value_get` into a value. -/
def bacnetSettingsValueGet (value : values.Value) : Int × values.Value :=
  let name := List.replicate (bacnetStorageValueSizeMax + 1) 0
  let key := bacnetStorageKeyInit objectType objectInstance propertyId arrayIndex
  let (storedLen, name) := bacnetStorageGet platform backend store key name
  if storedLen > 0 then
    let (len, value) := values.decodeApplicationData (name.take storedLen.toNat) value
    if len ≤ 0 then (storedLen, values.withTag maxBacnetApplicationTag value)
    else (storedLen, value)
  else (storedLen, value)

/-- The getters write to a variable, which is not null, and return the length. -/
def bacnetSettingsRealGet (defaultValue _value : values.Real) : Int × values.Real :=
  let (storedLen, bvalue) := bacnetSettingsValueGet platform backend values store objectType
    objectInstance propertyId arrayIndex values.zero
  if storedLen ≥ 0 ∧ values.tag bvalue = tagReal then (storedLen, values.real bvalue)
  else (storedLen, defaultValue)

def bacnetSettingsRealSet (value : values.Real) : Bool × backend.Store :=
  bacnetSettingsValueSet platform backend values.toApplicationValues store objectType
    objectInstance propertyId arrayIndex (values.realValue value)

/-- The getters with a decoder of their own. -/
def bacnetSettingsIntegerGet {Content : Type} (decode : List UInt8 → Content → Int × Content)
    (defaultValue value : Content) : Int × Content :=
  let name := List.replicate (bacnetStorageValueSizeMax + 1) 0
  let key := bacnetStorageKeyInit objectType objectInstance propertyId arrayIndex
  let (storedLen, name) := bacnetStorageGet platform backend store key name
  if storedLen > 0 then
    let (len, value) := decode (name.take storedLen.toNat) value
    if len ≤ 0 then (storedLen, defaultValue) else (storedLen, value)
  else (storedLen, defaultValue)

def bacnetSettingsUnsignedGet (defaultValue value : UInt64) : Int × UInt64 :=
  bacnetSettingsIntegerGet platform backend store objectType objectInstance propertyId arrayIndex
    values.unsignedApplicationDecode defaultValue value

def bacnetSettingsUnsignedSet (value : UInt64) : Bool × backend.Store :=
  bacnetSettingsValueSet platform backend values.toApplicationValues store objectType
    objectInstance propertyId arrayIndex (values.unsignedIntValue value)

def bacnetSettingsSignedGet (defaultValue value : Int32) : Int × Int32 :=
  bacnetSettingsIntegerGet platform backend store objectType objectInstance propertyId arrayIndex
    values.signedApplicationDecode defaultValue value

def bacnetSettingsSignedSet (value : Int32) : Bool × backend.Store :=
  bacnetSettingsValueSet platform backend values.toApplicationValues store objectType
    objectInstance propertyId arrayIndex (values.signedIntValue value)

end Settings

/-- The value, if the bytes decode to one with the tag. -/
def TypedValues.decodedAs (values : TypedValues) (tag : UInt8) (apdu : List UInt8) :
    Option values.Value :=
  let (len, value) := values.decodeApplicationData apdu values.zero
  if 0 < len ∧ values.tag value = tag then some value else none

/-- The getter and the setter of one type, with its tag and its member of the union. -/
structure TypedSetting (backend : SettingsBackend) (values : TypedValues) (Content : Type) where
  tag : UInt8
  member : values.Value → Content
  value : Content → values.Value
  get : backend.Store → UInt16 → UInt32 → UInt32 → UInt32 → Content → Content → Int × Content
  set : backend.Store → UInt16 → UInt32 → UInt32 → UInt32 → Content → Bool × backend.Store

section Typed

variable (platform : StoragePlatform) (backend : SettingsBackend) (values : TypedValues)

def realSetting : TypedSetting backend values values.Real where
  tag := tagReal
  member := values.real
  value := values.realValue
  get := bacnetSettingsRealGet platform backend values
  set := bacnetSettingsRealSet platform backend values

def unsignedSetting : TypedSetting backend values UInt64 where
  tag := tagUnsignedInt
  member := values.unsignedInt
  value := values.unsignedIntValue
  get := bacnetSettingsUnsignedGet platform backend values
  set := bacnetSettingsUnsignedSet platform backend values

def signedSetting : TypedSetting backend values Int32 where
  tag := tagSignedInt
  member := values.signedInt
  value := values.signedIntValue
  get := bacnetSettingsSignedGet platform backend values
  set := bacnetSettingsSignedSet platform backend values

end Typed

variable {platform : StoragePlatform} {backend : SettingsBackend} {values : TypedValues}
  {Content : Type}

/-- The content of the bytes if they have the type of the setting, and the default if not. -/
def TypedSetting.contentOr (setting : TypedSetting backend values Content) (apdu : List UInt8)
    (defaultValue : Content) : Content :=
  ((values.decodedAs setting.tag apdu).map setting.member).getD defaultValue

/--
A getter gives what the bytes of `bacnet_storage_get` decode to in its type, or the
default, whatever is in its variable before, and gives what its setter stored.
-/
structure TypedSetting.Kept (platform : StoragePlatform)
    (setting : TypedSetting backend values Content) : Prop where
  got : ∀ (store : backend.Store) (key : BacnetStorageKey) (defaultValue value : Content),
    setting.get store key.objectType key.objectInstance key.propertyId key.arrayIndex defaultValue
        value =
      let (storedLen, data) := bacnetStorageGet platform backend store key
        (List.replicate (bacnetStorageValueSizeMax + 1) 0)
      (storedLen, setting.contentOr (data.take storedLen.toNat) defaultValue)
  held : ∀ (store : backend.Store) (contents : BacnetStorageKey → Option (List UInt8))
    (key : BacnetStorageKey) (defaultValue value : Content),
    StoreInvariant platform backend store contents →
    backend.loadResult store (keyName platform.baseName key) = 0 →
    setting.get store key.objectType key.objectInstance key.propertyId key.arrayIndex defaultValue
        value =
      match contents key with
      | none => (-Errno.enoent, defaultValue)
      | some stored =>
          let data := stored.take (bacnetStorageValueSizeMax + 1)
          (data.length, setting.contentOr data defaultValue)
  roundTrip : ∀ (store stored : backend.Store)
    (contents : BacnetStorageKey → Option (List UInt8)) (key : BacnetStorageKey)
    (content defaultValue value : Content),
    StoreInvariant platform backend store contents →
    setting.set store key.objectType key.objectInstance key.propertyId key.arrayIndex content =
      (true, stored) →
    backend.loadResult stored (keyName platform.baseName key) = 0 →
    setting.get stored key.objectType key.objectInstance key.propertyId key.arrayIndex
        defaultValue value =
      (((values.encodeApplicationData (setting.value content)).length : Int), content)

/-! ## What the getters make of the bytes -/

theorem TypedValues.decodedAs_nil (tag : UInt8) : values.decodedAs tag [] = none := by
  have length := values.decode_le [] values.zero
  rw [List.length_nil] at length
  exact if_neg fun decodes => absurd decodes.1 (Int.not_lt.mpr length)

theorem TypedSetting.contentOr_nil (setting : TypedSetting backend values Content)
    (defaultValue : Content) : setting.contentOr [] defaultValue = defaultValue := by
  simp only [TypedSetting.contentOr, values.decodedAs_nil, Option.map_none, Option.getD_none]

theorem TypedSetting.contentOr_of_decodes (setting : TypedSetting backend values Content)
    {apdu : List UInt8} (positive : 0 < (values.decodeApplicationData apdu values.zero).1)
    (ownTag : values.tag (values.decodeApplicationData apdu values.zero).2 = setting.tag)
    (defaultValue : Content) :
    setting.contentOr apdu defaultValue =
      setting.member (values.decodeApplicationData apdu values.zero).2 := by
  simp only [TypedSetting.contentOr, TypedValues.decodedAs, positive, ownTag, true_and, if_true,
    Option.map_some, Option.getD_some]

theorem TypedSetting.contentOr_of_not_decodes (setting : TypedSetting backend values Content)
    {apdu : List UInt8} (fails : ¬(0 < (values.decodeApplicationData apdu values.zero).1 ∧
      values.tag (values.decodeApplicationData apdu values.zero).2 = setting.tag))
    (defaultValue : Content) : setting.contentOr apdu defaultValue = defaultValue := by
  simp only [TypedSetting.contentOr, TypedValues.decodedAs, if_neg fails, Option.map_none,
    Option.getD_none]

/-- A value that does not decode gets a tag that is none of the three. -/
theorem bacnetSettingsRealGet_eq (store : backend.Store) (key : BacnetStorageKey)
    (defaultValue value : values.Real) :
    bacnetSettingsRealGet platform backend values store key.objectType key.objectInstance
        key.propertyId key.arrayIndex defaultValue value =
      let (storedLen, data) := bacnetStorageGet platform backend store key
        (List.replicate (bacnetStorageValueSizeMax + 1) 0)
      (storedLen, (realSetting platform backend values).contentOr (data.take storedLen.toNat)
        defaultValue) := by
  have same : bacnetStorageKeyInit key.objectType key.objectInstance key.propertyId
      key.arrayIndex = key := rfl
  simp only [bacnetSettingsRealGet, bacnetSettingsValueGet, same]
  rcases bacnetStorageGet platform backend store key
    (List.replicate (bacnetStorageValueSizeMax + 1) 0) with ⟨storedLen, data⟩
  by_cases stored : 0 < storedLen
  · simp only [gt_iff_lt, stored, if_true]
    by_cases decodes : 0 < (values.decodeApplicationData (data.take storedLen.toNat) values.zero).1
    · rw [if_neg (Int.not_le.mpr decodes)]
      split
      · rename_i isReal
        rw [(realSetting platform backend values).contentOr_of_decodes decodes isReal.2]
        rfl
      · rename_i other
        rw [(realSetting platform backend values).contentOr_of_not_decodes]
        exact fun own => other ⟨Int.le_of_lt stored, own.2⟩
    · rw [if_pos (Int.not_lt.mp decodes), values.tag_withTag]
      rw [(realSetting platform backend values).contentOr_of_not_decodes fun own => decodes own.1]
      exact if_neg fun isReal => absurd isReal.2 (by decide)
  · have nothing : data.take storedLen.toNat = [] := by
      rw [Int.toNat_of_nonpos (Int.not_lt.mp stored), List.take_zero]
    simp only [gt_iff_lt, stored, if_false, nothing, TypedSetting.contentOr_nil, values.tag_zero]
    exact if_neg fun isReal => absurd isReal.2 (by decide)

/-- A decoder of one type leads to the same as the tag. -/
theorem bacnetSettingsIntegerGet_eq (setting : TypedSetting backend values Content)
    {decode : List UInt8 → Content → Int × Content}
    (own : DecodesOwnType (fun apdu => values.decodeApplicationData apdu values.zero)
      (fun value => values.tag value = setting.tag) setting.member decode)
    (store : backend.Store) (key : BacnetStorageKey) (defaultValue value : Content) :
    bacnetSettingsIntegerGet platform backend store key.objectType key.objectInstance
        key.propertyId key.arrayIndex decode defaultValue value =
      let (storedLen, data) := bacnetStorageGet platform backend store key
        (List.replicate (bacnetStorageValueSizeMax + 1) 0)
      (storedLen, setting.contentOr (data.take storedLen.toNat) defaultValue) := by
  have same : bacnetStorageKeyInit key.objectType key.objectInstance key.propertyId
      key.arrayIndex = key := rfl
  simp only [bacnetSettingsIntegerGet, same]
  rcases bacnetStorageGet platform backend store key
    (List.replicate (bacnetStorageValueSizeMax + 1) 0) with ⟨storedLen, data⟩
  by_cases stored : 0 < storedLen
  · simp only [gt_iff_lt, stored, if_true]
    by_cases decodes : 0 < (decode (data.take storedLen.toNat) value).1
    · have ⟨positive, ownTag⟩ := (own.accepts _ _).mp decodes
      rw [if_neg (Int.not_le.mpr decodes), own.content _ _ decodes,
        setting.contentOr_of_decodes positive ownTag]
    · rw [if_pos (Int.not_lt.mp decodes), setting.contentOr_of_not_decodes]
      exact fun both => decodes ((own.accepts _ _).mpr both)
  · have nothing : data.take storedLen.toNat = [] := by
      rw [Int.toNat_of_nonpos (Int.not_lt.mp stored), List.take_zero]
    simp only [gt_iff_lt, stored, if_false, nothing, setting.contentOr_nil]

/-! ## What the store holds -/

/-- A getter of what `bacnet_storage_get` returns, with the setter of its type. -/
theorem TypedSetting.kept_of_got (base : platform.baseName = bacnetSettingsBaseName)
    (setting : TypedSetting backend values Content)
    (got : ∀ (store : backend.Store) (key : BacnetStorageKey) (defaultValue value : Content),
      setting.get store key.objectType key.objectInstance key.propertyId key.arrayIndex
          defaultValue value =
        let (storedLen, data) := bacnetStorageGet platform backend store key
          (List.replicate (bacnetStorageValueSizeMax + 1) 0)
        (storedLen, setting.contentOr (data.take storedLen.toNat) defaultValue))
    (set : ∀ store objectType objectInstance propertyId arrayIndex content,
      setting.set store objectType objectInstance propertyId arrayIndex content =
        bacnetSettingsValueSet platform backend values.toApplicationValues store objectType
          objectInstance propertyId arrayIndex (setting.value content))
    (encoded : DecodesEncoded (fun apdu => values.decodeApplicationData apdu values.zero)
      (fun value => values.tag value = setting.tag) setting.member
      (fun content => values.encodeApplicationData (setting.value content))) :
    setting.Kept platform := by
  have short : platform.baseName.length ≤ 25 := by
    rw [base]
    decide
  have nameFits := nameFits_of_short short
  have held : ∀ (store : backend.Store) (contents : BacnetStorageKey → Option (List UInt8))
      (key : BacnetStorageKey) (defaultValue value : Content),
      StoreInvariant platform backend store contents →
      backend.loadResult store (keyName platform.baseName key) = 0 →
      setting.get store key.objectType key.objectInstance key.propertyId key.arrayIndex
          defaultValue value =
        match contents key with
        | none => (-Errno.enoent, defaultValue)
        | some stored =>
            let data := stored.take (bacnetStorageValueSizeMax + 1)
            (data.length, setting.contentOr data defaultValue) := by
    intro store contents key defaultValue value invariant loads
    rw [got]
    cases contains : contents key with
    | none =>
        rw [invariant.bacnetStorageGet_absent (nameFits key) _ loads contains]
        exact Prod.ext rfl (setting.contentOr_nil defaultValue)
    | some stored =>
        rw [invariant.bacnetStorageGet_held (nameFits key) _ loads contains]
        simp only [List.length_replicate, Int.toNat_natCast, List.take_left]
  refine ⟨got, held, ?_⟩
  intro store stored contents key content defaultValue value invariant succeeds loads
  rw [set] at succeeds
  have ⟨after, fits⟩ := bacnetSettingsValueSet_stored (nameFits key) invariant succeeds
  rw [held stored _ key defaultValue value after loads, Function.update_self]
  have whole : (values.encodeApplicationData (setting.value content)).take
      (bacnetStorageValueSizeMax + 1) = values.encodeApplicationData (setting.value content) :=
    List.take_of_length_le (Nat.le_succ_of_le fits)
  simp only [whole]
  rw [setting.contentOr_of_decodes (encoded.positive content) (encoded.ownTag content),
    encoded.content content]

/-! ## Values with long encodings -/

/-- The bytes of a number, the highest first. -/
def bigEndian : ℕ → ℕ → List UInt8
  | 0, _ => []
  | length + 1, number => bigEndian length (number / 256) ++ [UInt8.ofNat number]

def bigEndianValue (bytes : List UInt8) : ℕ :=
  bytes.foldl (fun number byte => number * 256 + byte.toNat) 0

theorem length_bigEndian (length number : ℕ) : (bigEndian length number).length = length := by
  induction length generalizing number with
  | zero => rfl
  | succ length ih => rw [bigEndian, List.length_append, ih, List.length_singleton]

theorem bigEndianValue_bigEndian (length number : ℕ) :
    bigEndianValue (bigEndian length number) = number % 256 ^ length := by
  induction length generalizing number with
  | zero => simp [bigEndian, bigEndianValue, Nat.mod_one]
  | succ length ih =>
      have higher := ih (number / 256)
      rw [bigEndianValue] at higher
      rw [bigEndian, bigEndianValue, List.foldl_append, higher, Nat.pow_succ', Nat.mod_mul]
      simp only [List.foldl_cons, List.foldl_nil, UInt8.toNat_ofNat']
      omega

/-- The union with a member for each type, and the tag. -/
structure ReferenceValue where
  tag : UInt8
  real : UInt32
  unsignedInt : UInt64
  signedInt : Int32
  string : ApplicationValues.reference.CharacterString

/--
The encodings of the standard, with as many bytes as the largest numbers need. The real
numbers are their bits.
-/
def ReferenceValue.encode (value : ReferenceValue) : List UInt8 :=
  if value.tag = tagReal then 0x44 :: bigEndian 4 value.real.toNat
  else if value.tag = tagUnsignedInt then 0x25 :: 8 :: bigEndian 8 value.unsignedInt.toNat
  else if value.tag = tagSignedInt then 0x34 :: bigEndian 4 value.signedInt.toUInt32.toNat
  else if value.tag = tagCharacterString then
    ApplicationValues.reference.encodeApplicationData value.string
  else []

def ReferenceValue.decode (apdu : List UInt8) (value : ReferenceValue) : Int × ReferenceValue :=
  match apdu with
  | 0x44 :: bytes =>
      if bytes.length < 4 then (-1, value)
      else (5, { value with
        tag := tagReal, real := UInt32.ofNat (bigEndianValue (bytes.take 4)) })
  | 0x25 :: 8 :: bytes =>
      if bytes.length < 8 then (-1, value)
      else (10, { value with
        tag := tagUnsignedInt, unsignedInt := UInt64.ofNat (bigEndianValue (bytes.take 8)) })
  | 0x34 :: bytes =>
      if bytes.length < 4 then (-1, value)
      else (5, { value with
        tag := tagSignedInt
        signedInt := (UInt32.ofNat (bigEndianValue (bytes.take 4))).toInt32 })
  | _ => (-1, value)

def ReferenceValue.zero : ReferenceValue where
  tag := tagNull
  real := 0
  unsignedInt := 0
  signedInt := 0
  string := ⟨[], Nat.zero_le _⟩

/-- A decoder of one type that leaves its variable unless the tag is its own. -/
def ReferenceValue.decodeOwn {Content : Type} (ownTag : UInt8) (member : ReferenceValue → Content)
    (apdu : List UInt8) (content : Content) : Int × Content :=
  let (len, value) := decode apdu zero
  if 0 < len ∧ value.tag = ownTag then (len, member value) else (0, content)

theorem ReferenceValue.decodeOwn_own {Content : Type} (ownTag : UInt8)
    (member : ReferenceValue → Content) :
    DecodesOwnType (fun apdu => decode apdu zero) (fun value => value.tag = ownTag) member
      (decodeOwn ownTag member) where
  accepts apdu content := by
    simp only [decodeOwn]
    split
    · rename_i own
      exact iff_of_true own.1 own
    · rename_i other
      exact iff_of_false (Int.lt_irrefl 0) other
  content apdu content positive := by
    simp only [decodeOwn] at positive ⊢
    split
    · rfl
    · rename_i other
      rw [if_neg other] at positive
      exact absurd positive (Int.lt_irrefl 0)

theorem ReferenceValue.decode_le (apdu : List UInt8) (value : ReferenceValue) :
    (decode apdu value).1 ≤ apdu.length := by
  unfold decode
  split
  · split
    · simp only [List.length_cons]
      omega
    · simp only [List.length_cons]
      omega
  · split
    · simp only [List.length_cons]
      omega
    · simp only [List.length_cons]
      omega
  · split
    · simp only [List.length_cons]
      omega
    · simp only [List.length_cons]
      omega
  · omega

theorem ReferenceValue.decode_real (real : UInt32) :
    decode { zero with tag := tagReal, real }.encode zero =
      (5, { zero with tag := tagReal, real }) := by
  have bytes : (bigEndian 4 real.toNat).take 4 = bigEndian 4 real.toNat :=
    List.take_of_length_le (Nat.le_of_eq (length_bigEndian _ _))
  simp [encode, decode, length_bigEndian, bytes, bigEndianValue_bigEndian]

theorem ReferenceValue.decode_unsignedInt (unsignedInt : UInt64) :
    decode { zero with tag := tagUnsignedInt, unsignedInt }.encode zero =
      (10, { zero with tag := tagUnsignedInt, unsignedInt }) := by
  have bytes : (bigEndian 8 unsignedInt.toNat).take 8 = bigEndian 8 unsignedInt.toNat :=
    List.take_of_length_le (Nat.le_of_eq (length_bigEndian _ _))
  simp [encode, decode, length_bigEndian, bytes, bigEndianValue_bigEndian, tagUnsignedInt, tagReal]

theorem ReferenceValue.decode_signedInt (signedInt : Int32) :
    decode { zero with tag := tagSignedInt, signedInt }.encode zero =
      (5, { zero with tag := tagSignedInt, signedInt }) := by
  have bytes : (bigEndian 4 signedInt.toUInt32.toNat).take 4 =
      bigEndian 4 signedInt.toUInt32.toNat :=
    List.take_of_length_le (Nat.le_of_eq (length_bigEndian _ _))
  simp [encode, decode, length_bigEndian, bytes, bigEndianValue_bigEndian, tagSignedInt,
    tagUnsignedInt, tagReal]

def TypedValues.reference : TypedValues where
  Value := ReferenceValue
  CharacterString := ApplicationValues.reference.CharacterString
  text := ApplicationValues.reference.text
  characterstringInitAnsi := ApplicationValues.reference.characterstringInitAnsi
  characterStringValue string := { ReferenceValue.zero with tag := tagCharacterString, string }
  encodeApplicationData := ReferenceValue.encode
  characterStringDecode := ApplicationValues.reference.characterStringDecode
  text_characterstringInitAnsi := ApplicationValues.reference.text_characterstringInitAnsi
  decode_encode := ApplicationValues.reference.decode_encode
  encode_nonempty := ApplicationValues.reference.encode_nonempty
  Real := UInt32
  zero := ReferenceValue.zero
  tag := ReferenceValue.tag
  withTag tag value := { value with tag }
  real := ReferenceValue.real
  unsignedInt := ReferenceValue.unsignedInt
  signedInt := ReferenceValue.signedInt
  realValue real := { ReferenceValue.zero with tag := tagReal, real }
  unsignedIntValue unsignedInt := { ReferenceValue.zero with tag := tagUnsignedInt, unsignedInt }
  signedIntValue signedInt := { ReferenceValue.zero with tag := tagSignedInt, signedInt }
  decodeApplicationData := ReferenceValue.decode
  unsignedApplicationDecode := ReferenceValue.decodeOwn tagUnsignedInt ReferenceValue.unsignedInt
  signedApplicationDecode := ReferenceValue.decodeOwn tagSignedInt ReferenceValue.signedInt
  tag_zero := rfl
  tag_withTag _ _ := rfl
  decode_le := ReferenceValue.decode_le
  decode_realValue := .of_eq (by decide : (0 : Int) < 5) ReferenceValue.decode_real
    (fun _ => rfl) fun _ => rfl
  decode_unsignedIntValue := .of_eq (by decide : (0 : Int) < 10) ReferenceValue.decode_unsignedInt
    (fun _ => rfl) fun _ => rfl
  decode_signedIntValue := .of_eq (by decide : (0 : Int) < 5) ReferenceValue.decode_signedInt
    (fun _ => rfl) fun _ => rfl
  unsignedApplicationDecode_own := ReferenceValue.decodeOwn_own _ _
  signedApplicationDecode_own := ReferenceValue.decodeOwn_own _ _

/-- Every getter gives the value of its type or the default, and what its setter stored. -/
theorem typedSettings_kept (platform : StoragePlatform) (backend : SettingsBackend)
    (values : TypedValues) (base : platform.baseName = bacnetSettingsBaseName) :
    (realSetting platform backend values).Kept platform ∧
      (unsignedSetting platform backend values).Kept platform ∧
      (signedSetting platform backend values).Kept platform := by
  refine ⟨?_, ?_, ?_⟩
  · apply (realSetting platform backend values).kept_of_got base
    · exact bacnetSettingsRealGet_eq
    · exact fun _ _ _ _ _ _ => rfl
    · exact values.decode_realValue
  · apply (unsignedSetting platform backend values).kept_of_got base
    · exact bacnetSettingsIntegerGet_eq _ values.unsignedApplicationDecode_own
    · exact fun _ _ _ _ _ _ => rfl
    · exact values.decode_unsignedIntValue
  · apply (signedSetting platform backend values).kept_of_got base
    · exact bacnetSettingsIntegerGet_eq _ values.signedApplicationDecode_own
    · exact fun _ _ _ _ _ _ => rfl
    · exact values.decode_signedIntValue

/-- A signed value that was set is got as such, and is the default as an unsigned value. -/
theorem typedSettings_kept_signed :
    let platform := StoragePlatform.reference bacnetSettingsBaseName
    let signed := signedSetting platform SettingsBackend.reference TypedValues.reference
    let unsigned := unsignedSetting platform SettingsBackend.reference TypedValues.reference
    let key := bacnetStorageKeyInit 2 1001 85 bacnetStorageArrayIndexNone
    let stored := (signed.set ⟨[], by simp⟩ key.objectType key.objectInstance key.propertyId
      key.arrayIndex (-100000000)).2
    signed.get stored key.objectType key.objectInstance key.propertyId key.arrayIndex 0 7 =
        (5, -100000000) ∧
      unsigned.get stored key.objectType key.objectInstance key.propertyId key.arrayIndex 42 7 =
        (5, 42) := by
  intro platform signed unsigned key stored
  rcases typedSettings_kept platform SettingsBackend.reference TypedValues.reference rfl with
    ⟨_, unsignedKept, signedKept⟩
  have saved : signed.set ⟨[], by simp⟩ key.objectType key.objectInstance key.propertyId
      key.arrayIndex (-100000000) = (true, stored) := Prod.ext rfl rfl
  have encoded : TypedValues.reference.encodeApplicationData (signed.value (-100000000)) =
      [0x34, 0xFA, 0x0A, 0x1F, 0x00] := by decide
  have empty := storeInvariant_empty (not_atOrBelow_of_lookup_empty platform)
  have after : StoreInvariant platform SettingsBackend.reference stored (Function.update
      (fun _ => none) key (some [0x34, 0xFA, 0x0A, 0x1F, 0x00])) :=
    empty.set (nameFits_of_short (by decide) key) (List.cons_ne_nil _ _) rfl
  refine ⟨?_, ?_⟩
  · have got := signedKept.roundTrip ⟨[], by simp⟩ stored (fun _ => none) key (-100000000) 0 7
      empty saved rfl
    apply got.trans
    exact Prod.ext (congrArg (fun bytes : List UInt8 => (bytes.length : Int)) encoded) rfl
  · have got := unsignedKept.held stored _ key 42 7 after rfl
    rw [Function.update_self] at got
    have foreign : unsigned.contentOr [0x34, 0xFA, 0x0A, 0x1F, 0x00] 42 = 42 := by
      apply unsigned.contentOr_of_not_decodes
      exact fun own => absurd own.2 (by decide)
    exact got.trans (Prod.ext rfl foreign)

end BacnetZephyr
