import BacnetZephyr.Foundation.Numeral
import BacnetZephyr.Storage.Key

/-!
# Which names decode

`bacnet_storage_key_decode` reads each component of a name with `strtoul` and base zero
and narrows the number to the field of the key. Signs, white space, leading zeros and
other bases are accepted, a number too large for its field loses its upper bits, and what
follows the fourth component is ignored.

`decodedCanonically_iff` says that a name that decodes is the name of its key exactly when
it is made of three or four canonical decimal numerals that fit the fields.
-/

namespace BacnetZephyr

open CLib NamedStore

/-- The name without the base name in front, where it has one. -/
def withoutBaseName (baseName name : CString) : CString :=
  if baseName ++ [settingsNameSeparator] <+: name then name.drop (baseName.length + 1) else name

/-- The numbers in the name of a key. -/
def BacnetStorageKey.numbers (key : BacnetStorageKey) : List ℕ :=
  [key.objectType.toNat, key.objectInstance.toNat, key.propertyId.toNat] ++
    if key.arrayIndex = bacnetStorageArrayIndexNone then [] else [key.arrayIndex.toNat]

/--
The encoder gives the name back below the base name, and the numbers in the name are the
fields of the key.
-/
structure DecodedCanonically (platform : StoragePlatform) (name : CString)
    (key : BacnetStorageKey) : Prop where
  reencoded : ∀ bufferSize, (keyName platform.baseName key).length < bufferSize →
    (bacnetStorageKeyEncode platform bufferSize key).2 =
      platform.baseName ++ settingsNameSeparator :: withoutBaseName platform.baseName name
  untruncated :
    ((withoutBaseName platform.baseName name).splitOn settingsNameSeparator).map numeral =
      key.numbers.map fun number : ℕ => some (number : ℤ)

/-- Three or four canonical decimal numerals, the first of which fits an object type. -/
def CanonicalPath (path : CString) : Prop :=
  let components := path.splitOn settingsNameSeparator
  (components.length = 3 ∨ components.length = 4) ∧
    (∀ component ∈ components, CanonicalDecimal component) ∧
    digitsValue 10 (components.headD []) ≤ 65535

instance (path : CString) : Decidable (CanonicalPath path) :=
  inferInstanceAs (Decidable (_ ∧ _ ∧ _))

/-! ## Names of numbers -/

section Paths

/-- The path made of the renderings of numbers. -/
def numbersPath (numbers : List ℕ) : CString :=
  [settingsNameSeparator].intercalate (numbers.map (Nat.toDigits 10))

theorem numbersPath_numbers (key : BacnetStorageKey) : numbersPath key.numbers = keyPath key := by
  by_cases none : key.arrayIndex = bacnetStorageArrayIndexNone
  · simp [numbersPath, BacnetStorageKey.numbers, keyPath, none]
  · simp [numbersPath, BacnetStorageKey.numbers, keyPath, none]

theorem splitOn_numbersPath {numbers : List ℕ} (nonempty : numbers ≠ []) :
    (numbersPath numbers).splitOn settingsNameSeparator = numbers.map (Nat.toDigits 10) := by
  apply List.splitOn_intercalate
  · intro component mem
    rcases List.mem_map.mp mem with ⟨number, _, rfl⟩
    exact separator_notMem_toDigits number
  · simpa using nonempty

/-- A path of canonical numerals is the path of their numbers. -/
theorem exists_numbersPath {path : CString}
    (canonical : ∀ component ∈ path.splitOn settingsNameSeparator, CanonicalDecimal component) :
    ∃ numbers, numbers.map (Nat.toDigits 10) = path.splitOn settingsNameSeparator ∧
      path = numbersPath numbers := by
  have rendered : ∀ components : List CString,
      (∀ component ∈ components, CanonicalDecimal component) →
      ∃ numbers : List ℕ, numbers.map (Nat.toDigits 10) = components := by
    intro components
    induction components with
    | nil => exact fun _ => ⟨[], rfl⟩
    | cons component rest ih =>
        intro canonical
        rcases (canonical component (by simp)).exists_toDigits with ⟨number, rfl⟩
        rcases ih fun other mem => canonical other (by simp [mem]) with ⟨numbers, rfl⟩
        exact ⟨number :: numbers, rfl⟩
  rcases rendered _ canonical with ⟨numbers, same⟩
  refine ⟨numbers, same, ?_⟩
  rw [numbersPath, same, List.intercalate_splitOn]

theorem numeral_toDigits (number : ℕ) :
    numeral (Nat.toDigits 10 number) = some (number : ℤ) := by
  have digit : ∀ character ∈ Nat.toDigits 10 number, character.isDigit :=
    fun _ mem => isDigit_of_mem_toDigits mem
  have scanned : ∃ base, numeralStart (Nat.toDigits 10 number) =
      (false, base, Nat.toDigits 10 number) ∧
      (Nat.toDigits 10 number).all (isDigitOf base) ∧
      digitsValue base (Nat.toDigits 10 number) = number := by
    simp only [numeralStart, dropWhile_isSpace_of_digits digit, splitSign_of_digits digit]
    rcases Nat.eq_zero_or_pos number with rfl | positive
    · exact ⟨8, by decide⟩
    · rw [detectBase_of_head?_ne_zero (head?_toDigits_ne_zero positive)]
      refine ⟨10, rfl, List.all_eq_true.mpr ?_, digitsValue_toDigits number⟩
      exact fun character mem => isDigitOf_ten_of_isDigit (digit character mem)
  rcases scanned with ⟨base, start, all, value⟩
  simp [numeral, start, all, value, Nat.toDigits_ne_nil]

end Paths

/-! ## Decoding a path of numbers -/

section Decode

variable {platform : StoragePlatform} {name : Option CString} {key initial : BacnetStorageKey}

/-- The decoder removes the base name in front. -/
theorem stripBaseName_eq (noEnd : settingsNameEnd ∉ platform.baseName) (name : CString) :
    stripBaseName platform (some name) = some (withoutBaseName platform.baseName name) := by
  by_cases below : AtOrBelow settingsNameSeparator platform.baseName name
  · rcases atOrBelow_iff.mp below with rfl | ⟨rest, rfl⟩
    · have notPrefix : ¬platform.baseName ++ [settingsNameSeparator] <+: platform.baseName := by
        intro isPrefix
        have := isPrefix.length_le
        rw [List.length_append, List.length_singleton] at this
        omega
      simp only [stripBaseName, platform.names.nameSteq_self _ noEnd, withoutBaseName,
        if_neg notPrefix]
    · have isPrefix : platform.baseName ++ [settingsNameSeparator] <+:
          platform.baseName ++ settingsNameSeparator :: rest := ⟨rest, by simp⟩
      simp [stripBaseName, platform.names.nameSteq_below _ _ noEnd, withoutBaseName, isPrefix]
  · have notPrefix : ¬platform.baseName ++ [settingsNameSeparator] <+: name :=
      fun isPrefix => below (Or.inr isPrefix)
    simp only [withoutBaseName, if_neg notPrefix]
    by_cases atEnd : AtOrBelow settingsNameEnd platform.baseName name
    · rcases atOrBelow_iff.mp atEnd with rfl | ⟨rest, rfl⟩
      · exact absurd (AtOrBelow.refl _ _) below
      · simp [stripBaseName, platform.names.nameSteq_end _ _ noEnd]
    · exact stripBaseName_path platform below atEnd

theorem toNat_ofNat_of_short {number : ℕ} (short : number < 10 ^ settingsMaxDirDepth) :
    (UInt32.ofNat number).toNat = number := by
  simp only [settingsMaxDirDepth] at short
  rw [UInt32.toNat_ofNat', Nat.mod_eq_of_lt (by omega)]

theorem ofNat_ne_arrayIndexNone {number : ℕ} (short : number < 10 ^ settingsMaxDirDepth) :
    UInt32.ofNat number ≠ bacnetStorageArrayIndexNone := by
  intro isNone
  have same := toNat_ofNat_of_short short
  rw [isNone] at same
  have : bacnetStorageArrayIndexNone.toNat = 4294967295 := rfl
  simp only [settingsMaxDirDepth] at short
  omega

theorem typeShort_of_range {objectType : ℕ} (typeRange : objectType ≤ 65535) :
    objectType < 10 ^ settingsMaxDirDepth := by
  simp only [settingsMaxDirDepth]
  omega

/-- A path of three numbers decodes to the key without an array index. -/
theorem eq_of_decoded_three {objectType objectInstance propertyId : ℕ}
    (stripped : stripBaseName platform name =
      some (numbersPath [objectType, objectInstance, propertyId]))
    (decoded : bacnetStorageKeyDecode platform name initial = (0, key))
    (typeRange : objectType ≤ 65535) :
    objectInstance < 10 ^ settingsMaxDirDepth ∧ propertyId < 10 ^ settingsMaxDirDepth ∧
      key = bacnetStorageKeyInit (UInt16.ofNat objectType) (UInt32.ofNat objectInstance)
        (UInt32.ofNat propertyId) bacnetStorageArrayIndexNone := by
  have failure : ¬(-Errno.einval : Int) = 0 := by decide
  simp only [numbersPath, List.map_cons, List.map_nil, List.intercalate_cons_cons,
    List.intercalate_singleton, List.cons_append, List.nil_append, List.append_assoc] at stripped
  simp only [bacnetStorageKeyDecode, stripped, nameNext_toDigits_append,
    decodeComponent_toDigits, nameNext_toDigits, decodeComponent_toDigits_nil,
    typeShort_of_range typeRange, if_true] at decoded
  by_cases instanceShort : objectInstance < 10 ^ settingsMaxDirDepth
  · by_cases propertyShort : propertyId < 10 ^ settingsMaxDirDepth
    · simp only [instanceShort, propertyShort, if_true, Prod.mk.injEq, true_and] at decoded
      exact ⟨instanceShort, propertyShort, decoded.symm⟩
    · simp [instanceShort, propertyShort, failure] at decoded
  · simp [instanceShort, failure] at decoded

/-- A path of four numbers decodes to the key with the last as the array index. -/
theorem eq_of_decoded_four {objectType objectInstance propertyId arrayIndex : ℕ}
    (stripped : stripBaseName platform name =
      some (numbersPath [objectType, objectInstance, propertyId, arrayIndex]))
    (decoded : bacnetStorageKeyDecode platform name initial = (0, key))
    (typeRange : objectType ≤ 65535) :
    objectInstance < 10 ^ settingsMaxDirDepth ∧ propertyId < 10 ^ settingsMaxDirDepth ∧
      arrayIndex < 10 ^ settingsMaxDirDepth ∧
      key = bacnetStorageKeyInit (UInt16.ofNat objectType) (UInt32.ofNat objectInstance)
        (UInt32.ofNat propertyId) (UInt32.ofNat arrayIndex) := by
  have failure : ¬(-Errno.einval : Int) = 0 := by decide
  simp only [numbersPath, List.map_cons, List.map_nil, List.intercalate_cons_cons,
    List.intercalate_singleton, List.cons_append, List.nil_append, List.append_assoc] at stripped
  simp only [bacnetStorageKeyDecode, stripped, nameNext_toDigits_append,
    decodeComponent_toDigits, nameNext_toDigits, decodeComponent_toDigits_nil,
    typeShort_of_range typeRange, if_true] at decoded
  by_cases instanceShort : objectInstance < 10 ^ settingsMaxDirDepth
  · by_cases propertyShort : propertyId < 10 ^ settingsMaxDirDepth
    · by_cases indexShort : arrayIndex < 10 ^ settingsMaxDirDepth
      · simp only [instanceShort, propertyShort, indexShort, if_true, reduceCtorEq, if_false,
          Prod.mk.injEq, true_and] at decoded
        exact ⟨instanceShort, propertyShort, indexShort, decoded.symm⟩
      · simp [instanceShort, propertyShort, indexShort, failure] at decoded
    · simp [instanceShort, propertyShort, failure] at decoded
  · simp [instanceShort, failure] at decoded

/-- A path of numbers decodes to a key only if the numbers are short, and to their key. -/
theorem numbers_of_decoded {numbers : List ℕ}
    (count : numbers.length = 3 ∨ numbers.length = 4)
    (stripped : stripBaseName platform name = some (numbersPath numbers))
    (decoded : bacnetStorageKeyDecode platform name initial = (0, key))
    (typeRange : numbers.headD 0 ≤ 65535) : key.numbers = numbers := by
  have typeNarrow : (UInt16.ofNat (numbers.headD 0)).toNat = numbers.headD 0 := by
    rw [UInt16.toNat_ofNat', Nat.mod_eq_of_lt (by omega)]
  rcases count with three | four
  · rcases List.length_eq_three.mp three with ⟨objectType, objectInstance, propertyId, rfl⟩
    rw [List.headD_cons] at typeRange typeNarrow
    rcases eq_of_decoded_three stripped decoded typeRange with
      ⟨instanceShort, propertyShort, rfl⟩
    simp [BacnetStorageKey.numbers, bacnetStorageKeyInit, typeNarrow,
      toNat_ofNat_of_short instanceShort, toNat_ofNat_of_short propertyShort]
  · rcases List.length_eq_four.mp four with
      ⟨objectType, objectInstance, propertyId, arrayIndex, rfl⟩
    rw [List.headD_cons] at typeRange typeNarrow
    rcases eq_of_decoded_four stripped decoded typeRange with
      ⟨instanceShort, propertyShort, indexShort, rfl⟩
    simp [BacnetStorageKey.numbers, bacnetStorageKeyInit, typeNarrow,
      toNat_ofNat_of_short instanceShort, toNat_ofNat_of_short propertyShort,
      toNat_ofNat_of_short indexShort, ofNat_ne_arrayIndexNone indexShort]

theorem BacnetStorageKey.numbers_length (key : BacnetStorageKey) :
    key.numbers.length = 3 ∨ key.numbers.length = 4 := by
  by_cases none : key.arrayIndex = bacnetStorageArrayIndexNone
  · exact Or.inl (by simp [BacnetStorageKey.numbers, none])
  · exact Or.inr (by simp [BacnetStorageKey.numbers, none])

theorem canonicalPath_keyPath (key : BacnetStorageKey) : CanonicalPath (keyPath key) := by
  have nonempty : key.numbers ≠ [] := by simp [BacnetStorageKey.numbers]
  rw [CanonicalPath, ← numbersPath_numbers, splitOn_numbersPath nonempty]
  refine ⟨?_, ?_, ?_⟩
  · rw [List.length_map]
    exact key.numbers_length
  · intro component mem
    rcases List.mem_map.mp mem with ⟨number, _, rfl⟩
    exact canonicalDecimal_toDigits number
  · have := key.objectType.toNat_lt
    simp only [BacnetStorageKey.numbers, List.cons_append, List.map_cons, List.headD_cons,
      digitsValue_toDigits]
    omega

/-- A canonical path that decodes is the path of its key. -/
theorem keyPath_of_decoded {path : CString} (canonical : CanonicalPath path)
    (stripped : stripBaseName platform name = some path)
    (decoded : bacnetStorageKeyDecode platform name initial = (0, key)) :
    path = keyPath key := by
  rcases canonical with ⟨count, decimal, typeRange⟩
  rcases exists_numbersPath decimal with ⟨numbers, components, rfl⟩
  rw [← components] at count typeRange
  rw [List.length_map] at count
  have first : digitsValue 10 ((numbers.map (Nat.toDigits 10)).headD []) = numbers.headD 0 := by
    cases numbers with
    | nil => rfl
    | cons number rest => exact digitsValue_toDigits number
  rw [first] at typeRange
  rw [← numbersPath_numbers, numbers_of_decoded count stripped decoded typeRange]

end Decode

/--
A name that decodes is the name of its key exactly when it is canonical without the base
name, and no two such names decode to one key.
-/
theorem decodedCanonically_iff {platform : StoragePlatform}
    (noEnd : settingsNameEnd ∉ platform.baseName) {name : CString}
    {key initial : BacnetStorageKey}
    (decoded : bacnetStorageKeyDecode platform (some name) initial = (0, key)) :
    (DecodedCanonically platform name key ↔
      CanonicalPath (withoutBaseName platform.baseName name)) ∧
    (CanonicalPath (withoutBaseName platform.baseName name) → ∀ other,
      CanonicalPath (withoutBaseName platform.baseName other) →
      (∃ before, bacnetStorageKeyDecode platform (some other) before = (0, key)) →
      withoutBaseName platform.baseName other = withoutBaseName platform.baseName name) := by
  have path := fun canonical => keyPath_of_decoded canonical (stripBaseName_eq noEnd name) decoded
  refine ⟨⟨?_, ?_⟩, ?_⟩
  · intro canonically
    have reencoded := canonically.reencoded _ (Nat.lt_succ_self _)
    rw [bacnetStorageKeyEncode_eq, snprintf_of_fits (Nat.lt_succ_self _), keyName] at reencoded
    have same := List.append_cancel_left reencoded
    rw [List.cons.injEq] at same
    rw [← same.2]
    exact canonicalPath_keyPath key
  · intro canonical
    refine ⟨?_, ?_⟩
    · intro bufferSize room
      rw [bacnetStorageKeyEncode_eq, snprintf_of_fits room, path canonical]
      rfl
    · rw [path canonical, ← numbersPath_numbers,
        splitOn_numbersPath (by simp [BacnetStorageKey.numbers]), List.map_map]
      exact List.map_congr_left fun number _ => numeral_toDigits number
  · rintro canonical other otherCanonical ⟨before, otherDecoded⟩
    rw [path canonical,
      keyPath_of_decoded otherCanonical (stripBaseName_eq noEnd other) otherDecoded]

/-- The name of an array element. -/
theorem decodedCanonically_iff_element :
    let platform := StoragePlatform.reference bacnetSettingsBaseName
    let name := ".bacnet/2/1001/87/3".toList
    (DecodedCanonically platform name (bacnetStorageKeyInit 2 1001 87 3) ↔
      CanonicalPath (withoutBaseName platform.baseName name)) ∧
    (CanonicalPath (withoutBaseName platform.baseName name) → ∀ other,
      CanonicalPath (withoutBaseName platform.baseName other) →
      (∃ before, bacnetStorageKeyDecode platform (some other) before =
        (0, bacnetStorageKeyInit 2 1001 87 3)) →
      withoutBaseName platform.baseName other = withoutBaseName platform.baseName name) := by
  intro platform name
  have decoded : bacnetStorageKeyDecode platform (some name) (bacnetStorageKeyInit 0 0 0 0) =
      (0, bacnetStorageKeyInit 2 1001 87 3) := by
    decide
  exact decodedCanonically_iff (by decide) decoded

/-- Object type 65538 is decoded as 2, and a leading zero makes the property octal. -/
theorem not_decodedCanonically_narrowed :
    let platform := StoragePlatform.reference bacnetSettingsBaseName
    let key := bacnetStorageKeyInit 2 1001 64 bacnetStorageArrayIndexNone
    ∀ name ∈ ["65538/1001/64".toList, "2/1001/0100".toList],
      bacnetStorageKeyDecode platform (some name) (bacnetStorageKeyInit 0 0 0 0) = (0, key) ∧
        ¬DecodedCanonically platform name key := by
  intro platform key name mem
  have decoded : bacnetStorageKeyDecode platform (some name) (bacnetStorageKeyInit 0 0 0 0) =
      (0, key) := by
    rcases List.mem_pair.mp mem with rfl | rfl
    · decide
    · decide
  refine ⟨decoded, ?_⟩
  intro canonically
  have reencoded := canonically.reencoded 65 (by decide)
  rcases List.mem_pair.mp mem with rfl | rfl
  · exact absurd reencoded (by decide)
  · exact absurd reencoded (by decide)

end BacnetZephyr
