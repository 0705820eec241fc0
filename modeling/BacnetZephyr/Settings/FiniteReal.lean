import BacnetZephyr.Foundation.Strtof
import BacnetZephyr.Settings.ValueParse

/-!
# Real settings that are not numbers

`bacnet_storage_strtof` excludes the infinities and a NaN by comparison. No value is equal
to a NaN, so a text that spells one sets a REAL setting to it. `realStaysFinite_iff` says
for which texts that happens.
-/

namespace BacnetZephyr

open CLib

/-- The real numbers of the library as IEEE values. -/
structure IeeeReals (library : ValueLibrary) where
  Finite : Type
  numerals : NumeralConversion Finite
  /-- `==` of finite values. -/
  same : Finite → Finite → Bool
  ieee : library.Real → Ieee Finite
  strtof : ∀ text, (ieee (library.strtof text).1, (library.strtof text).2) =
    CLib.strtof numerals text
  isInfinite : ∀ real, library.isInfinite real = (ieee real).isInfinite

/-- `bacnet_storage_strtof` with all of its comparisons. -/
def bacnetStorageStrtofIeee {Finite : Type} (numerals : NumeralConversion Finite)
    (same : Finite → Finite → Bool) (searchName : CString) : Option (Ieee Finite) :=
  let (value, endptr) := strtof numerals searchName
  if endptr.length = searchName.length then none
  else if value.equals same (.infinity false) ∨ value.equals same (.infinity true) ∨
      value.equals same .nan then none
  else if endptr ≠ [] then none
  else some value

section Comparisons

variable {Finite : Type} {numerals : NumeralConversion Finite} {same : Finite → Finite → Bool}
  {text : CString}

/-- The comparison with a NaN excludes nothing. -/
theorem comparisons_iff (value : Ieee Finite) :
    (value.equals same (.infinity false) ∨ value.equals same (.infinity true) ∨
      value.equals same .nan) ↔ value.isInfinite := by
  cases value with
  | finite value => simp [Ieee.equals, Ieee.isInfinite]
  | infinity negative => cases negative <;> simp [Ieee.equals, Ieee.isInfinite]
  | nan => simp [Ieee.equals, Ieee.isInfinite]

theorem bacnetStorageStrtof_map {library : ValueLibrary} (reals : IeeeReals library)
    (text : CString) :
    (bacnetStorageStrtof library text).map reals.ieee =
      bacnetStorageStrtofIeee reals.numerals reals.same text := by
  have converted := reals.strtof text
  simp only [bacnetStorageStrtof, bacnetStorageStrtofIeee, comparisons_iff, ← converted,
    reals.isInfinite]
  split
  · rfl
  · split
    · rfl
    · split
      · rfl
      · rfl

/-- A value that is not refused is finite, or the text spells a NaN. -/
theorem finite_or_nan {value : Ieee Finite}
    (converts : bacnetStorageStrtofIeee numerals same text = some value) :
    value.isFinite ∨ IsNanText text := by
  rcases converted : strtof numerals text with ⟨found, endptr⟩
  simp only [bacnetStorageStrtofIeee, converted, comparisons_iff] at converts
  split at converts
  · cases converts
  · split at converts
    · cases converts
    · rename_i notInfinite
      split at converts
      · cases converts
      · rename_i ended
        cases converts
        rw [ne_eq, not_not] at ended
        subst ended
        cases value with
        | finite value => exact Or.inl rfl
        | infinity negative => exact absurd rfl notInfinite
        | nan => exact Or.inr (isNan_iff_isNanText.mp converted)

theorem bacnetStorageStrtofIeee_nan (isNan : IsNanText text) :
    bacnetStorageStrtofIeee numerals same text = some .nan := by
  have converted := (@isNan_iff_isNanText _ numerals text).mpr isNan
  have consumed : ¬0 = text.length :=
    fun empty => isNan.ne_nil (List.length_eq_zero_iff.mp empty.symm)
  simp only [bacnetStorageStrtofIeee, converted, comparisons_iff, List.length_nil,
    if_neg consumed, Ieee.isInfinite, Bool.false_eq_true, ne_eq, not_true, if_false]

end Comparisons

/-! ## REAL settings -/

/-- A REAL value that is parsed is a finite number. -/
def RealStaysFinite (platform : StoragePlatform) {library : ValueLibrary}
    (reals : IeeeReals library) (text : CString) (objectType : UInt16) (propertyId : UInt32)
    (value : ApplicationDataValue library.toValueTypes) : Prop :=
  ∀ result, bacnetSettingsValueParse platform library (some text) objectType propertyId value =
    (true, result) → result.tag = tagReal →
      ∃ real, result.type = .real real ∧ (reals.ieee real).isFinite

/-- The text starts with a letter and is a name that the property gives to a value. -/
def NamesValue (library : ValueLibrary) (objectType : UInt16) (propertyId : UInt32)
    (text : CString) : Prop :=
  text.head?.any Char.isAlpha ∧
    library.objectPropertyStrtoul objectType.toUInt32 propertyId text ≠ none

section Parse

variable {platform : StoragePlatform} {library : ValueLibrary} {text : CString}
  {objectType : UInt16} {propertyId : UInt32} {value : ApplicationDataValue library.toValueTypes}

theorem taggedValue_real (type : ValueType library.toValueTypes) :
    taggedValue platform library tagReal text type =
      match bacnetStorageStrtof library text with
      | some realValue => (true, .real realValue)
      | none => (false, type) := rfl

/-- The spelling of a NaN is none of the other words. -/
theorem keywordValue_of_isNanText (isNan : IsNanText text)
    (unnamed : ¬NamesValue library objectType propertyId text) :
    keywordValue library objectType propertyId text value = none := by
  have words := keywordValue_cases library objectType propertyId text value
  generalize keywordValue library objectType propertyId text value = keyword at words ⊢
  cases words with
  | relinquish letter _ null =>
      rcases isNan.lower letter with ⟨rest, lower⟩
      rw [EqualIgnoringCase, List.map_take, lower] at null
      have second := congrArg (fun word : CString => word[1]?) null
      exact absurd second (by simp)
  | boolean letter _ status word =>
      rcases isNan.lower letter with ⟨rest, lower⟩
      rw [EqualIgnoringCase, lower] at word
      have first := congrArg List.head? word
      cases status
      · exact absurd first (by simp)
      · exact absurd first (by simp)
  | named letter _ _ _ found name =>
      exact absurd ⟨letter, by rw [name]; exact Option.some_ne_none found⟩ unnamed
  | none _ => rfl

/-- A value that spells a NaN is set to a NaN. -/
theorem not_realStaysFinite (reals : IeeeReals library) (isReal : value.tag = tagReal)
    (isNan : IsNanText text) (unnamed : ¬NamesValue library objectType propertyId text) :
    ¬RealStaysFinite platform reals text objectType propertyId value := by
  intro stays
  have literal := bacnetStorageStrtof_map reals text
  rw [bacnetStorageStrtofIeee_nan isNan] at literal
  rcases Option.map_eq_some_iff.mp literal with ⟨real, converts, nan⟩
  have parsed : bacnetSettingsValueParse platform library (some text) objectType propertyId value =
      (true, { value with type := .real real }) := by
    rw [bacnetSettingsValueParse_eq, keywordValue_of_isNanText isNan unnamed, isReal,
      taggedValue_real, converts]
  rcases stays _ parsed isReal with ⟨other, same, finite⟩
  cases same
  rw [nan] at finite
  cases finite

theorem realStaysFinite_of_not_nan (reals : IeeeReals library)
    (notNan : value.tag = tagReal → ¬NamesValue library objectType propertyId text →
      ¬IsNanText text) :
    RealStaysFinite platform reals text objectType propertyId value := by
  intro result parsed isReal
  have words := keywordValue_cases library objectType propertyId text value
  rw [bacnetSettingsValueParse_eq] at parsed
  generalize keywordValue library objectType propertyId text value = keyword at words parsed
  cases words with
  | relinquish letter _ null =>
      cases parsed
      cases isReal
  | boolean letter _ status word =>
      cases parsed
      cases isReal
  | named letter _ _ _ found name =>
      cases parsed
      cases isReal
  | none free =>
      simp only [Prod.mk.injEq] at parsed
      rcases parsed with ⟨status, rfl⟩
      have tag : value.tag = tagReal := isReal
      rw [tag, taggedValue_real] at status ⊢
      rcases converts : bacnetStorageStrtof library text with _ | real
      · rw [converts] at status
        cases status
      · refine ⟨real, rfl, ?_⟩
        have literal := bacnetStorageStrtof_map reals text
        rw [converts, Option.map_some] at literal
        rcases finite_or_nan literal.symm with finite | isNan
        · exact finite
        · refine absurd isNan (notNan tag ?_)
          rintro ⟨letter, named⟩
          exact named (free letter).2.2.2

end Parse

/-- Decimal integers without a range. -/
def NumeralConversion.integers : NumeralConversion ℤ where
  zero := 0
  convert negative text :=
    let digits := text.takeWhile (isDigitOf 10)
    let value : ℤ := digitsValue 10 digits
    if digits = [] then none
    else some (some (if negative then -value else value), text.drop digits.length)

/-- The reference library with an infinity and a NaN. -/
def ValueLibrary.ieee : ValueLibrary :=
  { ValueLibrary.reference with
    Real := Ieee ℤ
    strtof := CLib.strtof NumeralConversion.integers
    isInfinite := Ieee.isInfinite }

def IeeeReals.reference : IeeeReals ValueLibrary.ieee where
  Finite := ℤ
  numerals := NumeralConversion.integers
  same left right := left == right
  ieee := id
  strtof _ := rfl
  isInfinite _ := rfl

/--
A text keeps a REAL setting finite exactly if it does not spell a NaN, or is the name of a value
of the property.
-/
theorem realStaysFinite_iff (platform : StoragePlatform) {library : ValueLibrary}
    (reals : IeeeReals library) (text : CString) (objectType : UInt16) (propertyId : UInt32)
    (value : ApplicationDataValue library.toValueTypes) :
    RealStaysFinite platform reals text objectType propertyId value ↔
      (value.tag = tagReal → ¬NamesValue library objectType propertyId text →
        ¬IsNanText text) :=
  ⟨fun stays isReal unnamed isNan => not_realStaysFinite reals isReal isNan unnamed stays,
    realStaysFinite_of_not_nan reals⟩

/-- A word sets the present value of an analog value to a NaN. -/
theorem not_realStaysFinite_word :
    ¬RealStaysFinite (StoragePlatform.reference bacnetSettingsBaseName) IeeeReals.reference
      "NaN".toList 2 85 { tag := tagReal, type := .other () } := by
  apply not_realStaysFinite _ rfl
  · exact ⟨[], [], "NaN".toList, [], rfl, by simp, Or.inl rfl, rfl, Or.inl rfl⟩
  · rintro ⟨_, named⟩
    exact named rfl

end BacnetZephyr
