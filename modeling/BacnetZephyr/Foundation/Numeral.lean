import BacnetZephyr.Foundation.CString
import Mathlib.Algebra.Group.Int.Defs

/-!
# Numerals with base zero

The integer a text denotes in the grammar of `strtoul` and `strtol` with base zero, and
what becomes of it in a type of a given width. The main results say when a conversion
takes a whole text, and that a numeral of plain decimal digits without a leading zero is
the decimal rendering of its value.
-/

namespace CLib

/-! ## The grammar -/

/-- The sign, the base and the text from the digits on. -/
def numeralStart (text : CString) : Bool × ℕ × CString :=
  let (negative, unsigned) := splitSign (text.dropWhile isSpace)
  let (base, start) := detectBase unsigned
  (negative, base, start)

/-- The integer a text denotes, if the whole text is a numeral. -/
def numeral (text : CString) : Option ℤ :=
  let (negative, base, start) := numeralStart text
  if start ≠ [] ∧ start.all (isDigitOf base) then
    some (if negative then -(digitsValue base start : ℤ) else digitsValue base start)
  else none

def longMax (bits : ℕ) : ℤ := 2 ^ (bits - 1) - 1

def longMin (bits : ℕ) : ℤ := -2 ^ (bits - 1)

/-- `strtol(text, &end, 0)` with a `long` of `bits` bits, as for `strtoul`. -/
def strtol (bits : ℕ) (text : CString) : ℤ × CString :=
  let (negative, base, start) := numeralStart text
  let digits := start.takeWhile (isDigitOf base)
  if digits = [] then (0, text)
  else
    let value : ℤ := if negative then -(digitsValue base digits : ℤ) else digitsValue base digits
    let result :=
      if longMax bits < value then longMax bits
      else if value < longMin bits then longMin bits
      else value
    (result, start.drop digits.length)

/-- What `strtoul` makes of an integer. -/
def toUlong (bits : ℕ) (value : ℤ) : ℕ :=
  if ulongMax bits < value.natAbs then ulongMax bits else (value % 2 ^ bits).toNat

/-- What `strtol` makes of an integer. -/
def toLong (bits : ℕ) (value : ℤ) : ℤ :=
  if longMax bits < value then longMax bits
  else if value < longMin bits then longMin bits
  else value

/-! ## Conversions of a whole text -/

section Conversion

variable {bits : ℕ} {text : CString}

theorem length_splitSign_le (text : CString) : (splitSign text).2.length ≤ text.length := by
  unfold splitSign
  split
  · exact Nat.le_succ _
  · exact Nat.le_succ _
  · exact Nat.le_refl _

theorem length_detectBase_le (text : CString) : (detectBase text).2.length ≤ text.length := by
  unfold detectBase
  split
  · split
    · simp
    · exact Nat.le_refl _
  · split
    · simp
    · exact Nat.le_refl _
  · exact Nat.le_refl _
  · exact Nat.le_refl _

theorem length_numeralStart_le (text : CString) :
    (numeralStart text).2.2.length ≤ text.length := by
  have base := length_detectBase_le (splitSign (text.dropWhile isSpace)).2
  have sign := length_splitSign_le (text.dropWhile isSpace)
  have space := (List.dropWhile_suffix (l := text) isSpace).length_le
  exact base.trans (sign.trans space)

/-- Some characters are taken, and none is left. -/
theorem takeWhile_whole_iff {α : Type} {test : α → Bool} {characters : List α} :
    characters.takeWhile test ≠ [] ∧ characters.drop (characters.takeWhile test).length = [] ↔
      characters ≠ [] ∧ characters.all test := by
  constructor
  · rintro ⟨taken, whole⟩
    have all : characters.takeWhile test = characters := by
      apply (List.takeWhile_prefix test).eq_of_length_le
      exact List.drop_eq_nil_iff.mp whole
    refine ⟨?_, List.all_eq_true.mpr (List.takeWhile_eq_self_iff.mp all)⟩
    rwa [all] at taken
  · rintro ⟨nonempty, all⟩
    rw [List.takeWhile_eq_self_iff.mpr (List.all_eq_true.mp all)]
    exact ⟨nonempty, List.drop_length⟩

/-- A conversion of a text: it reports no digits, or what it has converted and left. -/
theorem numeral_eq_some_iff {value : ℤ} :
    numeral text = some value ↔
      let (negative, base, start) := numeralStart text
      let digits := start.takeWhile (isDigitOf base)
      digits ≠ [] ∧ start.drop digits.length = [] ∧
        value = if negative then -(digitsValue base digits : ℤ) else digitsValue base digits := by
  rw [numeral]
  rcases numeralStart text with ⟨negative, base, start⟩
  simp only
  have whole := @takeWhile_whole_iff _ (isDigitOf base) start
  constructor
  · intro denoted
    split at denoted
    · rename_i digits
      have ⟨taken, left⟩ := whole.mpr digits
      have all : start.takeWhile (isDigitOf base) = start :=
        List.takeWhile_eq_self_iff.mpr (List.all_eq_true.mp digits.2)
      refine ⟨taken, left, ?_⟩
      rw [all]
      exact (Option.some.inj denoted).symm
    · cases denoted
  · rintro ⟨taken, left, rfl⟩
    have digits := whole.mp ⟨taken, left⟩
    have all : start.takeWhile (isDigitOf base) = start :=
      List.takeWhile_eq_self_iff.mpr (List.all_eq_true.mp digits.2)
    rw [if_pos digits, all]

/-- A conversion that takes characters leaves a shorter text. -/
theorem length_left_lt {test : Char → Bool} {start : CString} (shorter : start.length ≤ text.length)
    (taken : start.takeWhile test ≠ []) :
    (start.drop (start.takeWhile test).length).length < text.length := by
  have positive := List.length_pos_iff.mpr taken
  have within := (List.takeWhile_prefix (l := start) test).length_le
  rw [List.length_drop]
  omega

/-- A magnitude with a sign is saturated, or taken modulo the range. -/
theorem toUlong_signed (bits value : ℕ) (negative : Bool) :
    toUlong bits (if negative then -(value : ℤ) else value) =
      if ulongMax bits < value then ulongMax bits
      else if negative then (2 ^ bits - value) % 2 ^ bits
      else value := by
  have magnitude : (if negative then -(value : ℤ) else value).natAbs = value := by
    cases negative <;> simp
  have cast : ((2 ^ bits : ℕ) : ℤ) = 2 ^ bits := by simp
  rw [toUlong, magnitude]
  split
  · rfl
  · have small : value < 2 ^ bits := by
      have := Nat.two_pow_pos bits
      simp only [ulongMax] at *
      omega
    cases negative with
    | false =>
        simp only [Bool.false_eq_true, if_false]
        rw [← cast, ← Int.natCast_emod, Int.toNat_natCast, Nat.mod_eq_of_lt small]
    | true =>
        have shifted : -(value : ℤ) % 2 ^ bits = ((2 ^ bits - value : ℕ) : ℤ) % 2 ^ bits := by
          rw [← cast, Int.natCast_sub small.le, Int.sub_eq_add_neg, Int.add_comm,
            Int.add_emod_right]
        simp only [if_true]
        rw [shifted, ← cast, ← Int.natCast_emod, Int.toNat_natCast]

theorem strtoul_eq (bits : ℕ) (text : CString) :
    strtoul bits text =
      let (negative, base, start) := numeralStart text
      let digits := start.takeWhile (isDigitOf base)
      if digits = [] then (0, text)
      else
        (toUlong bits
          (if negative then -(digitsValue base digits : ℤ) else digitsValue base digits),
          start.drop digits.length) := by
  simp only [toUlong_signed]
  rfl

/-- A conversion takes a whole text that has digits exactly if the text is a numeral. -/
theorem converted_whole_iff {Result : Type} {convert : ℤ → Result} {noDigits value : Result}
    {converted : Result × CString}
    (conversion : converted =
      let (negative, base, start) := numeralStart text
      let digits := start.takeWhile (isDigitOf base)
      if digits = [] then (noDigits, text)
      else
        (convert (if negative then -(digitsValue base digits : ℤ) else digitsValue base digits),
          start.drop digits.length)) :
    (converted.2.length ≠ text.length ∧ converted.2 = [] ∧ converted.1 = value) ↔
      ∃ denoted, numeral text = some denoted ∧ convert denoted = value := by
  have shorter := length_numeralStart_le text
  simp only [numeral_eq_some_iff, conversion]
  generalize numeralStart text = scanned at shorter ⊢
  rcases scanned with ⟨negative, base, start⟩
  simp only at shorter ⊢
  by_cases none : start.takeWhile (isDigitOf base) = []
  · simp [none]
  · have left := length_left_lt shorter none
    simp only [none, if_false, ne_eq, left.ne, not_false_eq_true, true_and]
    constructor
    · rintro ⟨whole, rfl⟩
      exact ⟨_, ⟨whole, rfl⟩, rfl⟩
    · rintro ⟨_, ⟨whole, rfl⟩, rfl⟩
      exact ⟨whole, rfl⟩

theorem strtoul_whole_iff {value : ℕ} :
    ((strtoul bits text).2.length ≠ text.length ∧ (strtoul bits text).2 = [] ∧
        (strtoul bits text).1 = value) ↔
      ∃ denoted, numeral text = some denoted ∧ toUlong bits denoted = value :=
  converted_whole_iff (strtoul_eq bits text)

theorem strtol_whole_iff {value : ℤ} :
    ((strtol bits text).2.length ≠ text.length ∧ (strtol bits text).2 = [] ∧
        (strtol bits text).1 = value) ↔
      ∃ denoted, numeral text = some denoted ∧ toLong bits denoted = value :=
  converted_whole_iff rfl

end Conversion

/-! ## Canonical decimal numerals -/

/-- Decimal digits without a leading zero. -/
def CanonicalDecimal (text : CString) : Prop :=
  text ≠ [] ∧ text.all Char.isDigit ∧ (text.head? = some '0' → text = ['0'])

instance (text : CString) : Decidable (CanonicalDecimal text) :=
  inferInstanceAs (Decidable (_ ∧ _ ∧ _))

theorem canonicalDecimal_toDigits (number : ℕ) : CanonicalDecimal (Nat.toDigits 10 number) := by
  refine ⟨Nat.toDigits_ne_nil, List.all_eq_true.mpr fun _ => isDigit_of_mem_toDigits, ?_⟩
  intro head
  rcases Nat.eq_zero_or_pos number with rfl | positive
  · exact Nat.toDigits_zero 10
  · exact absurd head (head?_toDigits_ne_zero positive)

/-- A digit is the rendering of its value. -/
theorem toDigits_digit {character : Char} (digit : character.isDigit) :
    Nat.toDigits 10 (character.toNat - 48) = [character] := by
  have bounds := (isDigit_iff character).mp digit
  rw [Nat.toDigits_of_lt_base (by omega)]
  congr 1
  apply Char.toNat_inj.mp
  rw [Nat.toNat_digitChar_of_lt_ten (by omega)]
  omega

/-- More digits after the rendering of a positive number render a larger number. -/
theorem toDigits_append_digits {number : ℕ} (positive : 0 < number) {digits : CString}
    (digit : digits.all Char.isDigit) :
    ∃ larger, 0 < larger ∧ Nat.toDigits 10 number ++ digits = Nat.toDigits 10 larger := by
  induction digits generalizing number with
  | nil => exact ⟨number, positive, List.append_nil _⟩
  | cons first rest ih =>
      rw [List.all_cons, Bool.and_eq_true] at digit
      have bounds := (isDigit_iff first).mp digit.1
      have next := Nat.toDigits_append_toDigits (b := 10) (n := number)
        (d := first.toNat - 48) (by decide) positive (by omega)
      rw [toDigits_digit digit.1] at next
      rcases ih (show 0 < 10 * number + (first.toNat - 48) by omega) digit.2 with
        ⟨larger, larger_pos, rendered⟩
      refine ⟨larger, larger_pos, ?_⟩
      rw [← rendered, ← next, List.append_assoc]
      rfl

/-- A canonical numeral is the decimal rendering of a number. -/
theorem CanonicalDecimal.exists_toDigits {text : CString} (canonical : CanonicalDecimal text) :
    ∃ number, text = Nat.toDigits 10 number := by
  rcases canonical with ⟨nonempty, digit, leading⟩
  cases text with
  | nil => exact absurd rfl nonempty
  | cons first rest =>
      by_cases zero : first = '0'
      · exact ⟨0, by rw [leading (by rw [zero]; rfl), Nat.toDigits_zero]⟩
      · rw [List.all_cons, Bool.and_eq_true] at digit
        have bounds := (isDigit_iff first).mp digit.1
        have positive : 0 < first.toNat - 48 := by
          have different : first.toNat ≠ '0'.toNat := fun same => zero (Char.toNat_inj.mp same)
          have : '0'.toNat = 48 := rfl
          omega
        rcases toDigits_append_digits positive digit.2 with ⟨number, _, rendered⟩
        rw [toDigits_digit digit.1] at rendered
        exact ⟨number, rendered⟩

end CLib
