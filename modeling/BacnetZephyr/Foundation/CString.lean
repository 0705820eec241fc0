import Mathlib.Algebra.Group.Nat.Defs
import Mathlib.Data.List.TakeWhile
import Mathlib.Data.List.Basic

/-!
# C strings and numerals

C strings are represented by the characters before their terminator. This file
gives the part of the C library used by text formats that carry numbers: the
`%lu` conversion, truncating formatted output, and `strtoul` with base zero.

The decimal rendering is `Nat.toDigits 10`, so the facts about it in the core
library apply as they stand. The main result is `strtoul_toDigits`: base
detection does not disturb a canonical decimal numeral, because such a numeral
starts with `0` only when it is `0` itself.
-/

namespace CLib

/-- A C string: the characters before the terminating NUL. -/
abbrev CString := List Char

/-! ## Error numbers -/

namespace Errno

abbrev eperm : Int := 1
abbrev enoent : Int := 2
abbrev eio : Int := 5
abbrev e2big : Int := 7
abbrev enomem : Int := 12
abbrev eacces : Int := 13
abbrev eexist : Int := 17
abbrev einval : Int := 22
abbrev enospc : Int := 28
abbrev erange : Int := 34
abbrev ebadmsg : Int := 77
abbrev enametoolong : Int := 91
abbrev ealready : Int := 120
abbrev enotsup : Int := 134
abbrev eoverflow : Int := 139

end Errno

/-! ## Formatted output -/

/--
`snprintf` into a buffer of `bufferSize` bytes: the value returned is the length
of the whole text, the buffer keeps what fits before the terminator.
-/
def snprintf (bufferSize : ℕ) (text : CString) : Int × CString :=
  (text.length, text.take (bufferSize - 1))

theorem snprintf_of_fits {bufferSize : ℕ} {text : CString} (fits : text.length < bufferSize) :
    snprintf bufferSize text = ((text.length : Int), text) := by
  simp only [snprintf, Prod.mk.injEq, true_and]
  exact List.take_of_length_le (by omega)

/-- The conversions `%u` and `%llu`. -/
abbrev unsignedText (number : ℕ) : CString := Nat.toDigits 10 number

/-! ## Numerals -/

/-- The value of a digit in bases up to sixteen. -/
def digitValue (character : Char) : Option ℕ :=
  let code := character.toNat
  if '0'.toNat ≤ code ∧ code ≤ '9'.toNat then some (code - '0'.toNat)
  else if 'a'.toNat ≤ code ∧ code ≤ 'f'.toNat then some (code - 'a'.toNat + 10)
  else if 'A'.toNat ≤ code ∧ code ≤ 'F'.toNat then some (code - 'A'.toNat + 10)
  else none

def isDigitOf (base : ℕ) (character : Char) : Bool :=
  match digitValue character with
  | some value => value < base
  | none => false

def digitsValue (base : ℕ) (digits : CString) : ℕ :=
  digits.foldl (fun value character => value * base + (digitValue character).getD 0) 0

/-- `isspace` in the C locale. -/
def isSpace (character : Char) : Bool :=
  let code := character.toNat
  code = ' '.toNat ∨ ('\t'.toNat ≤ code ∧ code ≤ '\r'.toNat)

/-- The sign `strtoul` accepts before the digits, and the text after it. -/
def splitSign : CString → Bool × CString
  | '-' :: rest => (true, rest)
  | '+' :: rest => (false, rest)
  | text => (false, text)

/-- The base chosen by base zero, and the text its digits start at. -/
def detectBase : CString → ℕ × CString
  | '0' :: 'x' :: digit :: rest =>
      if isDigitOf 16 digit then (16, digit :: rest) else (8, '0' :: 'x' :: digit :: rest)
  | '0' :: 'X' :: digit :: rest =>
      if isDigitOf 16 digit then (16, digit :: rest) else (8, '0' :: 'X' :: digit :: rest)
  | '0' :: rest => (8, '0' :: rest)
  | text => (10, text)

def ulongMax (bits : ℕ) : ℕ := 2 ^ bits - 1

/--
`strtoul(text, &end, 0)` with an `unsigned long` of `bits` bits: the value and the
text `end` points at. Without digits `end` is the start of the text.
-/
def strtoul (bits : ℕ) (text : CString) : ℕ × CString :=
  let (negative, unsigned) := splitSign (text.dropWhile isSpace)
  let (base, start) := detectBase unsigned
  let digits := start.takeWhile (isDigitOf base)
  if digits = [] then (0, text)
  else
    let value := digitsValue base digits
    let result :=
      if ulongMax bits < value then ulongMax bits
      else if negative then (2 ^ bits - value) % 2 ^ bits
      else value
    (result, start.drop digits.length)

/-- `atoi`, whose value C leaves open where it does not fit an `int`. -/
def atoi (text : CString) : ℤ :=
  let (negative, unsigned) := splitSign (text.dropWhile isSpace)
  let value : ℤ := digitsValue 10 (unsigned.takeWhile (isDigitOf 10))
  if negative then -value else value

/-! ## Decimal digits -/

theorem isDigit_iff (character : Char) :
    character.isDigit ↔ 48 ≤ character.toNat ∧ character.toNat ≤ 57 := by
  simp only [Char.isDigit, Bool.and_eq_true, decide_eq_true_eq]
  rfl

theorem digitValue_of_isDigit {character : Char} (digit : character.isDigit) :
    digitValue character = some (character.toNat - 48) := by
  have bounds := (isDigit_iff character).mp digit
  simp [digitValue, bounds]

theorem isDigitOf_ten_of_isDigit {character : Char} (digit : character.isDigit) :
    isDigitOf 10 character := by
  have bounds := (isDigit_iff character).mp digit
  simp only [isDigitOf, digitValue_of_isDigit digit, decide_eq_true_eq]
  omega

theorem isDigit_of_mem_toDigits {number : ℕ} {character : Char}
    (mem : character ∈ Nat.toDigits 10 number) : character.isDigit :=
  Nat.isDigit_of_mem_toDigits (by decide) (by decide) mem

/-- A character that is no digit does not occur in a decimal rendering. -/
theorem notMem_toDigits {number : ℕ} {character : Char} (notDigit : character.isDigit = false) :
    character ∉ Nat.toDigits 10 number := by
  intro mem
  rw [isDigit_of_mem_toDigits mem] at notDigit
  contradiction

theorem length_toDigits_uint32 (number : UInt32) :
    (Nat.toDigits 10 number.toNat).length ≤ 10 := by
  apply (Nat.length_toDigits_le_iff (by decide) (by decide)).mpr
  have := number.toNat_lt
  omega

theorem isDigit_ne {character other : Char} (digit : character.isDigit)
    (notDigit : other.isDigit = false) : character ≠ other := by
  rintro rfl
  rw [digit] at notDigit
  contradiction

theorem isAlpha_bounds {character : Char} (letter : character.isAlpha) :
    (65 ≤ character.toNat ∧ character.toNat ≤ 90) ∨
      (97 ≤ character.toNat ∧ character.toNat ≤ 122) := by
  rcases Bool.or_eq_true_iff.mp letter with upper | lower
  · exact .inl (of_decide_eq_true upper)
  · have bounds := Bool.and_eq_true_iff.mp lower
    exact .inr ⟨of_decide_eq_true bounds.1, of_decide_eq_true bounds.2⟩

theorem isDigit_eq_false_of_isAlpha {character : Char} (letter : character.isAlpha) :
    character.isDigit = false := by
  rw [← Bool.not_eq_true, isDigit_iff]
  have bounds := isAlpha_bounds letter
  omega

theorem digitsValue_ten_eq (digits : CString) (digit : ∀ character ∈ digits, character.isDigit) :
    digitsValue 10 digits = Nat.ofDigitChars 10 digits 0 := by
  rw [Nat.ofDigitChars_eq_foldl, digitsValue]
  apply List.foldl_ext
  intro value character mem
  rw [digitValue_of_isDigit (digit character mem)]
  simp [Nat.mul_comm]

@[simp]
theorem digitsValue_toDigits (number : ℕ) : digitsValue 10 (Nat.toDigits 10 number) = number := by
  rw [digitsValue_ten_eq _ (fun _ mem => isDigit_of_mem_toDigits mem)]
  exact Nat.ofDigitChars_ten_toDigits

theorem toDigits_injective : Function.Injective (Nat.toDigits 10) := by
  intro left right equal
  have values := congrArg (digitsValue 10) equal
  simpa using values

/-- The first digit of a positive number is not zero. -/
theorem head?_toDigits_ne_zero {number : ℕ} (positive : 0 < number) :
    (Nat.toDigits 10 number).head? ≠ some '0' := by
  induction number using Nat.strong_induction_on with
  | _ number ih =>
      by_cases small : number < 10
      · rw [Nat.toDigits_of_lt_base small]
        simp
        omega
      · rw [Nat.toDigits_of_base_le (by decide) (by omega),
          List.head?_append_of_ne_nil _ Nat.toDigits_ne_nil]
        exact ih (number / 10) (by omega) (by omega)

/-! ## Reading a decimal rendering back -/

theorem dropWhile_isSpace_of_digits {digits : CString}
    (digit : ∀ character ∈ digits, character.isDigit) : digits.dropWhile isSpace = digits := by
  cases digits with
  | nil => rfl
  | cons first rest =>
      have bounds := (isDigit_iff first).mp (digit first (by simp))
      have notSpace : isSpace first = false := by
        simp [isSpace]
        omega
      simp [notSpace]

theorem splitSign_of_digits {digits : CString}
    (digit : ∀ character ∈ digits, character.isDigit) : splitSign digits = (false, digits) := by
  unfold splitSign
  split
  · exact absurd (digit '-' (by simp)) (by decide)
  · exact absurd (digit '+' (by simp)) (by decide)
  · rfl

theorem detectBase_of_head?_ne_zero {digits : CString} (head : digits.head? ≠ some '0') :
    detectBase digits = (10, digits) := by
  unfold detectBase
  split <;> simp_all

/-- A canonical decimal numeral is read back exactly, with nothing left over. -/
theorem strtoul_toDigits {bits number : ℕ} (fits : number ≤ ulongMax bits) :
    strtoul bits (Nat.toDigits 10 number) = (number, []) := by
  have digit : ∀ character ∈ Nat.toDigits 10 number, character.isDigit :=
    fun _ mem => isDigit_of_mem_toDigits mem
  simp only [strtoul, dropWhile_isSpace_of_digits digit, splitSign_of_digits digit]
  by_cases zero : number = 0
  · subst number
    simp [Nat.toDigits_zero, detectBase, isDigitOf, digitValue, digitsValue]
  · have all : (Nat.toDigits 10 number).takeWhile (isDigitOf 10) = Nat.toDigits 10 number :=
      List.takeWhile_eq_self_iff.mpr (fun _ mem => isDigitOf_ten_of_isDigit (digit _ mem))
    simp [detectBase_of_head?_ne_zero (head?_toDigits_ne_zero (by omega : 0 < number)), all,
      Nat.toDigits_ne_nil, fits.not_gt]

/-! ## Letters -/

theorem isAlpha_of_toLower {character : Char} (letter : character.toLower.isAlpha) :
    character.isAlpha := by
  by_cases upper : character.val ≥ 'A'.val ∧ character.val ≤ 'Z'.val
  · exact Bool.or_eq_true_iff.mpr (Or.inl (decide_eq_true upper))
  · have same : character.toLower = character := dif_neg upper
    rwa [same] at letter

end CLib
