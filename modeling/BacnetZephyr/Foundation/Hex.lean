import BacnetZephyr.Foundation.CString

/-!
# Hexadecimal text

Bytes and numbers as lower-case hexadecimal text, in the forms of the conversions
`%02x` and `%08x`, and the reading of pairs of digits as bytes.
-/

namespace CLib

/-- `%02x` of a byte. -/
def hexByte (byte : UInt8) : CString :=
  [Nat.digitChar (byte.toNat / 16), Nat.digitChar (byte.toNat % 16)]

def hexText (bytes : List UInt8) : CString := bytes.flatMap hexByte

/-- `%08x`. -/
def hexWord (number : ℕ) : CString := (Nat.toDigits 16 number).leftpad 8 '0'

def bytePair (high low : Char) : Option UInt8 :=
  match digitValue high, digitValue low with
  | some high, some low => some (UInt8.ofNat (high * 16 + low))
  | _, _ => none

/-- Text made of pairs of digits as bytes. -/
def hexPairs : CString → Option (List UInt8)
  | [] => some []
  | high :: low :: rest =>
      match bytePair high low, hexPairs rest with
      | some byte, some bytes => some (byte :: bytes)
      | _, _ => none
  | [_] => none

theorem digitValue_digitChar {digit : ℕ} (small : digit < 16) :
    digitValue (Nat.digitChar digit) = some digit := by
  revert digit
  decide

theorem isDigitOf_digitChar {digit : ℕ} (small : digit < 16) :
    isDigitOf 16 (Nat.digitChar digit) := by
  simp [isDigitOf, digitValue_digitChar small, small]

theorem isDigitOf_of_mem_hexByte {byte : UInt8} {character : Char}
    (mem : character ∈ hexByte byte) : isDigitOf 16 character := by
  have := byte.toNat_lt
  simp only [hexByte, List.mem_cons, List.not_mem_nil, or_false] at mem
  rcases mem with rfl | rfl
  · exact isDigitOf_digitChar (by omega)
  · exact isDigitOf_digitChar (by omega)

theorem isDigitOf_of_mem_hexText {bytes : List UInt8} {character : Char}
    (mem : character ∈ hexText bytes) : isDigitOf 16 character := by
  rcases List.mem_flatMap.mp mem with ⟨byte, _, memByte⟩
  exact isDigitOf_of_mem_hexByte memByte

@[simp]
theorem length_hexByte (byte : UInt8) : (hexByte byte).length = 2 := rfl

@[simp]
theorem length_hexText (bytes : List UInt8) : (hexText bytes).length = 2 * bytes.length := by
  induction bytes with
  | nil => rfl
  | cons byte bytes ih =>
      rw [hexText, List.flatMap_cons, List.length_append, ← hexText, ih, length_hexByte,
        List.length_cons]
      omega

theorem bytePair_hexByte (byte : UInt8) :
    bytePair (Nat.digitChar (byte.toNat / 16)) (Nat.digitChar (byte.toNat % 16)) =
      some byte := by
  have bound := byte.toNat_lt
  have value : byte.toNat / 16 * 16 + byte.toNat % 16 = byte.toNat := by omega
  rw [bytePair, digitValue_digitChar (by omega), digitValue_digitChar (by omega)]
  simp only [value, UInt8.ofNat_toNat]

theorem hexPairs_hexText (bytes : List UInt8) : hexPairs (hexText bytes) = some bytes := by
  induction bytes with
  | nil => rfl
  | cons byte bytes ih =>
      rw [hexText, List.flatMap_cons, hexByte, ← hexText]
      simp only [List.cons_append, List.nil_append, hexPairs, bytePair_hexByte, ih]

/-! ## Numbers -/

theorem isDigitOf_of_mem_toDigits {number : ℕ} {character : Char}
    (mem : character ∈ Nat.toDigits 16 number) : isDigitOf 16 character := by
  induction number using Nat.strong_induction_on with
  | _ number ih =>
      by_cases small : number < 16
      · rw [Nat.toDigits_of_lt_base small, List.mem_singleton] at mem
        rw [mem]
        exact isDigitOf_digitChar small
      · rw [Nat.toDigits_of_base_le (by decide) (by omega), List.mem_append] at mem
        rcases mem with leading | last
        · exact ih (number / 16) (by omega) leading
        · rw [List.mem_singleton] at last
          rw [last]
          exact isDigitOf_digitChar (by omega)

theorem isDigitOf_of_mem_hexWord {number : ℕ} {character : Char}
    (mem : character ∈ hexWord number) : isDigitOf 16 character := by
  rw [hexWord, List.leftpad, List.mem_append] at mem
  rcases mem with padding | digit
  · rw [List.eq_of_mem_replicate padding]
    decide
  · exact isDigitOf_of_mem_toDigits digit

theorem digitsValue_append_singleton (base : ℕ) (digits : CString) (digit : Char) :
    digitsValue base (digits ++ [digit]) =
      digitsValue base digits * base + (digitValue digit).getD 0 := by
  simp [digitsValue]

theorem digitsValue_zeros (base count : ℕ) (digits : CString) :
    digitsValue base (List.replicate count '0' ++ digits) = digitsValue base digits := by
  induction count with
  | zero => rfl
  | succ count ih =>
      have leading : 0 * base + (digitValue '0').getD 0 = 0 := by
        rw [Nat.zero_mul]
        rfl
      rw [List.replicate_succ, List.cons_append, digitsValue, List.foldl_cons, leading]
      exact ih

@[simp]
theorem digitsValue_toDigits_sixteen (number : ℕ) :
    digitsValue 16 (Nat.toDigits 16 number) = number := by
  induction number using Nat.strong_induction_on with
  | _ number ih =>
      by_cases small : number < 16
      · rw [Nat.toDigits_of_lt_base small]
        simp [digitsValue, digitValue_digitChar small]
      · rw [Nat.toDigits_of_base_le (by decide) (by omega), digitsValue_append_singleton,
          ih (number / 16) (by omega), digitValue_digitChar (by omega)]
        simp only [Option.getD_some]
        omega

/-- A number written in eight digits is read back. -/
@[simp]
theorem digitsValue_hexWord (number : ℕ) : digitsValue 16 (hexWord number) = number := by
  rw [hexWord, List.leftpad, digitsValue_zeros, digitsValue_toDigits_sixteen]

end CLib
