import BacnetZephyr.Foundation.Hex

/-!
# Reading the rows of a hexadecimal dump

The row reader of `xxd -r`. The digits a row begins with are its offset. After them,
pairs of adjacent digits are bytes; a single other character between two bytes is
ignored, and a second one ends the row, as does the sixteenth byte.
-/

namespace CLib

/-- What lies directly before the next character of a row. -/
inductive RowGap where
  | none
  | byte
  /-- A complete byte and one character that is no digit. -/
  | apart
deriving DecidableEq

/-- The bytes of a row: how many more are read, a first digit without its second, and the gap. -/
def rowBytes : ℕ → Option ℕ → RowGap → CString → List UInt8
  | _, _, _, [] => []
  | 0, _, _, _ :: _ => []
  | room + 1, pending, gap, character :: rest =>
      match digitValue character, pending, gap with
      | some low, some high, _ => UInt8.ofNat (high * 16 + low) :: rowBytes room none .byte rest
      | some high, none, _ => rowBytes (room + 1) (some high) .none rest
      | none, _, .none => rowBytes (room + 1) none .none rest
      | none, _, .byte => rowBytes (room + 1) none .apart rest
      | none, _, .apart => []

def xxdRow (row : CString) : ℕ × List UInt8 :=
  (digitsValue 16 (row.takeWhile (isDigitOf 16)),
    rowBytes 16 none .none (row.dropWhile (isDigitOf 16)))

section Rules

variable {room : ℕ} {gap : RowGap} {rest : CString}

@[simp]
theorem rowBytes_hexByte (byte : UInt8) :
    rowBytes (room + 1) none gap (hexByte byte ++ rest) =
      byte :: rowBytes room none .byte rest := by
  have bound := byte.toNat_lt
  have value : byte.toNat / 16 * 16 + byte.toNat % 16 = byte.toNat := by omega
  have high := digitValue_digitChar (show byte.toNat / 16 < 16 by omega)
  have low := digitValue_digitChar (show byte.toNat % 16 < 16 by omega)
  simp only [hexByte, List.cons_append, List.nil_append, rowBytes, high, low, value,
    UInt8.ofNat_toNat]

theorem rowBytes_before {character : Char} (other : digitValue character = none) :
    rowBytes (room + 1) none .none (character :: rest) = rowBytes (room + 1) none .none rest := by
  simp only [rowBytes, other]

@[simp]
theorem rowBytes_blank : rowBytes (room + 1) none .byte (' ' :: rest) =
    rowBytes (room + 1) none .apart rest := by
  have blank : digitValue ' ' = none := rfl
  simp only [rowBytes, blank]

/-- A second blank ends the row. -/
@[simp]
theorem rowBytes_blanks : rowBytes (room + 1) none .apart (' ' :: rest) = [] := by
  have blank : digitValue ' ' = none := rfl
  simp only [rowBytes, blank]

/-- A row is its offset, a character that is no digit, and its bytes. -/
theorem xxdRow_hexWord (offset : ℕ) {separator : Char} (other : digitValue separator = none) :
    xxdRow (hexWord offset ++ separator :: rest) = (offset, rowBytes 16 none .none rest) := by
  have ends : ¬isDigitOf 16 separator = true := by simp [isDigitOf, other]
  have digits : ∀ character ∈ hexWord offset, isDigitOf 16 character :=
    fun _ mem => isDigitOf_of_mem_hexWord mem
  rw [xxdRow, List.takeWhile_append_of_pos digits, List.dropWhile_append_of_pos digits,
    List.takeWhile_cons_of_neg ends, List.dropWhile_cons_of_neg ends, List.append_nil,
    digitsValue_hexWord, rowBytes_before other]

end Rules

end CLib
