import BacnetZephyr.Foundation.JsonString
import BacnetZephyr.Shell.File.WellFormed

/-!
# The string encoder of the file shell

`file_json_string_data` prints a piece for each byte: a named escape, a numeric escape for
the other control characters, zero among them, or the byte itself. The cases of
`encodesByte_fileJsonCharacter` are those of its `switch`.
-/

namespace BacnetZephyr

open CLib JsonText

/-- A byte that stands for itself is printable. -/
theorem encodesByte_printable {byte : UInt8} (quote : byte ≠ 0x22) (backslash : byte ≠ 0x5c)
    (printable : ¬byte < 0x20) : EncodesByte [Char.ofNat byte.toNat] byte := by
  have bound := byte.toNat_lt
  have code : (Char.ofNat byte.toNat).toNat = byte.toNat := toNat_ofNat (by omega)
  have other : ∀ {c : Char}, byte ≠ UInt8.ofNat c.toNat → Char.ofNat byte.toNat ≠ c := by
    rintro c different rfl
    rw [code, UInt8.ofNat_toNat] at different
    exact different rfl
  rw [UInt8.lt_iff_toNat_lt] at printable
  exact .plain code (Nat.le_of_not_lt printable) (other quote) (other backslash)

theorem encodesByte_fileJsonCharacter (byte : UInt8) :
    EncodesByte (fileJsonCharacter byte) byte := by
  simp only [fileJsonCharacter]
  split
  · rename_i special
    rcases special with rfl | rfl
    · exact .letter rfl rfl
    · exact .letter rfl rfl
  rename_i plain
  split
  · rename_i backspace
    rw [backspace]
    exact .letter rfl rfl
  split
  · rename_i formFeed
    rw [formFeed]
    exact .letter rfl rfl
  split
  · rename_i newline
    rw [newline]
    exact .letter rfl rfl
  split
  · rename_i carriageReturn
    rw [carriageReturn]
    exact .letter rfl rfl
  split
  · rename_i tab
    rw [tab]
    exact .letter rfl rfl
  split
  · rename_i control
    rw [UInt8.lt_iff_toNat_lt] at control
    exact .unicode hex4_hexByte (Nat.lt_trans control (by decide))
  · rename_i printable
    rw [not_or] at plain
    exact encodesByte_printable plain.1 plain.2 printable

theorem encodesBytes_fileJsonCharacter : EncodesBytes fileJsonCharacter :=
  encodesByte_fileJsonCharacter

/-- The text between the quotes. -/
def fileJsonBody (value : List UInt8) : CString := value.flatMap fileJsonCharacter

theorem fileJsonStringData_eq (value : List UInt8) :
    fileJsonStringData value = '"' :: (fileJsonBody value ++ ['"']) := rfl

theorem fileJsonBody_of_stringData {first second : List UInt8}
    (same : fileJsonStringData first = fileJsonStringData second) :
    fileJsonBody first = fileJsonBody second := by
  rw [fileJsonStringData_eq, fileJsonStringData_eq, List.cons.injEq] at same
  exact List.append_cancel_right same.2

/--
The body of a printed string has no control character and no quote or backslash outside
an escape, and it stands for exactly the bytes that were given.
-/
theorem fileJsonStringData_exact (value : List UInt8) :
    (∃ body, fileJsonStringData value = '"' :: (body ++ ['"']) ∧
      (∀ c ∈ body, 0x20 ≤ c.toNat) ∧ Escaped body ∧ unescape body = some value) ∧
    (∀ other, fileJsonStringData other = fileJsonStringData value → other = value) ∧
    (∀ characters, value = utf8Bytes characters →
      ValueText (fileJsonStringData value) (.string characters)) := by
  have encodes := encodesBytes_fileJsonCharacter
  refine ⟨⟨fileJsonBody value, fileJsonStringData_eq value, encodes.printable value,
    encodes.escaped value, encodes.decoded value⟩, ?_, ?_⟩
  · intro other same
    exact encodes.injective (fileJsonBody_of_stringData same)
  · rintro characters rfl
    exact valueText_fileJsonStringData characters

-- A zero byte, the last byte with a numeric escape, and a byte that is no UTF-8.
example : fileJsonStringData [0x00, 0x1f, 0x0a] = "\"\\u0000\\u001f\\n\"".toList := by decide

example : unescape (fileJsonBody [0xff, 0x22, 0x5c]) = some [0xff, 0x22, 0x5c] := by decide

end BacnetZephyr
