import BacnetZephyr.Foundation.JsonText

/-!
# The bytes of a JSON string

`unescape` reads the body of a JSON string as the bytes it stands for. It accepts every
byte that may stand for itself, whether or not the bytes together are valid UTF-8, and the
escapes of one character; pairs of surrogates are not among them.

An encoder that prints one piece for each byte is known by its pieces. Where each of them
reads back as its byte, `EncodesBytes`, bodies read back as their bytes.
-/

namespace JsonText

open CLib

/-- Text in which every quote and every backslash belongs to an escape. -/
inductive Escaped : CString → Prop where
  | nil : Escaped []
  | plain {c : Char} {rest : CString} : c ≠ '"' → c ≠ '\\' → Escaped rest → Escaped (c :: rest)
  | letter {letter c : Char} {rest : CString} : escapedLetter letter = some c → Escaped rest →
      Escaped ('\\' :: letter :: rest)
  | unicode {digits rest : CString} {value : ℕ} : Hex4 digits value → Escaped rest →
      Escaped ('\\' :: 'u' :: (digits ++ rest))

/-! ## Reading -/

/-- Where the reader is: between characters, after a backslash, or after `\u` and digits. -/
inductive Reading where
  | plain
  | escape
  | unicode (digits : CString)

/-- What one character adds to the bytes, and where the reader is then. -/
def Reading.step : Reading → Char → Option (Reading × List UInt8)
  | .plain, c =>
      if c = '\\' then some (.escape, [])
      else if c = '"' ∨ c.toNat < 0x20 ∨ 0xff < c.toNat then none
      else some (.plain, [UInt8.ofNat c.toNat])
  | .escape, c =>
      if c = 'u' then some (.unicode [], [])
      else (escapedLetter c).map fun letter => (.plain, String.utf8EncodeChar letter)
  | .unicode digits, c =>
      if !isDigitOf 16 c then none
      else if digits.length < 3 then some (.unicode (digits ++ [c]), [])
      else
        let value := digitsValue 16 (digits ++ [c])
        if value.isValidChar then some (.plain, String.utf8EncodeChar (Char.ofNat value))
        else none

def Reading.run : Reading → CString → Option (List UInt8)
  | .plain, [] => some []
  | .escape, [] => none
  | .unicode _, [] => none
  | reading, c :: rest =>
      match reading.step c with
      | none => none
      | some (next, bytes) => (next.run rest).map (bytes ++ ·)

/-- The bytes that the body of a JSON string stands for. -/
def unescape (body : CString) : Option (List UInt8) := Reading.plain.run body

section Reading

variable {c : Char} {rest : CString}

theorem Reading.run_cons {reading next : Reading} {bytes : List UInt8}
    (step : reading.step c = some (next, bytes)) (rest : CString) :
    reading.run (c :: rest) = (next.run rest).map (bytes ++ ·) := by
  cases reading with
  | plain => rw [Reading.run, step]
  | escape => rw [Reading.run, step]
  | unicode digits => rw [Reading.run, step]

/-- A step that adds nothing leaves the reading to the rest. -/
theorem Reading.run_silent {reading next : Reading} (step : reading.step c = some (next, []))
    (rest : CString) :
    reading.run (c :: rest) = next.run rest := by
  rw [Reading.run_cons step]
  simp

theorem unescape_plain (printable : 0x20 ≤ c.toNat) (byte : c.toNat ≤ 0xff) (quote : c ≠ '"')
    (backslash : c ≠ '\\') :
    unescape (c :: rest) = (unescape rest).map (UInt8.ofNat c.toNat :: ·) := by
  have step : Reading.plain.step c = some (.plain, [UInt8.ofNat c.toNat]) := by
    rw [Reading.step, if_neg backslash, if_neg]
    rintro (same | low | high)
    · exact quote same
    · omega
    · omega
  exact Reading.run_cons step rest

theorem escape_step : Reading.plain.step '\\' = some (.escape, []) := rfl

/-- The escapes of one letter stand for ASCII characters. -/
theorem escapedLetter_ascii {letter c : Char} (isLetter : escapedLetter letter = some c) :
    letter ≠ 'u' ∧ c.toNat < 0x80 ∧ 0x20 ≤ letter.toNat := by
  unfold escapedLetter at isLetter
  split at isLetter
  all_goals
    cases isLetter
  all_goals
    decide

theorem unescape_letter {letter : Char} (isLetter : escapedLetter letter = some c) :
    unescape ('\\' :: letter :: rest) = (unescape rest).map (UInt8.ofNat c.toNat :: ·) := by
  rcases escapedLetter_ascii isLetter with ⟨other, ascii, -⟩
  have step : Reading.escape.step letter = some (.plain, [UInt8.ofNat c.toNat]) := by
    rw [Reading.step, if_neg other, isLetter, Option.map_some, utf8EncodeChar_of_ascii ascii]
  rw [unescape, Reading.run_silent escape_step, Reading.run_cons step]
  rfl

theorem utf8EncodeChar_ofNat {code : ℕ} (ascii : code < 0x80) :
    String.utf8EncodeChar (Char.ofNat code) = [UInt8.ofNat code] := by
  have same : (Char.ofNat code).toNat = code := toNat_ofNat (by omega)
  rw [utf8EncodeChar_of_ascii (by rw [same]; exact ascii), same]

theorem Reading.step_unicode {digits : CString} (digit : isDigitOf 16 c)
    (short : digits.length < 3) :
    (Reading.unicode digits).step c = some (.unicode (digits ++ [c]), []) := by
  rw [Reading.step, if_neg (by simp [digit]), if_pos short]

theorem unescape_unicode {digits : CString} {value : ℕ} (hex : Hex4 digits value)
    (ascii : value < 0x80) :
    unescape ('\\' :: 'u' :: (digits ++ rest)) =
      (unescape rest).map (UInt8.ofNat value :: ·) := by
  rcases digits with _ | ⟨first, _ | ⟨second, _ | ⟨third, _ | ⟨fourth, _ | ⟨fifth, more⟩⟩⟩⟩⟩
  · cases hex.length
  · cases hex.length
  · cases hex.length
  · cases hex.length
  · have digit := hex.digit
    simp only [List.forall_mem_cons] at digit
    have last : (Reading.unicode [first, second, third]).step fourth =
        some (.plain, [UInt8.ofNat value]) := by
      have denoted : digitsValue 16 ([first, second, third] ++ [fourth]) = value := hex.value
      have valid : value.isValidChar := Or.inl (by omega)
      rw [Reading.step, if_neg (by simp [digit]), if_neg (by simp)]
      simp only [denoted, if_pos valid, utf8EncodeChar_ofNat ascii]
    rw [unescape, Reading.run_silent escape_step]
    rw [@Reading.run_silent 'u' .escape (.unicode []) rfl]
    simp only [List.cons_append, List.nil_append]
    rw [Reading.run_silent (Reading.step_unicode digit.1 (by simp)),
      Reading.run_silent (Reading.step_unicode digit.2.1 (by simp)),
      Reading.run_silent (Reading.step_unicode digit.2.2.1 (by simp))]
    exact Reading.run_cons last rest
  · cases hex.length

end Reading

/-! ## Encoders -/

/-- The piece reads back as the byte, wherever it stands. -/
structure EncodesByte (piece : CString) (byte : UInt8) : Prop where
  printable : ∀ c ∈ piece, 0x20 ≤ c.toNat
  escaped : ∀ {rest}, Escaped rest → Escaped (piece ++ rest)
  decoded : ∀ rest, unescape (piece ++ rest) = (unescape rest).map (byte :: ·)

/-- Every byte reads back from its piece. -/
def EncodesBytes (encode : UInt8 → CString) : Prop := ∀ byte, EncodesByte (encode byte) byte

section Encoders

variable {c : Char} {byte : UInt8} {encode : UInt8 → CString}

theorem EncodesByte.plain (same : c.toNat = byte.toNat) (printable : 0x20 ≤ byte.toNat)
    (quote : c ≠ '"') (backslash : c ≠ '\\') : EncodesByte [c] byte where
  printable := by
    simp [same, printable]
  escaped := .plain quote backslash
  decoded rest := by
    have bound := byte.toNat_lt
    rw [List.singleton_append, unescape_plain (by omega) (by omega) quote backslash, same,
      UInt8.ofNat_toNat]

theorem EncodesByte.letter {letter : Char} (isLetter : escapedLetter letter = some c)
    (same : c.toNat = byte.toNat) : EncodesByte ['\\', letter] byte where
  printable := by
    have visible := (escapedLetter_ascii isLetter).2.2
    simp only [List.forall_mem_cons]
    exact ⟨by decide, visible, List.forall_mem_nil _⟩
  escaped := .letter isLetter
  decoded rest := by
    rw [List.cons_append, List.singleton_append, unescape_letter isLetter, same,
      UInt8.ofNat_toNat]

theorem printable_of_isDigitOf (digit : isDigitOf 16 c) : 0x20 ≤ c.toNat := by
  by_cases control : c.toNat < 0x20
  · have none : digitValue c = none := by
      have zero : '0'.toNat = 48 := rfl
      have lower : 'a'.toNat = 97 := rfl
      have upper : 'A'.toNat = 65 := rfl
      simp only [digitValue]
      rw [if_neg (by omega), if_neg (by omega), if_neg (by omega)]
    rw [isDigitOf, none] at digit
    cases digit
  · omega

theorem EncodesByte.unicode {digits : CString} (hex : Hex4 digits byte.toNat)
    (ascii : byte.toNat < 0x80) : EncodesByte ('\\' :: 'u' :: digits) byte where
  printable := by
    simp only [List.forall_mem_cons]
    exact ⟨by decide, by decide, fun c mem => printable_of_isDigitOf (hex.digit c mem)⟩
  escaped := .unicode hex
  decoded rest := by
    rw [List.cons_append, List.cons_append, unescape_unicode hex ascii, UInt8.ofNat_toNat]

theorem EncodesBytes.printable (encodes : EncodesBytes encode) (bytes : List UInt8) :
    ∀ c ∈ bytes.flatMap encode, 0x20 ≤ c.toNat := by
  intro c mem
  rcases List.mem_flatMap.mp mem with ⟨byte, -, memPiece⟩
  exact (encodes byte).printable c memPiece

theorem EncodesBytes.escaped (encodes : EncodesBytes encode) (bytes : List UInt8) :
    Escaped (bytes.flatMap encode) := by
  induction bytes with
  | nil => exact .nil
  | cons byte rest ih =>
      rw [List.flatMap_cons]
      exact (encodes byte).escaped ih

theorem EncodesBytes.decoded (encodes : EncodesBytes encode) (bytes : List UInt8) :
    unescape (bytes.flatMap encode) = some bytes := by
  induction bytes with
  | nil => rfl
  | cons byte rest ih =>
      rw [List.flatMap_cons, (encodes byte).decoded, ih]
      rfl

/-- Different bytes have different bodies. -/
theorem EncodesBytes.injective (encodes : EncodesBytes encode) {first second : List UInt8}
    (same : first.flatMap encode = second.flatMap encode) : first = second := by
  have decoded := encodes.decoded first
  rw [same, encodes.decoded second] at decoded
  exact (Option.some.inj decoded).symm

end Encoders

end JsonText
