import BacnetZephyr.Foundation.CString

/-!
# Formatted input

`sscanf` for formats of numbers, bounded words, bounded texts up to a character, and
ordinary characters. The result lists the conversions in order; their number is what
`sscanf` returns, except that it returns the negative `EOF` where the input ends before
the first conversion.
-/

namespace CLib

inductive Directive where
  /-- An ordinary character other than white space. -/
  | literal (character : Char)
  /-- `%u` or `%lu` for a type of `bits` bits. -/
  | unsigned (bits : ℕ)
  /-- `%<width>s`. -/
  | word (width : ℕ)
  /-- `%<width>[^<stop>]`. -/
  | upTo (width : ℕ) (stop : Char)
deriving DecidableEq

inductive Conversion where
  | number (value : ℕ)
  | text (characters : CString)
deriving DecidableEq

/-- The value `%u` stores; C leaves a number that does not fit open. -/
def unsignedValue (bits : ℕ) (negative : Bool) (digits : CString) : ℕ :=
  let value := digitsValue 10 digits
  if ulongMax bits < value then ulongMax bits
  else if negative then (2 ^ bits - value) % 2 ^ bits
  else value

/-- The characters up to the next white space, after leading white space. -/
def firstWord (input : CString) : CString :=
  (input.dropWhile isSpace).takeWhile fun character => !isSpace character

/-- What a directive converts, if it matches, and the input after it. -/
def Directive.convert : Directive → CString → Option (Option Conversion × CString)
  | literal character, input =>
      if input.head? = some character then some (none, input.tail) else none
  | unsigned bits, input =>
      let (negative, start) := splitSign (input.dropWhile isSpace)
      let digits := start.takeWhile (isDigitOf 10)
      if digits = [] then none
      else
        some (some (.number (unsignedValue bits negative digits)), start.drop digits.length)
  | word width, input =>
      let characters := (firstWord input).take width
      if characters = [] then none
      else some (some (.text characters), (input.dropWhile isSpace).drop characters.length)
  | upTo width stop, input =>
      let characters := (input.takeWhile fun character => character ≠ stop).take width
      if characters = [] then none
      else some (some (.text characters), input.drop characters.length)

def sscanf : List Directive → CString → List Conversion
  | [], _ => []
  | directive :: format, input =>
      match directive.convert input with
      | none => []
      | some (conversion, rest) => conversion.toList ++ sscanf format rest

/-- `%<width>u`: the number, and the input after it. The sign counts as a character. -/
def convertBounded (bits width : ℕ) (input : CString) : Option (ℕ × CString) :=
  let input := input.dropWhile isSpace
  let (negative, start) := splitSign (input.take width)
  let digits := start.takeWhile (isDigitOf 10)
  if digits = [] then none
  else some (unsignedValue bits negative digits, start.drop digits.length ++ input.drop width)

/-! ## The first conversion -/

theorem sscanf_unsigned (bits : ℕ) (format : List Directive) (input : CString) :
    sscanf (.unsigned bits :: format) input = [] ∨
      ∃ value rest, sscanf (.unsigned bits :: format) input = .number value :: rest := by
  simp only [sscanf, Directive.convert]
  split
  · exact Or.inl rfl
  · rename_i converted
    split at converted
    · cases converted
    · cases converted
      exact Or.inr ⟨_, _, rfl⟩

theorem sscanf_word (width : ℕ) (format : List Directive) (input : CString) :
    (sscanf (.word width :: format) input = [] ∧ (firstWord input).take width = []) ∨
      ∃ rest, sscanf (.word width :: format) input =
        .text ((firstWord input).take width) :: rest := by
  simp only [sscanf, Directive.convert]
  split
  · rename_i converted
    split at converted
    · rename_i empty
      exact Or.inl ⟨rfl, empty⟩
    · cases converted
  · rename_i converted
    split at converted
    · cases converted
    · cases converted
      exact Or.inr ⟨_, rfl⟩

theorem sscanf_upTo (width : ℕ) (stop : Char) (format : List Directive) (input : CString) :
    sscanf (.upTo width stop :: format) input = [] ∨
      ∃ characters rest, characters.length ≤ width ∧
        sscanf (.upTo width stop :: format) input = .text characters :: rest := by
  simp only [sscanf, Directive.convert]
  split
  · exact Or.inl rfl
  · rename_i converted
    split at converted
    · cases converted
    · cases converted
      exact Or.inr ⟨_, _, List.length_take_le _ _, rfl⟩

/-! ## Numbers -/

theorem takeWhile_digits_append {digits rest : CString}
    (digit : ∀ character ∈ digits, character.isDigit)
    (stop : ∀ character, rest.head? = some character → isDigitOf 10 character = false) :
    (digits ++ rest).takeWhile (isDigitOf 10) = digits := by
  have all : ∀ character ∈ digits, isDigitOf 10 character := by
    intro character mem
    exact isDigitOf_ten_of_isDigit (digit character mem)
  rw [List.takeWhile_append_of_pos all]
  cases rest with
  | nil => simp
  | cons character rest => simp [stop character rfl]

theorem isSpace_eq_false_of_isDigit {character : Char} (digit : character.isDigit) :
    isSpace character = false := by
  have bounds := (isDigit_iff character).mp digit
  simp [isSpace]
  omega

theorem convert_unsigned {bits : ℕ} {digits rest : CString} (nonempty : digits ≠ [])
    (digit : ∀ character ∈ digits, character.isDigit)
    (stop : ∀ character, rest.head? = some character → isDigitOf 10 character = false)
    (fits : digitsValue 10 digits ≤ ulongMax bits) :
    (Directive.unsigned bits).convert (digits ++ rest) =
      some (some (.number (digitsValue 10 digits)), rest) := by
  have start : splitSign ((digits ++ rest).dropWhile isSpace) = (false, digits ++ rest) := by
    cases digits with
    | nil => exact absurd rfl nonempty
    | cons first others =>
        have firstDigit := digit first (by simp)
        have notSpace := isSpace_eq_false_of_isDigit firstDigit
        rw [List.cons_append, List.dropWhile_cons_of_neg (by simp [notSpace])]
        unfold splitSign
        split
        · rename_i same
          rw [(List.cons.inj same).1] at firstDigit
          exact absurd firstDigit (by decide)
        · rename_i same
          rw [(List.cons.inj same).1] at firstDigit
          exact absurd firstDigit (by decide)
        · rfl
  simp only [Directive.convert, start, takeWhile_digits_append digit stop, if_neg nonempty,
    unsignedValue, if_neg (Nat.not_lt.mpr fits), List.drop_left]
  rfl

/-! ## Words and texts -/

theorem isSpace_eq_false_of_isAlpha {character : Char} (letter : character.isAlpha) :
    isSpace character = false := by
  have bounds := isAlpha_bounds letter
  simp [isSpace]
  omega

theorem isDigitOf_ten_of_isAlpha {character : Char} (letter : character.isAlpha) :
    isDigitOf 10 character = false := by
  have bounds := isAlpha_bounds letter
  simp only [isDigitOf, digitValue]
  split
  · rename_i value found
    simp only [Char.reduceToNat] at found
    split at found
    · omega
    · split at found
      · simp only [Option.some.injEq] at found
        simp
        omega
      · split at found
        · simp only [Option.some.injEq] at found
          simp
          omega
        · cases found
  · rfl

theorem splitSign_of_isAlpha {first : Char} {rest : CString} (letter : first.isAlpha) :
    splitSign (first :: rest) = (false, first :: rest) := by
  unfold splitSign
  split
  · rename_i same
    rw [(List.cons.inj same).1] at letter
    exact absurd letter (by decide)
  · rename_i same
    rw [(List.cons.inj same).1] at letter
    exact absurd letter (by decide)
  · rfl

theorem dropWhile_isSpace_of_isAlpha {first : Char} {rest : CString} (letter : first.isAlpha) :
    (first :: rest).dropWhile isSpace = first :: rest :=
  List.dropWhile_cons_of_neg (by simp [isSpace_eq_false_of_isAlpha letter])

theorem convert_unsigned_of_isAlpha {bits : ℕ} {first : Char} {rest : CString}
    (letter : first.isAlpha) : (Directive.unsigned bits).convert (first :: rest) = none := by
  simp [Directive.convert, dropWhile_isSpace_of_isAlpha letter, splitSign_of_isAlpha letter,
    isDigitOf_ten_of_isAlpha letter]

theorem dropWhile_isSpace_of_noSpace {characters : CString}
    (noSpace : ∀ character ∈ characters, isSpace character = false) :
    characters.dropWhile isSpace = characters := by
  cases characters with
  | nil => rfl
  | cons first rest => exact List.dropWhile_cons_of_neg (by simp [noSpace first (by simp)])

theorem firstWord_of_noSpace {characters : CString}
    (noSpace : ∀ character ∈ characters, isSpace character = false) :
    firstWord characters = characters := by
  rw [firstWord, dropWhile_isSpace_of_noSpace noSpace, List.takeWhile_eq_self_iff]
  intro character mem
  simp [noSpace character mem]

theorem convert_word {width : ℕ} {characters : CString} (nonempty : characters ≠ [])
    (noSpace : ∀ character ∈ characters, isSpace character = false)
    (fits : characters.length ≤ width) :
    (Directive.word width).convert characters = some (some (.text characters), []) := by
  simp only [Directive.convert, firstWord_of_noSpace noSpace,
    dropWhile_isSpace_of_noSpace noSpace, List.take_of_length_le fits, if_neg nonempty,
    List.drop_length]

theorem convert_upTo {width : ℕ} {stop : Char} {characters rest : CString}
    (nonempty : characters ≠ []) (without : stop ∉ characters)
    (ends : rest = [] ∨ rest.head? = some stop) (fits : characters.length ≤ width) :
    (Directive.upTo width stop).convert (characters ++ rest) =
      some (some (.text characters), rest) := by
  have whole : ((characters ++ rest).takeWhile fun character => decide (character ≠ stop)) =
      characters := by
    rw [List.takeWhile_append_of_pos]
    · rcases ends with rfl | head
      · simp
      · cases rest with
        | nil => cases head
        | cons first rest =>
            rw [List.head?_cons, Option.some.injEq] at head
            simp [head]
    · intro character mem
      simp only [ne_eq, decide_not, Bool.not_eq_true', decide_eq_false_iff_not]
      rintro rfl
      exact without mem
  simp only [Directive.convert, whole, List.take_of_length_le fits, if_neg nonempty,
    List.drop_left]

end CLib
