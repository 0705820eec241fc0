import BacnetZephyr.Shell.Property
import Mathlib.Data.List.Basic

/-!
# Values without quotation marks

`cmd_json_is_quoted` takes a text of digits with at most one decimal point, after an
optional minus sign, for a number. A number of JSON also has a digit on either side of
the point and no zero before further digits, and where one of these is missing a bare
token is printed that is no JSON value. The hexadecimal text of a dump is such a text
whenever its digits happen to be decimal.
-/

namespace BacnetZephyr

open CLib JsonText

/-! ## The numbers of the quoting rule -/

/-- A number of JSON without an exponent. -/
def IsDecimalNumber (text : CString) : Prop :=
  ∃ sign integer fraction, text = sign ++ (integer ++ fraction) ∧
    (sign = [] ∨ sign = ['-']) ∧
    (IsDigits integer ∧ (integer.head? = some '0' → integer = ['0'])) ∧
    (fraction = [] ∨ ∃ digits, fraction = '.' :: digits ∧ IsDigits digits)

theorem IsDecimalNumber.isNumber {text : CString} (number : IsDecimalNumber text) :
    IsNumber text := by
  rcases number with ⟨sign, integer, fraction, rfl, isSign, isInteger, isFraction⟩
  exact ⟨sign, integer, fraction, [], by simp, isSign, isInteger, isFraction, Or.inl rfl⟩

def withoutSign : CString → CString
  | '-' :: rest => rest
  | text => text

/-- Digits with at most one decimal point among them. -/
def DigitsAndPoint (text : CString) : Prop :=
  (∀ c ∈ text, c.isDigit ∨ c = '.') ∧ text.count '.' ≤ 1

instance (text : CString) : Decidable (DigitsAndPoint text) :=
  inferInstanceAs (Decidable (_ ∧ _))

/-- There is a digit at either end, and no digit follows a zero in front. -/
structure StrictNumeral (text : CString) : Prop where
  first : text.head?.any Char.isDigit
  last : text.getLast?.any Char.isDigit
  zero : ∀ second rest, text = '0' :: second :: rest → second = '.'

/-- A text that the quoting rule takes for a number is one. -/
def IsSoundNumeral (text : CString) : Prop :=
  text ≠ [] → DigitsAndPoint (withoutSign text) → StrictNumeral (withoutSign text)

/-- A text that is a value of JSON as it stands. -/
def IsBareValue (text : CString) : Prop :=
  (text = "true".toList ∨ text = "false".toList ∨ text = "null".toList) ∨
    text.head? = some '"' ∨ IsDecimalNumber text

theorem withoutSign_append_singleton (text : CString) (c : Char) :
    withoutSign (text ++ [c]) =
      if text = [] ∧ c = '-' then [] else withoutSign text ++ [c] := by
  rcases text with _ | ⟨first, rest⟩
  · by_cases minus : c = '-'
    · simp [minus, withoutSign]
    · simp only [List.nil_append, minus, and_false, if_false]
      rw [withoutSign]
      · simp [withoutSign]
      · rintro rest ⟨⟩
        exact minus rfl
  · have notEmpty : ¬(first :: rest = [] ∧ c = '-') := fun both => List.cons_ne_nil _ _ both.1
    rw [if_neg notEmpty]
    by_cases minus : first = '-'
    · subst minus
      rfl
    · have stays : ∀ others : CString, withoutSign (first :: others) = first :: others := by
        intro others
        rw [withoutSign]
        rintro rest ⟨⟩
        exact minus rfl
      rw [List.cons_append, stays, stays, List.cons_append]

/-- The loop finds digits only in a text of digits with at most one point. -/
theorem jsonDigitsOnly_iff (reversed : CString) (decimalPoints : ℕ) (digitsOnly : Bool) :
    jsonDigitsOnly reversed decimalPoints digitsOnly ↔
      digitsOnly ∧ (∀ c ∈ withoutSign reversed.reverse, c.isDigit ∨ c = '.') ∧
        ((withoutSign reversed.reverse).count '.' = 0 ∨
          decimalPoints + (withoutSign reversed.reverse).count '.' ≤ 1) := by
  induction reversed generalizing decimalPoints digitsOnly with
  | nil => simp [jsonDigitsOnly, withoutSign]
  | cons digit before ih =>
      rw [jsonDigitsOnly, List.reverse_cons, withoutSign_append_singleton]
      by_cases isDigit : digit.isDigit
      · have notMinus : digit ≠ '-' := isDigit_ne isDigit rfl
        have notPoint : digit ≠ '.' := isDigit_ne isDigit rfl
        rw [if_pos isDigit, ih, if_neg (fun both => notMinus both.2)]
        simp [isDigit, notPoint, or_imp, forall_and]
      · by_cases sign : before = [] ∧ digit = '-'
        · have empty : (before.reverse = [] ∧ digit = '-') := by simpa using sign
          rw [if_neg isDigit, if_pos sign, if_pos empty, ih, sign.1]
          simp [withoutSign]
        · have notEmpty : ¬(before.reverse = [] ∧ digit = '-') := by simpa using sign
          rw [if_neg isDigit, if_neg sign, if_neg notEmpty]
          by_cases point : digit = '.'
          · subst point
            rw [if_pos rfl, ih]
            simp only [Bool.and_eq_true, decide_eq_true_eq, List.mem_append, List.mem_singleton,
              List.count_append, List.count_singleton_self]
            constructor
            · rintro ⟨⟨only, room⟩, characters, points⟩
              refine ⟨only, fun c mem => ?_, Or.inr (by omega)⟩
              rcases mem with mem | rfl
              · exact characters c mem
              · exact Or.inr rfl
            · rintro ⟨only, characters, points⟩
              exact ⟨⟨only, by omega⟩, fun c mem => characters c (Or.inl mem), by omega⟩
          · rw [if_neg point, ih]
            simp only [Bool.false_eq_true, false_and, List.mem_append, List.mem_singleton,
              false_iff, not_and]
            intro _ characters
            rcases characters digit (Or.inr rfl) with digitsOnly | isPoint
            · exact absurd digitsOnly isDigit
            · exact absurd isPoint point

theorem cmdJsonIsQuoted_eq_false_iff (value : CString) :
    cmdJsonIsQuoted value = false ↔
      (value = "true".toList ∨ value = "false".toList ∨ value = "null".toList) ∨
        value.head? = some '"' ∨ value ≠ [] ∧ DigitsAndPoint (withoutSign value) := by
  rw [cmdJsonIsQuoted]
  by_cases keyword : value = "true".toList ∨ value = "false".toList ∨ value = "null".toList
  · simp only [keyword, if_true, true_or]
  · rw [if_neg keyword]
    by_cases empty : value = []
    · subst empty
      simp
    · by_cases string : value.head? = some '"'
      · simp only [empty, string, if_false, if_true, true_or, or_true]
      · rw [if_neg empty, if_neg string, Bool.not_eq_false', jsonDigitsOnly_iff,
          List.reverse_reverse]
        simp only [keyword, string, empty, DigitsAndPoint, false_or, true_and, ne_eq,
          not_false_eq_true]
        refine and_congr_right fun _ => ?_
        omega

/-! ## Numerals of the quoting rule that are numbers -/

section Numerals

variable {text : CString}

theorem withoutSign_of_head {first : Char} {rest : CString} (digit : first.isDigit) :
    withoutSign (first :: rest) = first :: rest := by
  rw [withoutSign]
  rintro others ⟨⟩
  cases digit

theorem sign_append_withoutSign (text : CString) :
    ∃ sign, text = sign ++ withoutSign text ∧ (sign = [] ∨ sign = ['-']) := by
  by_cases minus : ∃ rest, text = '-' :: rest
  · rcases minus with ⟨rest, rfl⟩
    exact ⟨['-'], rfl, Or.inr rfl⟩
  · refine ⟨[], ?_, Or.inl rfl⟩
    rw [withoutSign, List.nil_append]
    rintro rest rfl
    exact minus ⟨rest, rfl⟩

/-- A number of JSON starts and ends with a digit, and has no zero before another digit. -/
theorem IsDecimalNumber.strictNumeral (number : IsDecimalNumber text) :
    StrictNumeral (withoutSign text) := by
  rcases number with ⟨sign, integer, fraction, rfl, isSign, ⟨⟨nonempty, digits⟩, leading⟩, points⟩
  rcases integer with _ | ⟨first, others⟩
  · contradiction
  · have digit := digits first List.mem_cons_self
    have unsigned : withoutSign (sign ++ (first :: others ++ fraction)) =
        first :: others ++ fraction := by
      rcases isSign with rfl | rfl
      · exact withoutSign_of_head digit
      · rfl
    rw [unsigned]
    refine ⟨by simpa using digit, ?_, ?_⟩
    · rcases points with rfl | ⟨after, rfl, afterNonempty, afterDigits⟩
      · rw [List.append_nil, List.getLast?_eq_some_getLast nonempty, Option.any_some]
        exact digits _ (List.getLast_mem nonempty)
      · rw [List.getLast?_append_of_ne_nil _ (List.cons_ne_nil _ _), List.getLast?_cons,
          List.getLast?_eq_some_getLast afterNonempty, Option.getD_some, Option.any_some]
        exact afterDigits _ (List.getLast_mem afterNonempty)
    · intro second rest equal
      rw [List.cons_append, List.cons.injEq] at equal
      rcases equal with ⟨rfl, tail⟩
      have alone := leading rfl
      rw [List.cons.injEq] at alone
      rcases points with rfl | ⟨after, rfl, _, _⟩
      · rw [alone.2] at tail
        cases tail
      · rw [alone.2] at tail
        cases tail
        rfl

/-- Text with at most one point after the digits in front is an integer and a fraction. -/
theorem DigitsAndPoint.split (numeral : DigitsAndPoint text) :
    ∃ integer fraction, text = integer ++ fraction ∧ (∀ c ∈ integer, c.isDigit) ∧
      (fraction = [] ∨ ∃ digits, fraction = '.' :: digits ∧ ∀ c ∈ digits, c.isDigit) := by
  rcases numeral with ⟨characters, points⟩
  induction text with
  | nil => exact ⟨[], [], rfl, by simp, Or.inl rfl⟩
  | cons c rest ih =>
      rw [List.forall_mem_cons] at characters
      rcases characters with ⟨digit | rfl, others⟩
      · have fewer : rest.count '.' ≤ 1 := Nat.le_trans List.count_le_count_cons points
        rcases ih others fewer with ⟨integer, fraction, rfl, digits, isFraction⟩
        exact ⟨c :: integer, fraction, rfl, List.forall_mem_cons.mpr ⟨digit, digits⟩, isFraction⟩
      · refine ⟨[], '.' :: rest, rfl, by simp, Or.inr ⟨rest, rfl, fun c mem => ?_⟩⟩
        rw [List.count_cons_self] at points
        have none : '.' ∉ rest := List.count_eq_zero.mp (by omega)
        rcases others c mem with digit | rfl
        · exact digit
        · exact absurd mem none

theorem StrictNumeral.isDecimalNumber (strict : StrictNumeral (withoutSign text))
    (numeral : DigitsAndPoint (withoutSign text)) : IsDecimalNumber text := by
  rcases sign_append_withoutSign text with ⟨sign, equal, isSign⟩
  rcases numeral.split with ⟨integer, fraction, body, digits, isFraction⟩
  rw [body] at strict equal
  have nonempty : integer ≠ [] := by
    rintro rfl
    have first := strict.first
    rcases isFraction with rfl | ⟨after, rfl, _⟩
    · cases first
    · cases first
  refine ⟨sign, integer, fraction, equal, isSign, ⟨⟨nonempty, digits⟩, ?_⟩, ?_⟩
  · intro zero
    rcases integer with _ | ⟨first, _ | ⟨second, others⟩⟩
    · exact absurd rfl nonempty
    · rw [List.head?_cons, Option.some.injEq] at zero
      rw [zero]
    · rw [List.head?_cons, Option.some.injEq] at zero
      subst zero
      have point := strict.zero second (others ++ fraction) rfl
      have digit := digits second (by simp)
      rw [point] at digit
      cases digit
  · rcases isFraction with rfl | ⟨after, rfl, afterDigits⟩
    · exact Or.inl rfl
    · refine Or.inr ⟨after, rfl, ?_, afterDigits⟩
      rintro rfl
      have last := strict.last
      rw [List.getLast?_append_of_ne_nil _ (List.cons_ne_nil _ _)] at last
      cases last

end Numerals

/-! ## What is printed without quotation marks -/

/-- A value gets quotation marks unless it is a value of JSON. -/
def QuotedUnlessJson (value : CString) : Prop :=
  cmdJsonIsQuoted value = false → IsBareValue value

/-- A digit of the byte is a letter. -/
def HasHexLetter (byte : UInt8) : Prop := 10 ≤ byte.toNat / 16 ∨ 10 ≤ byte.toNat % 16

instance (byte : UInt8) : Decidable (HasHexLetter byte) := inferInstanceAs (Decidable (_ ∨ _))

/-- A dump is an object with the hexadecimal text as a string. -/
def DumpedAsString (buffer : List UInt8) : Prop :=
  ∀ prefixText key suffix append, cmdJsonPrintHexDump prefixText key buffer suffix append =
    prefixText ++ '\x7b' :: keyText key
      (quoted (hexText buffer) ++ '\x7d' :: (suffix ++ (append ++ ['\n'])))

/-- A text of digits and a point that is shown bare has to be a number of JSON. -/
theorem quotedUnlessJson_iff (value : CString) :
    QuotedUnlessJson value ↔ IsSoundNumeral value := by
  rw [QuotedUnlessJson, cmdJsonIsQuoted_eq_false_iff]
  constructor
  · intro isBare nonempty numeral
    rcases isBare (Or.inr (Or.inr ⟨nonempty, numeral⟩)) with keyword | string | number
    · rcases keyword with rfl | rfl | rfl
      · exact absurd (numeral.1 't' (by decide)) (by decide)
      · exact absurd (numeral.1 'f' (by decide)) (by decide)
      · exact absurd (numeral.1 'n' (by decide)) (by decide)
    · rcases value with _ | ⟨first, rest⟩
      · contradiction
      · rw [List.head?_cons, Option.some.injEq] at string
        subst string
        exact absurd (numeral.1 '"' List.mem_cons_self) (by decide)
    · exact number.strictNumeral
  · rintro strict (keyword | string | ⟨nonempty, numeral⟩)
    · exact Or.inl keyword
    · exact Or.inr (Or.inl string)
    · exact Or.inr (Or.inr ((strict nonempty numeral).isDecimalNumber numeral))

theorem isDigit_digitChar_iff {digit : ℕ} (small : digit < 16) :
    (Nat.digitChar digit).isDigit ↔ digit < 10 := by
  revert digit
  decide

/-- All digits of a text of bytes are decimal exactly when no byte has a letter. -/
theorem isDigit_hexText_iff (buffer : List UInt8) :
    (∀ c ∈ hexText buffer, c.isDigit) ↔ ∀ byte ∈ buffer, ¬HasHexLetter byte := by
  have each : ∀ byte : UInt8, (∀ c ∈ hexByte byte, c.isDigit) ↔ ¬HasHexLetter byte := by
    intro byte
    have small := byte.toNat_lt
    simp only [hexByte, List.forall_mem_cons, List.not_mem_nil, false_imp_iff, implies_true,
      and_true]
    rw [isDigit_digitChar_iff (by omega), isDigit_digitChar_iff (by omega), HasHexLetter]
    omega
  simp only [hexText, List.mem_flatMap, forall_exists_index, and_imp]
  constructor
  · exact fun digits byte mem => (each byte).mp fun c memByte => digits c byte mem memByte
  · exact fun letters c byte mem memByte => (each byte).mpr (letters byte mem) c memByte

/-- A dump gets quotation marks if it is empty or has a letter. -/
theorem cmdJsonIsQuoted_hexText_iff (buffer : List UInt8) :
    cmdJsonIsQuoted (hexText buffer) ↔ buffer = [] ∨ ∃ byte ∈ buffer, HasHexLetter byte := by
  have hexDigit := fun c => @isDigitOf_of_mem_hexText buffer c
  have notKeyword : ∀ text : CString, (∃ c ∈ text, isDigitOf 16 c = false) →
      hexText buffer ≠ text := by
    rintro text ⟨c, mem, other⟩ rfl
    rw [hexDigit c mem] at other
    cases other
  have notString : (hexText buffer).head? ≠ some '"' :=
    fun string => absurd (hexDigit _ (List.mem_of_mem_head? string)) (by decide)
  have empty : hexText buffer = [] ↔ buffer = [] := by
    rw [← List.length_eq_zero_iff, length_hexText, ← List.length_eq_zero_iff]
    omega
  have unsigned : withoutSign (hexText buffer) = hexText buffer := by
    rw [withoutSign]
    intro rest sign
    exact absurd (hexDigit '-' (by rw [sign]; exact List.mem_cons_self)) (by decide)
  have noPoint : '.' ∉ hexText buffer := fun mem => absurd (hexDigit '.' mem) (by decide)
  have digits : DigitsAndPoint (hexText buffer) ↔ ∀ byte ∈ buffer, ¬HasHexLetter byte := by
    rw [← isDigit_hexText_iff, DigitsAndPoint, List.count_eq_zero_of_not_mem noPoint]
    constructor
    · rintro ⟨characters, _⟩ c mem
      rcases characters c mem with digit | rfl
      · exact digit
      · exact absurd mem noPoint
    · exact fun characters => ⟨fun c mem => Or.inl (characters c mem), Nat.zero_le 1⟩
  have bare := cmdJsonIsQuoted_eq_false_iff (hexText buffer)
  rw [unsigned, digits] at bare
  have notTrue := notKeyword "true".toList ⟨'t', by decide⟩
  have notFalse := notKeyword "false".toList ⟨'l', by decide⟩
  have notNull := notKeyword "null".toList ⟨'n', by decide⟩
  simp only [notTrue, notFalse, notNull, notString, false_or, ne_eq, empty] at bare
  rw [← Bool.not_eq_false, bare]
  constructor
  · intro quotes
    by_cases nil : buffer = []
    · exact Or.inl nil
    · right
      by_cases letters : ∃ byte ∈ buffer, HasHexLetter byte
      · exact letters
      · exact absurd ⟨nil, fun byte mem letter => letters ⟨byte, mem, letter⟩⟩ quotes
  · rintro (rfl | ⟨byte, mem, letter⟩) ⟨nonempty, noLetter⟩
    · exact nonempty rfl
    · exact noLetter byte mem letter

theorem dumpedAsString_iff (buffer : List UInt8) :
    DumpedAsString buffer ↔ buffer = [] ∨ ∃ byte ∈ buffer, HasHexLetter byte := by
  rw [← cmdJsonIsQuoted_hexText_iff]
  cases quotes : cmdJsonIsQuoted (hexText buffer) with
  | true =>
      refine iff_of_true (fun prefixText key suffix append => ?_) rfl
      simp [cmdJsonPrintHexDump, cmdJsonPrintKeyValue, quotedText, isquoted, quotes, quoted]
  | false =>
      refine iff_of_false (fun asString => ?_) Bool.false_ne_true
      have printed := congrArg List.length (asString [] [] [] [])
      simp [cmdJsonPrintHexDump, cmdJsonPrintKeyValue, quotedText, isquoted, quotes, quoted,
        keyText] at printed

/--
A value is bare only as a value of JSON exactly if it is no numeral with a digit missing at
an end or with a zero in front, and a dump is a string exactly if it is empty or has a letter.
-/
theorem cmdJsonIsQuoted_iff (value : CString) (buffer : List UInt8) :
    (QuotedUnlessJson value ↔ IsSoundNumeral value) ∧
      (DumpedAsString buffer ↔ buffer = [] ∨ ∃ byte ∈ buffer, HasHexLetter byte) :=
  ⟨quotedUnlessJson_iff value, dumpedAsString_iff buffer⟩

/-- A lone sign is printed bare, and so is the dump of a zero byte. -/
theorem not_quotedUnlessJson :
    ¬(∀ value, QuotedUnlessJson value) ∧ ¬∀ buffer, DumpedAsString buffer := by
  constructor
  · intro bare
    have noDigits : DigitsAndPoint (withoutSign ['-']) :=
      ⟨fun _ mem => absurd mem List.not_mem_nil, Nat.zero_le 1⟩
    have strict := (quotedUnlessJson_iff ['-']).mp (bare ['-']) (List.cons_ne_nil _ _) noDigits
    cases strict.first
  · intro strings
    rcases (dumpedAsString_iff [0]).mp (strings [0]) with empty | letter
    · cases empty
    · revert letter
      decide

end BacnetZephyr
