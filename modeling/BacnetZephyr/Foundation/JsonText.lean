import BacnetZephyr.Foundation.Hex
import Mathlib.Data.List.Forall2

/-!
# The grammar of JSON

JSON texts are sequences of bytes. `ValueText text value` says that a text is a JSON
value and which one: white space may stand around values and names, strings are
encoded in UTF-8 and may contain escapes, and a number is known by its numeral. A lone
surrogate in an escape is no character.

The rules at the end build the texts of strings, arrays and objects from the texts of
their parts.
-/

namespace JsonText

open CLib

/-- A JSON value. -/
inductive Json where
  | null
  | bool (value : Bool)
  | number (numeral : CString)
  | string (characters : List Char)
  | array (elements : List Json)
  | object (members : List (List Char × Json))

/-! ## Characters -/

/-- Bytes as the characters of a C string. -/
def bytesText (bytes : List UInt8) : CString := bytes.map fun byte => Char.ofNat byte.toNat

def utf8Bytes (characters : List Char) : List UInt8 := characters.flatMap String.utf8EncodeChar

/-- White space. -/
def Blank (text : CString) : Prop := ∀ c ∈ text, c = ' ' ∨ c = '\t' ∨ c = '\n' ∨ c = '\r'

/-- The characters with an escape of one letter. -/
def escapedLetter : Char → Option Char
  | '"' => some '"'
  | '\\' => some '\\'
  | '/' => some '/'
  | 'b' => some '\x08'
  | 'f' => some '\x0c'
  | 'n' => some '\n'
  | 'r' => some '\r'
  | 't' => some '\t'
  | _ => none

/-- Four hexadecimal digits. -/
structure Hex4 (digits : CString) (value : ℕ) : Prop where
  length : digits.length = 4
  digit : ∀ c ∈ digits, isDigitOf 16 c
  value : digitsValue 16 digits = value

/-- A character inside a string. -/
inductive CharacterText : CString → Char → Prop where
  | unescaped {c : Char} : 0x20 ≤ c.toNat → c ≠ '"' → c ≠ '\\' →
      CharacterText (bytesText (String.utf8EncodeChar c)) c
  | letter {letter c : Char} : escapedLetter letter = some c → CharacterText ['\\', letter] c
  | unicode {digits : CString} {c : Char} : Hex4 digits c.toNat →
      CharacterText ('\\' :: 'u' :: digits) c
  /-- A character outside the basic plane as a pair of surrogates. -/
  | surrogates {high low : CString} {c : Char} : 0x10000 ≤ c.toNat →
      Hex4 high (0xD800 + (c.toNat - 0x10000) / 0x400) →
      Hex4 low (0xDC00 + (c.toNat - 0x10000) % 0x400) →
      CharacterText ('\\' :: 'u' :: high ++ '\\' :: 'u' :: low) c

inductive CharactersText : CString → List Char → Prop where
  | nil : CharactersText [] []
  | cons {first rest : CString} {c : Char} {characters : List Char} : CharacterText first c →
      CharactersText rest characters → CharactersText (first ++ rest) (c :: characters)

/-! ## Numbers -/

def IsDigits (text : CString) : Prop := text ≠ [] ∧ ∀ c ∈ text, c.isDigit

def IsNumber (text : CString) : Prop :=
  ∃ sign integer fraction exponent, text = sign ++ (integer ++ (fraction ++ exponent)) ∧
    (sign = [] ∨ sign = ['-']) ∧
    (IsDigits integer ∧ (integer.head? = some '0' → integer = ['0'])) ∧
    (fraction = [] ∨ ∃ digits, fraction = '.' :: digits ∧ IsDigits digits) ∧
    (exponent = [] ∨ ∃ e plus digits, exponent = e :: (plus ++ digits) ∧ (e = 'e' ∨ e = 'E') ∧
      (plus = [] ∨ plus = ['+'] ∨ plus = ['-']) ∧ IsDigits digits)

/-! ## Values -/

mutual

inductive ValueText : CString → Json → Prop where
  | null : ValueText "null".toList .null
  | true : ValueText "true".toList (.bool true)
  | false : ValueText "false".toList (.bool false)
  | number {numeral : CString} : IsNumber numeral → ValueText numeral (.number numeral)
  | string {text : CString} {characters : List Char} : CharactersText text characters →
      ValueText ('"' :: (text ++ ['"'])) (.string characters)
  | emptyArray {text : CString} : Blank text → ValueText ('[' :: (text ++ [']'])) (.array [])
  | array {text : CString} {elements : List Json} : ElementsText text elements →
      ValueText ('[' :: (text ++ [']'])) (.array elements)
  | emptyObject {text : CString} : Blank text →
      ValueText ('\x7b' :: (text ++ ['\x7d'])) (.object [])
  | object {text : CString} {members : List (List Char × Json)} : MembersText text members →
      ValueText ('\x7b' :: (text ++ ['\x7d'])) (.object members)

/-- A value with white space around it. -/
inductive ElementText : CString → Json → Prop where
  | spaced {before text after : CString} {value : Json} : Blank before → ValueText text value →
      Blank after → ElementText (before ++ (text ++ after)) value

inductive ElementsText : CString → List Json → Prop where
  | last {text : CString} {value : Json} : ElementText text value → ElementsText text [value]
  | more {text rest : CString} {value : Json} {values : List Json} : ElementText text value →
      ElementsText rest values → ElementsText (text ++ ',' :: rest) (value :: values)

inductive MemberText : CString → List Char × Json → Prop where
  | spaced {before name after text : CString} {key : List Char} {value : Json} : Blank before →
      CharactersText name key → Blank after → ElementText text value →
      MemberText (before ++ ('"' :: (name ++ '"' :: (after ++ ':' :: text)))) (key, value)

inductive MembersText : CString → List (List Char × Json) → Prop where
  | last {text : CString} {field : List Char × Json} : MemberText text field →
      MembersText text [field]
  | more {text rest : CString} {field : List Char × Json} {fields : List (List Char × Json)} :
      MemberText text field → MembersText rest fields →
      MembersText (text ++ ',' :: rest) (field :: fields)

end

/-! ## Rules for strings -/

theorem blank_nil : Blank [] := by simp [Blank]

theorem blank_lineEnd : Blank ['\n'] := by simp [Blank]

/-- Printable ASCII without the characters that have to be escaped. -/
def isPlain (text : CString) : Bool :=
  text.all fun c => 0x20 ≤ c.toNat ∧ c.toNat < 0x80 ∧ c ≠ '"' ∧ c ≠ '\\'

theorem toNat_ofNat {code : ℕ} (small : code < 0xd800) : (Char.ofNat code).toNat = code := by
  have valid : code.isValidChar := .inl small
  rw [Char.ofNat, dif_pos valid]
  rfl

theorem utf8EncodeChar_of_ascii {c : Char} (ascii : c.toNat < 0x80) :
    String.utf8EncodeChar c = [UInt8.ofNat c.toNat] := by
  have small : c.val.toNat ≤ 0x7f := by
    rw [Char.toNat] at ascii
    omega
  simp only [String.utf8EncodeChar, if_pos small]
  rfl

/-- Only ASCII characters have bytes below 128 in their encoding. -/
theorem le_of_mem_utf8EncodeChar {c : Char} (wide : 0x80 ≤ c.toNat) {byte : UInt8}
    (mem : byte ∈ String.utf8EncodeChar c) : 0x80 ≤ byte.toNat := by
  have large : ¬c.val.toNat ≤ 0x7f := by
    rw [Char.toNat] at wide
    omega
  simp only [String.utf8EncodeChar, if_neg large] at mem
  split at mem
  · simp only [List.mem_cons, List.not_mem_nil, or_false] at mem
    rcases mem with rfl | rfl <;> rw [UInt8.toNat_ofNat'] <;> omega
  · split at mem
    · simp only [List.mem_cons, List.not_mem_nil, or_false] at mem
      rcases mem with rfl | rfl | rfl <;> rw [UInt8.toNat_ofNat'] <;> omega
    · simp only [List.mem_cons, List.not_mem_nil, or_false] at mem
      rcases mem with rfl | rfl | rfl | rfl <;> rw [UInt8.toNat_ofNat'] <;> omega

theorem bytesText_of_ascii {c : Char} (ascii : c.toNat < 0x80) :
    bytesText (String.utf8EncodeChar c) = [c] := by
  rw [utf8EncodeChar_of_ascii ascii]
  simp only [bytesText, List.map_cons, List.map_nil, UInt8.toNat_ofNat']
  rw [Nat.mod_eq_of_lt (by omega), Char.ofNat_toNat]

theorem charactersText_of_isPlain {text : CString} (plain : isPlain text) :
    CharactersText text text := by
  induction text with
  | nil => exact .nil
  | cons c rest ih =>
      simp only [isPlain, List.all_cons, Bool.and_eq_true, decide_eq_true_eq] at plain
      rcases plain with ⟨⟨printable, ascii, quote, backslash⟩, others⟩
      have character := CharacterText.unescaped printable quote backslash
      rw [bytesText_of_ascii ascii] at character
      exact .cons character (ih others)

/-! ## Rules for numbers -/

theorem isNumber_unsignedText (number : ℕ) : IsNumber (unsignedText number) := by
  have digits : IsDigits (unsignedText number) :=
    ⟨Nat.toDigits_ne_nil, fun _ mem => isDigit_of_mem_toDigits mem⟩
  have leading : (unsignedText number).head? = some '0' → unsignedText number = ['0'] := by
    intro zero
    by_cases positive : 0 < number
    · exact absurd zero (head?_toDigits_ne_zero positive)
    · obtain rfl : number = 0 := by omega
      rfl
  exact ⟨[], unsignedText number, [], [], by simp, by simp, ⟨digits, leading⟩, by simp, by simp⟩

theorem IsNumber.negative {number : ℕ} : IsNumber ('-' :: unsignedText number) := by
  rcases isNumber_unsignedText number with
    ⟨sign, integer, fraction, exponent, text, isSign, rest⟩
  have positive : sign = [] := by
    rcases isSign with empty | minus
    · exact empty
    · have mem : '-' ∈ unsignedText number := by
        rw [text, minus]
        exact List.mem_cons_self
      exact absurd mem (notMem_toDigits rfl)
  refine ⟨['-'], integer, fraction, exponent, ?_, .inr rfl, rest⟩
  rw [text, positive]
  rfl

theorem isPlain_unsignedText (number : ℕ) : isPlain (unsignedText number) := by
  rw [isPlain, List.all_eq_true]
  intro c mem
  have digit := isDigit_of_mem_toDigits mem
  have bounds := (isDigit_iff c).mp digit
  simp only [decide_eq_true_eq]
  exact ⟨by omega, by omega, isDigit_ne digit rfl, isDigit_ne digit rfl⟩

/-- A number does not start with a letter. -/
theorem IsNumber.head?_not_isAlpha {text : CString} (number : IsNumber text) :
    text.head?.any Char.isAlpha = false := by
  have ofDigit : ∀ c : Char, c.isDigit → c.isAlpha = false := by
    intro c digit
    rw [Bool.eq_false_iff]
    intro letter
    rw [isDigit_eq_false_of_isAlpha letter] at digit
    cases digit
  rcases number with ⟨sign, integer, fraction, exponent, rfl, isSign, ⟨digits, _⟩, _⟩
  rcases isSign with rfl | rfl
  · rcases digits with ⟨nonempty, digit⟩
    cases integer with
    | nil => exact absurd rfl nonempty
    | cons first others => exact ofDigit first (digit first List.mem_cons_self)
  · rfl

/-! ## Rules for arrays and objects -/

/-- Texts separated by commas. -/
abbrev commaText (texts : List CString) : CString := List.intercalate [','] texts

theorem commaText_cons_cons (first second : CString) (rest : List CString) :
    commaText (first :: second :: rest) = first ++ ',' :: commaText (second :: rest) := by
  simp [commaText, List.intercalate]

theorem ElementText.of_value {text : CString} {value : Json} (isValue : ValueText text value) :
    ElementText text value := by
  simpa using ElementText.spaced blank_nil isValue blank_nil

theorem elementsText_commaText {texts : List CString} {values : List Json}
    (elements : List.Forall₂ ElementText texts values) (nonempty : texts ≠ []) :
    ElementsText (commaText texts) values := by
  induction elements with
  | nil => contradiction
  | @cons text value texts values element elements ih =>
      cases elements with
      | nil => simpa [commaText, List.intercalate] using ElementsText.last element
      | cons second elements =>
          rw [commaText_cons_cons]
          exact .more element (ih (List.cons_ne_nil _ _))

theorem membersText_commaText {texts : List CString} {fields : List (List Char × Json)}
    (members : List.Forall₂ MemberText texts fields) (nonempty : texts ≠ []) :
    MembersText (commaText texts) fields := by
  induction members with
  | nil => contradiction
  | @cons text field texts fields member members ih =>
      cases members with
      | nil => simpa [commaText, List.intercalate] using MembersText.last member
      | cons second members =>
          rw [commaText_cons_cons]
          exact .more member (ih (List.cons_ne_nil _ _))

theorem valueText_array {texts : List CString} {values : List Json}
    (elements : List.Forall₂ ElementText texts values) :
    ValueText ('[' :: (commaText texts ++ [']'])) (.array values) := by
  cases elements with
  | nil => exact .emptyArray blank_nil
  | cons element elements =>
      exact .array (elementsText_commaText (.cons element elements) (List.cons_ne_nil _ _))

theorem valueText_object {texts : List CString} {fields : List (List Char × Json)}
    (members : List.Forall₂ MemberText texts fields) :
    ValueText ('\x7b' :: (commaText texts ++ ['\x7d'])) (.object fields) := by
  cases members with
  | nil => exact .emptyObject blank_nil
  | cons member members =>
      exact .object (membersText_commaText (.cons member members) (List.cons_ne_nil _ _))

/-- A member without white space. -/
def memberText (member : CString × CString) : CString :=
  '"' :: (member.1 ++ '"' :: ':' :: member.2)

/-- An object without white space. -/
def objectText (members : List (CString × CString)) : CString :=
  '\x7b' :: (commaText (members.map memberText) ++ ['\x7d'])

def quoted (text : CString) : CString := '"' :: (text ++ ['"'])

theorem valueText_quoted {text : CString} (plain : isPlain text) :
    ValueText (quoted text) (.string text) :=
  .string (charactersText_of_isPlain plain)

/-- The name and the text of a member stand for the field. -/
structure IsField (member : CString × CString) (field : List Char × Json) : Prop where
  plain : isPlain member.1
  name : field.1 = member.1
  value : ValueText member.2 field.2

theorem valueText_objectText {members : List (CString × CString)}
    {fields : List (List Char × Json)} (isFields : List.Forall₂ IsField members fields) :
    ValueText (objectText members) (.object fields) := by
  apply valueText_object
  rw [List.forall₂_map_left_iff]
  apply isFields.imp
  rintro ⟨name, text⟩ ⟨key, value⟩ ⟨plain, rfl, isValue⟩
  exact .spaced blank_nil (charactersText_of_isPlain plain) blank_nil (.of_value isValue)

/-- A member that starts a line. -/
theorem memberText_line {member : CString × CString} {field : List Char × Json} {after : CString}
    (isField : IsField member field) (blank : Blank after) :
    MemberText ('\n' :: (memberText member ++ after)) field := by
  rcases member with ⟨name, text⟩
  rcases field with ⟨key, value⟩
  rcases isField with ⟨plain, rfl, isValue⟩
  have spaced := MemberText.spaced blank_lineEnd (charactersText_of_isPlain plain) blank_nil
    (.spaced blank_nil isValue blank)
  simpa [memberText] using spaced

theorem isPlain_of_isDigitOf {text : CString} (digit : ∀ c ∈ text, isDigitOf 16 c) :
    isPlain text := by
  rw [isPlain, List.all_eq_true]
  intro c mem
  have isDigit := digit c mem
  have quote : c ≠ '"' := by
    rintro rfl
    contradiction
  have backslash : c ≠ '\\' := by
    rintro rfl
    contradiction
  have range : 48 ≤ c.toNat ∧ c.toNat ≤ 102 := by
    by_contra outside
    have none : digitValue c = none := by
      simp only [digitValue]
      rw [if_neg, if_neg, if_neg]
      all_goals
        simp only [Char.reduceToNat]
        omega
    rw [isDigitOf, none] at isDigit
    contradiction
  simp only [decide_eq_true_eq]
  exact ⟨by omega, by omega, quote, backslash⟩

end JsonText
