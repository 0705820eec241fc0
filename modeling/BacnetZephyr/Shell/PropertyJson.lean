import BacnetZephyr.Foundation.JsonScan
import BacnetZephyr.Shell.Property

/-!
# The document of all properties

What is printed for an object is one JSON value if everything in it can be printed so:
errors without names, texts that need no escapes, numbers in the form of JSON, and lists
that are decoded to their end. The scanner shows that this is needed: a name without
quotation marks or a list that stays open is found in every context.
-/

namespace BacnetZephyr

open CLib JsonText

/-- Names of error classes and codes are words. -/
structure IsErrorName (name : CString) : Prop where
  plain : isPlain name
  short : name.length < 80
  letter : name.head?.any Char.isAlpha
  word : ∀ c ∈ name, isWordCharacter c
  notKeyword : name ≠ "true".toList ∧ name ≠ "false".toList ∧ name ≠ "null".toList

/-- What printing relies on of the stack library. -/
structure PropertyLibraryDocumented {Value : Type} (library : PropertyLibrary Value) : Prop where
  snprintfToAscii : ∀ size text, isPlain text → text.length < size →
    library.snprintfToAscii size text = text
  ultoa : ∀ value size, (unsignedText value).length < size →
    library.ultoa value size = unsignedText value
  propertyName : ∀ property, isPlain (library.propertyName property)
  propertyList : library.propertyName propPropertyList = "property-list".toList
  propertyNameDefault : ∀ property name, library.propertyNameDefault property = some name →
    isPlain name ∧ name.length < 80
  objectTypeName : ∀ objectType, isPlain (library.objectTypeName objectType)
  errorClassNameDefault : ∀ errorClass name,
    library.errorClassNameDefault errorClass = some name → IsErrorName name
  errorCodeNameDefault : ∀ errorCode name,
    library.errorCodeNameDefault errorCode = some name → IsErrorName name

/-! ## Texts of values -/

/-- The text is a value of JSON, with the quotation marks it gets. -/
def PrintableText (text : CString) : Prop :=
  if cmdJsonIsQuoted text then ∃ characters, CharactersText text characters
  else ∃ value, ValueText text value

/-- A text that is a string when it is quoted, by itself or by the printing. -/
structure CleanText (text : CString) : Prop where
  quoted : cmdJsonIsQuoted text → ∃ characters, CharactersText text characters
  isQuoted : text.head? = some '"' → ∃ value, ValueText text value

section Texts

variable {key text rest append : CString} {value : Json} {net : ℤ} {good : Prop} {c : Char}

theorem jsonDigitsOnly_characters {reversed : CString} {decimalPoints : ℕ} {digitsOnly : Bool}
    (only : jsonDigitsOnly reversed decimalPoints digitsOnly) :
    digitsOnly ∧ ∀ c ∈ reversed, c.isDigit ∨ c = '-' ∨ c = '.' := by
  induction reversed generalizing decimalPoints digitsOnly with
  | nil => exact ⟨only, by simp⟩
  | cons digit before ih =>
      rw [jsonDigitsOnly] at only
      split at only
      · rename_i isDigit
        have others := ih only
        exact ⟨others.1, List.forall_mem_cons.mpr ⟨.inl isDigit, others.2⟩⟩
      · split at only
        · rename_i sign
          have others := ih only
          exact ⟨others.1, List.forall_mem_cons.mpr ⟨.inr (.inl sign.2), others.2⟩⟩
        · split at only
          · rename_i point
            have others := ih only
            rw [Bool.and_eq_true] at others
            exact ⟨others.1.1, List.forall_mem_cons.mpr ⟨.inr (.inr point), others.2⟩⟩
          · exact absurd (ih only).1 Bool.false_ne_true

/-- A text that gets no quotation marks and has none is a word. -/
theorem word_of_not_quoted (notQuoted : cmdJsonIsQuoted text = false)
    (notString : text.head? ≠ some '"') :
    text ≠ [] ∧ ∀ c ∈ text, isWordCharacter c := by
  rw [cmdJsonIsQuoted] at notQuoted
  split at notQuoted
  · rename_i keyword
    rcases keyword with rfl | rfl | rfl
    · exact ⟨by simp, IsScalar.isWordCharacter (.inl rfl)⟩
    · exact ⟨by simp, IsScalar.isWordCharacter (.inr (.inl rfl))⟩
    · exact ⟨by simp, IsScalar.isWordCharacter (.inr (.inr (.inl rfl)))⟩
  · split at notQuoted
    · cases notQuoted
    · rename_i nonempty
      rw [Bool.not_eq_false'] at notQuoted
      refine ⟨nonempty, fun c mem => ?_⟩
      rcases (jsonDigitsOnly_characters notQuoted).2 c (List.mem_reverse.mpr mem) with
        digit | rfl | rfl
      · have other : ∀ structural : Char, structural.isDigit = false → c ≠ structural :=
          fun _ notDigit => isDigit_ne digit notDigit
        simp [isWordCharacter, other]
      · rfl
      · rfl

theorem cleanText_hexText (bytes : List UInt8) : CleanText (hexText bytes) where
  quoted _ := ⟨_, charactersText_of_isPlain
    (isPlain_of_isDigitOf fun _ mem => isDigitOf_of_mem_hexText mem)⟩
  isQuoted quote := by
    have digit := isDigitOf_of_mem_hexText (List.mem_of_mem_head? quote)
    cases digit

theorem quotedText_eq_append (text rest : CString) :
    quotedText text rest = quotedText text [] ++ rest := by
  simp [quotedText]

theorem exists_quotedText (printable : PrintableText text) :
    ∃ value, ValueText (quotedText text []) value := by
  rw [PrintableText] at printable
  split at printable
  · rename_i quotes
    rcases printable with ⟨characters, isText⟩
    refine ⟨.string characters, ?_⟩
    simpa [quotedText, isquoted, quotes] using ValueText.string isText
  · rename_i noQuotes
    rcases printable with ⟨value, isValue⟩
    refine ⟨value, ?_⟩
    simpa [quotedText, isquoted, noQuotes] using isValue

/-- The text of a value, what follows it, and what must be so for both. -/
theorem opens_quotedText (opens : Opens rest net good) (clean : CleanText text) (c : Char)
    (separator : isSeparator c) :
    Opens (quotedText text (c :: rest)) (bracketDepth c + net) (PrintableText text ∧ good) := by
  cases quotes : cmdJsonIsQuoted text with
  | true =>
      rcases clean.quoted quotes with ⟨characters, isText⟩
      have printable : PrintableText text := by
        rw [PrintableText, if_pos quotes]
        exact ⟨characters, isText⟩
      have opensText := (opens.cons c separator).quoted isText
      simpa [quotedText, isquoted, quotes] using
        opensText.imp fun isGood => And.intro printable isGood
  | false =>
      have shown : quotedText text (c :: rest) = text ++ c :: rest := by
        simp [quotedText, isquoted, quotes]
      have printable : (∃ value, ValueText text value) → PrintableText text := by
        intro isValue
        rwa [PrintableText, if_neg (by simp [quotes])]
      rw [shown]
      by_cases string : text.head? = some '"'
      · rcases clean.isQuoted string with ⟨value, isValue⟩
        have opensText := opens.append_scans isValue.scans c separator
        exact opensText.imp fun isGood => ⟨printable ⟨value, isValue⟩, isGood⟩
      · rcases word_of_not_quoted quotes string with ⟨nonempty, characters⟩
        have opensText := opens.append_word nonempty characters c separator
        refine opensText.imp fun ⟨scalar, isGood⟩ => ⟨printable ?_, isGood⟩
        rcases scalar with rfl | rfl | rfl | number
        · exact ⟨_, .true⟩
        · exact ⟨_, .false⟩
        · exact ⟨_, .null⟩
        · exact ⟨_, .number number⟩

theorem opens_keyText (key : CString) (plain : isPlain key) (opens : Opens rest net good) :
    Opens (keyText key rest) net good := by
  have afterKey := (opens.cons ' ' rfl).cons ':' rfl
  exact (afterKey.quoted (charactersText_of_isPlain plain)).of_eq (by simp [bracketDepth])

theorem blank_space : Blank [' '] := by simp [Blank]

theorem memberText_keyText (key : CString) (plain : isPlain key) {before after : CString}
    (blank : Blank before) (isValue : ValueText text value) (blankAfter : Blank after) :
    MemberText (before ++ keyText key (text ++ after)) (key, value) := by
  have member := MemberText.spaced blank (charactersText_of_isPlain plain) blank_nil
    (.spaced blank_space isValue blankAfter)
  simpa [keyText] using member

/-- An object with one member. -/
theorem valueText_keyText (plain : isPlain key) (isValue : ValueText text value) :
    ValueText ('\x7b' :: keyText key (text ++ ['\x7d'])) (.object [(key, value)]) := by
  have member := memberText_keyText key plain blank_nil isValue blank_nil
  simpa [keyText] using ValueText.object (.last member)

end Texts

/-! ## The values of a property -/

/-- A round of the loop: the bytes before it, how many it decodes, and the value. -/
structure Decoded (Value : Type) where
  apdu : List UInt8
  len : ℤ
  value : Value

section Values

variable {Value : Type} (library : PropertyLibrary Value) (rpdata : BacnetReadPropertyData)

/-- The rounds of the loop, the last one apart. -/
def decodedValues (apdu : List UInt8) (value : Value) : List (Decoded Value) × Decoded Value :=
  match library.decodeKnownArrayProperty rpdata apdu value with
  | (len, value) =>
      if _more : 0 < len ∧ len < apdu.length then
        let others := decodedValues (apdu.drop len.toNat) value
        (⟨apdu, len, value⟩ :: others.1, others.2)
      else ([], ⟨apdu, len, value⟩)
termination_by apdu.length
decreasing_by
  rw [List.length_drop]
  omega

/-- The round decodes a value that has a text. -/
def HasText (decoded : Decoded Value) : Prop :=
  0 ≤ decoded.len ∧ 0 < (library.snprintfValue rpdata decoded.value).1

instance (decoded : Decoded Value) : Decidable (HasText library rpdata decoded) :=
  inferInstanceAs (Decidable (_ ∧ _))

/-- The bytes that are dumped when there is no text. -/
def dumpedBytes (decoded : Decoded Value) : List UInt8 :=
  if decoded.len < 0 then decoded.apdu else decoded.apdu.take decoded.len.toNat

def shownText (decoded : Decoded Value) : CString :=
  if HasText library rpdata decoded then (library.snprintfValue rpdata decoded.value).2
  else hexText (dumpedBytes decoded)

/-- The value ends the data. -/
def EndsData (decoded : Decoded Value) : Prop := decoded.apdu.length ≤ decoded.len

instance (decoded : Decoded Value) : Decidable (EndsData decoded) :=
  inferInstanceAs (Decidable (_ ≤ _))

/-- What a round of a list prints. -/
def itemText (key append : CString) (firstValue : Bool) (decoded : Decoded Value) : CString :=
  if HasText library rpdata decoded then
    cmdJsonPrintListValue key (shownText library rpdata decoded) firstValue
      (EndsData decoded) append
  else cmdJsonPrintKeyValue [] key (shownText library rpdata decoded) [] append

/-- What is printed of the values of a property. -/
def valuesText (key append : CString) : List (Decoded Value) × Decoded Value → CString
  | ([], last) => cmdJsonPrintKeyValue [] key (shownText library rpdata last) [] append
  | (first :: middle, last) =>
      itemText library rpdata key append true first ++
        (middle.flatMap (itemText library rpdata key append false) ++
          itemText library rpdata key append false last)

theorem printed_eq_itemText (key append : CString) (first : Bool) (apdu : List UInt8) (len : ℤ)
    (value : Value) (decoded : ¬len < 0) :
    (if 0 < (library.snprintfValue rpdata value).1 then
        cmdJsonPrintListValue key (library.snprintfValue rpdata value).2 first
          (decide (apdu.length ≤ len)) append
      else cmdJsonPrintHexDump [] key (apdu.take len.toNat) [] append) =
      itemText library rpdata key append first ⟨apdu, len, value⟩ := by
  by_cases text : 0 < (library.snprintfValue rpdata value).1
  · have hasText : HasText library rpdata ⟨apdu, len, value⟩ := ⟨Int.not_lt.mp decoded, text⟩
    rw [if_pos text, itemText, if_pos hasText, shownText, if_pos hasText]
    rfl
  · have noText : ¬HasText library rpdata ⟨apdu, len, value⟩ := fun hasText => text hasText.2
    rw [if_neg text, itemText, if_neg noText, shownText, if_neg noText, dumpedBytes,
      if_neg decoded]
    rfl

theorem dump_eq_itemText (key append : CString) (first : Bool) (apdu : List UInt8) (len : ℤ)
    (value : Value) (failed : len < 0) :
    cmdJsonPrintHexDump [] key apdu [] append =
      itemText library rpdata key append first ⟨apdu, len, value⟩ := by
  have noText : ¬HasText library rpdata ⟨apdu, len, value⟩ :=
    fun hasText => absurd failed (Int.not_lt.mpr hasText.1)
  rw [itemText, if_neg noText, shownText, if_neg noText, dumpedBytes, if_pos failed]
  rfl

section Rounds

variable {library rpdata} {apdu : List UInt8} {value decoded : Value} {len : ℤ}

theorem decodedValues_more
    (result : library.decodeKnownArrayProperty rpdata apdu value = (len, decoded))
    (more : 0 < len ∧ len < apdu.length) :
    decodedValues library rpdata apdu value =
      (⟨apdu, len, decoded⟩ :: (decodedValues library rpdata (apdu.drop len.toNat) decoded).1,
        (decodedValues library rpdata (apdu.drop len.toNat) decoded).2) := by
  rw [decodedValues, result]
  exact dif_pos more

theorem decodedValues_last
    (result : library.decodeKnownArrayProperty rpdata apdu value = (len, decoded))
    (last : ¬(0 < len ∧ len < apdu.length)) :
    decodedValues library rpdata apdu value = ([], ⟨apdu, len, decoded⟩) := by
  rw [decodedValues, result]
  exact dif_neg last

/-- After the first value of a list every round prints an item. -/
theorem cmdValuePrintLoop_list (key append : CString) (apdu : List UInt8) (value : Value) :
    cmdValuePrintLoop library rpdata false key append false true apdu value =
      (decodedValues library rpdata apdu value).1.flatMap
          (itemText library rpdata key append false) ++
        itemText library rpdata key append false (decodedValues library rpdata apdu value).2 := by
  rcases result : library.decodeKnownArrayProperty rpdata apdu value with ⟨len, decoded⟩
  rw [cmdValuePrintLoop, result]
  by_cases more : 0 < len ∧ len < apdu.length
  · have others := cmdValuePrintLoop_list key append (apdu.drop len.toNat) decoded
    have notFailed : ¬len < 0 := by omega
    simp only [if_neg notFailed, Bool.true_or, Bool.false_eq_true, if_false, if_true,
      dif_pos more, printed_eq_itemText library rpdata key append false apdu len decoded notFailed]
    rw [others, decodedValues_more result more, List.flatMap_cons, List.append_assoc]
  · rw [decodedValues_last result more]
    by_cases failed : len < 0
    · simp only [if_pos failed, List.flatMap_nil, List.nil_append]
      exact dump_eq_itemText library rpdata key append false apdu len decoded failed
    · simp only [if_neg failed, Bool.true_or, Bool.false_eq_true, if_false, if_true,
        dif_neg more, List.flatMap_nil, List.nil_append]
      exact printed_eq_itemText library rpdata key append false apdu len decoded failed
termination_by apdu.length
decreasing_by
  rw [List.length_drop]
  omega

/-- The loop prints the values. -/
theorem cmdValuePrintLoop_eq (key append : CString) (apdu : List UInt8) (value : Value) :
    cmdValuePrintLoop library rpdata false key append true false apdu value =
      valuesText library rpdata key append (decodedValues library rpdata apdu value) := by
  rcases result : library.decodeKnownArrayProperty rpdata apdu value with ⟨len, decoded⟩
  rw [cmdValuePrintLoop, result]
  by_cases more : 0 < len ∧ len < apdu.length
  · have notFailed : ¬len < 0 := by omega
    rw [decodedValues_more result more, valuesText]
    simp only [if_neg notFailed, more, decide_true, Bool.and_true, Bool.or_true, true_and,
      Bool.false_eq_true, if_false, if_true, dite_true, cmdValuePrintLoop_list,
      printed_eq_itemText library rpdata key append true apdu len decoded notFailed]
  · have single : (decide (0 < len) && decide (len < apdu.length)) = false := by
      rwa [← Bool.decide_and, decide_eq_false_iff_not]
    rw [decodedValues_last result more, valuesText, shownText]
    simp only [Bool.false_or, Bool.true_and, single, dif_neg more, Bool.false_eq_true, if_false]
    by_cases hasText : HasText library rpdata ⟨apdu, len, decoded⟩
    · rw [if_neg (Int.not_lt.mpr hasText.1), if_pos hasText, if_pos hasText.2]
    · rw [if_neg hasText, dumpedBytes]
      by_cases failed : len < 0
      · rw [if_pos failed, if_pos failed]
        rfl
      · have noText : ¬0 < (library.snprintfValue rpdata decoded).1 :=
          fun text => hasText ⟨Int.not_lt.mp failed, text⟩
        rw [if_neg failed, if_neg failed, if_neg noText]
        rfl

end Rounds

/--
All texts are printable. In a list the first and the last value have texts and the last one
ends the data. A dump in the middle takes the place of a value unless it is in the last property
of the document.
-/
structure PrintableValues (append : CString) (values : List (Decoded Value) × Decoded Value) :
    Prop where
  text : ∀ decoded ∈ values.1 ++ [values.2], PrintableText (shownText library rpdata decoded)
  first : ∀ decoded, values.1.head? = some decoded → HasText library rpdata decoded
  middle : ∀ decoded ∈ values.1.tail, HasText library rpdata decoded ∨ append = [',']
  last : values.1 ≠ [] → HasText library rpdata values.2 ∧ EndsData values.2

/-- The value is what is printed for the round. -/
def ShownAs (decoded : Decoded Value) (value : Json) : Prop :=
  ValueText (quotedText (shownText library rpdata decoded) []) value

/-- The content of a property is its only value, or the array of its values in order. -/
def IsContent (values : List (Decoded Value) × Decoded Value) (content : Json) : Prop :=
  match values with
  | ([], last) => ShownAs library rpdata last content
  | (first :: middle, last) => ∃ elements, content = .array elements ∧
      List.Forall₂ (ShownAs library rpdata) (first :: (middle ++ [last])) elements

/-- Strings need no escapes, and the values of a list have texts, the last one apart. -/
structure CleanValues (values : List (Decoded Value) × Decoded Value) : Prop where
  clean : ∀ decoded ∈ values.1 ++ [values.2], HasText library rpdata decoded →
    CleanText (library.snprintfValue rpdata decoded.value).2
  text : ∀ decoded ∈ values.1, HasText library rpdata decoded

section Lists

variable {library rpdata} {key append : CString} {decoded : Decoded Value}

theorem decodedValues_front (apdu : List UInt8) (value : Value) :
    ∀ decoded ∈ (decodedValues library rpdata apdu value).1,
      0 < decoded.len ∧ decoded.len < decoded.apdu.length := by
  rcases result : library.decodeKnownArrayProperty rpdata apdu value with ⟨len, decoded⟩
  by_cases more : 0 < len ∧ len < apdu.length
  · have others := decodedValues_front (apdu.drop len.toNat) decoded
    rw [decodedValues_more result more]
    exact List.forall_mem_cons.mpr ⟨more, others⟩
  · rw [decodedValues_last result more]
    simp
termination_by apdu.length
decreasing_by
  rw [List.length_drop]
  omega

/-- Where all values have texts, a relation that asks for a text holds without. -/
theorem forall₂_of_hasText {relation : Decoded Value → Json → Prop}
    {values : List (Decoded Value)} {contents : List Json}
    (each : List.Forall₂ (fun decoded content => HasText library rpdata decoded →
      relation decoded content) values contents)
    (hasText : ∀ decoded ∈ values, HasText library rpdata decoded) :
    List.Forall₂ relation values contents := by
  induction each with
  | nil => exact .nil
  | cons related _ ih =>
      rw [List.forall_mem_cons] at hasText
      exact .cons (related hasText.1) (ih hasText.2)

theorem element_line {text : CString} {value : Json} (isValue : ValueText text value) :
    ElementText ('\n' :: text) value := by
  simpa using ElementText.spaced blank_lineEnd isValue blank_nil

theorem keyValue_printable {text : CString} (plain : isPlain key)
    (printable : PrintableText text) :
    ∃ body content, (∀ append, cmdJsonPrintKeyValue [] key text [] append =
        body ++ (append ++ ['\n'])) ∧
      ValueText body (.object [(key, content)]) ∧ ValueText (quotedText text []) content := by
  rcases exists_quotedText printable with ⟨content, isValue⟩
  refine ⟨_, content, fun append => ?_, valueText_keyText plain isValue, isValue⟩
  rw [cmdJsonPrintKeyValue, quotedText_eq_append]
  simp [keyText]

/-- An item before the last one is a value and a comma. -/
theorem itemText_middle (plain : isPlain key) (notLast : ¬EndsData decoded)
    (printable : PrintableText (shownText library rpdata decoded))
    (hasText : HasText library rpdata decoded ∨ append = [',']) :
    ∃ body content, itemText library rpdata key append false decoded = body ++ [',', '\n'] ∧
      ValueText body content ∧ (HasText library rpdata decoded →
        ShownAs library rpdata decoded content) := by
  by_cases text : HasText library rpdata decoded
  · rcases exists_quotedText printable with ⟨content, isValue⟩
    refine ⟨_, content, ?_, isValue, fun _ => isValue⟩
    rw [← quotedText_eq_append]
    simp [itemText, text, cmdJsonPrintListValue, notLast]
  · rcases hasText.resolve_left text with rfl
    rcases keyValue_printable plain printable with ⟨body, content, shown, isValue, _⟩
    refine ⟨body, _, ?_, isValue, fun hasText => absurd hasText text⟩
    rw [itemText, if_neg text, shown]
    rfl

/-- The items after the first one, up to the bracket that closes the list. -/
theorem items_printable (plain : isPlain key) {middle : List (Decoded Value)} {last : Decoded Value}
    (notLast : ∀ decoded ∈ middle, ¬EndsData decoded)
    (printable : ∀ decoded ∈ middle ++ [last], PrintableText (shownText library rpdata decoded))
    (hasText : ∀ decoded ∈ middle, HasText library rpdata decoded ∨ append = [','])
    (lastText : HasText library rpdata last) (ends : EndsData last) :
    ∃ body values, middle.flatMap (itemText library rpdata key append false) ++
        itemText library rpdata key append false last =
          body ++ ']' :: '\n' :: '\x7d' :: (append ++ ['\n']) ∧
      ElementsText ('\n' :: body) values ∧
      List.Forall₂ (fun decoded content => HasText library rpdata decoded →
        ShownAs library rpdata decoded content) (middle ++ [last]) values := by
  induction middle with
  | nil =>
      rcases exists_quotedText (printable last (by simp)) with ⟨content, isValue⟩
      refine ⟨_, [content], ?_, .last (element_line isValue), .cons (fun _ => isValue) .nil⟩
      rw [← quotedText_eq_append]
      simp [itemText, lastText, cmdJsonPrintListValue, ends, quotedText]
  | cons decoded middle ih =>
      simp only [List.forall_mem_cons, List.cons_append] at notLast printable hasText
      rcases ih notLast.2 printable.2 hasText.2 with ⟨body, values, text, elements, each⟩
      rcases itemText_middle plain notLast.1 printable.1 hasText.1 with
        ⟨item, content, itemIs, isValue, shown⟩
      refine ⟨item ++ ',' :: '\n' :: body, content :: values, ?_,
        .more (element_line isValue) elements, .cons shown each⟩
      rw [List.flatMap_cons, List.append_assoc, text, itemIs]
      simp

/-- Printable values are one object with the property as its only member. -/
theorem PrintableValues.element {values : List (Decoded Value) × Decoded Value}
    (printable : PrintableValues library rpdata append values) (plain : isPlain key)
    (notLast : ∀ decoded ∈ values.1, ¬EndsData decoded) :
    ∃ body content, valuesText library rpdata key append values = body ++ (append ++ ['\n']) ∧
      ValueText body (.object [(key, content)]) ∧
      ((∀ decoded ∈ values.1, HasText library rpdata decoded) →
        IsContent library rpdata values content) := by
  rcases values with ⟨_ | ⟨first, middle⟩, last⟩
  · rcases keyValue_printable plain (printable.text last (by simp)) with
      ⟨body, content, text, isValue, shown⟩
    exact ⟨body, content, text append, isValue, fun _ => shown⟩
  · have texts := printable.text
    simp only [List.forall_mem_cons, List.cons_append] at notLast texts
    have firstText := printable.first first rfl
    rcases printable.last (List.cons_ne_nil _ _) with ⟨lastText, ends⟩
    rcases items_printable plain notLast.2 texts.2 printable.middle lastText ends with
      ⟨body, values, text, elements, each⟩
    rcases exists_quotedText texts.1 with ⟨content, isValue⟩
    have opening : itemText library rpdata key append true first =
        '\x7b' :: keyText key ('[' :: '\n' ::
          (quotedText (shownText library rpdata first) [] ++ [',', '\n'])) := by
      rw [← quotedText_eq_append]
      simp [itemText, firstText, cmdJsonPrintListValue, notLast.1, keyText]
    have isArray := ValueText.array (.more (element_line isValue) elements)
    have member := memberText_keyText key plain blank_nil isArray blank_lineEnd
    refine ⟨_, _, ?_, .object (.last member), fun hasText => ⟨_, rfl, .cons isValue ?_⟩⟩
    · rw [valuesText, text, opening]
      simp [keyText]
    · refine forall₂_of_hasText each fun decoded mem => ?_
      rcases List.mem_append.mp mem with mem | mem
      · exact hasText decoded (List.mem_cons_of_mem _ mem)
      · rw [List.mem_singleton.mp mem]
        exact lastText

/-! ## What a property leaves open -/

theorem cleanText_shownText {values : List (Decoded Value) × Decoded Value}
    (clean : CleanValues library rpdata values) (mem : decoded ∈ values.1 ++ [values.2]) :
    CleanText (shownText library rpdata decoded) := by
  rw [shownText]
  split
  · rename_i hasText
    exact clean.clean decoded mem hasText
  · exact cleanText_hexText _

theorem opens_keyValue {text : CString} {net : ℤ} (closing : Opens (append ++ ['\n']) net True)
    (plain : isPlain key) (clean : CleanText text) :
    Opens (cmdJsonPrintKeyValue [] key text [] append) net (PrintableText text) := by
  have value := opens_quotedText closing clean '\x7d' rfl
  have object := (opens_keyText key plain value).cons '\x7b' rfl
  exact (object.imp And.left).of_eq (show 1 + (-1 + net) = net by omega)

theorem opens_lineEnd : Opens ['\n'] 0 True :=
  (opens_nil.cons '\n' rfl).of_eq rfl

/-- An item before the last one. -/
theorem opens_itemText (hasText : HasText library rpdata decoded) (notLast : ¬EndsData decoded)
    (clean : CleanText (shownText library rpdata decoded)) :
    Opens (itemText library rpdata key append false decoded) 0
      (PrintableText (shownText library rpdata decoded)) := by
  have value := opens_quotedText opens_lineEnd clean ',' rfl
  simpa [itemText, hasText, cmdJsonPrintListValue, notLast, bracketDepth] using
    value.imp And.left

/-- The first item leaves the list and the object around it open. -/
theorem opens_itemText_first (plain : isPlain key) (hasText : HasText library rpdata decoded)
    (notLast : ¬EndsData decoded) (clean : CleanText (shownText library rpdata decoded)) :
    Opens (itemText library rpdata key append true decoded) 2
      (PrintableText (shownText library rpdata decoded)) := by
  have item := @opens_itemText _ _ _ key append _ hasText notLast clean
  have list := (item.cons '\n' rfl).cons '[' rfl
  have object := (opens_keyText key plain list).cons '\x7b' rfl
  have opening : itemText library rpdata key append true decoded =
      '\x7b' :: keyText key ('[' :: '\n' :: itemText library rpdata key append false decoded) := by
    simp [itemText, hasText, cmdJsonPrintListValue, notLast, keyText]
  rw [opening]
  exact object.of_eq (by simp [bracketDepth])

/-- The last item closes the list only if it ends the data. -/
theorem opens_itemText_last {net : ℤ} (closing : Opens (append ++ ['\n']) net True)
    (nonpos : net ≤ 0) (plain : isPlain key)
    (clean : CleanText (shownText library rpdata decoded)) :
    Opens (itemText library rpdata key append false decoded) (-2 + net)
      (PrintableText (shownText library rpdata decoded) ∧ HasText library rpdata decoded ∧
        EndsData decoded) := by
  by_cases text : HasText library rpdata decoded
  · by_cases ends : EndsData decoded
    · have object := (closing.cons '\x7d' rfl).cons '\n' rfl
      have value := opens_quotedText object clean ']' rfl
      have item : itemText library rpdata key append false decoded =
          quotedText (shownText library rpdata decoded)
            (']' :: '\n' :: '\x7d' :: (append ++ ['\n'])) := by
        simp [itemText, text, cmdJsonPrintListValue, ends, quotedText]
      rw [item]
      refine (value.imp fun good => ⟨good.1, text, ends⟩).of_eq ?_
      simp [bracketDepth]
      omega
    · exact (opens_itemText text ends clean).of_lt (by omega)
  · rw [itemText, if_neg text]
    exact (opens_keyValue closing plain clean).of_lt (by omega)

theorem opens_items {net : ℤ} (closing : Opens (append ++ ['\n']) net True) (nonpos : net ≤ 0)
    (plain : isPlain key) {middle : List (Decoded Value)} {last : Decoded Value}
    (middleText : ∀ decoded ∈ middle, HasText library rpdata decoded ∧ ¬EndsData decoded)
    (clean : ∀ decoded ∈ middle ++ [last], CleanText (shownText library rpdata decoded)) :
    Opens (middle.flatMap (itemText library rpdata key append false) ++
        itemText library rpdata key append false last) (-2 + net)
      ((∀ decoded ∈ middle ++ [last], PrintableText (shownText library rpdata decoded)) ∧
        HasText library rpdata last ∧ EndsData last) := by
  induction middle with
  | nil =>
      have item := opens_itemText_last closing nonpos plain (clean last (by simp))
      simpa using item
  | cons decoded middle ih =>
      simp only [List.forall_mem_cons, List.cons_append] at middleText clean
      have item := @opens_itemText _ _ _ key append _ middleText.1.1 middleText.1.2 clean.1
      have items := (item.append (ih middleText.2 clean.2)).of_eq (Int.zero_add _)
      rw [List.flatMap_cons, List.append_assoc]
      refine items.imp fun good => ⟨?_, good.2.2⟩
      exact List.forall_mem_cons.mpr ⟨good.1, good.2.1⟩

theorem opens_valuesText {net : ℤ} {values : List (Decoded Value) × Decoded Value}
    (closing : Opens (append ++ ['\n']) net True) (nonpos : net ≤ 0) (plain : isPlain key)
    (clean : CleanValues library rpdata values)
    (rounds : ∀ decoded ∈ values.1, 0 < decoded.len ∧ decoded.len < decoded.apdu.length) :
    Opens (valuesText library rpdata key append values) net
      (PrintableValues library rpdata append values) := by
  have cleanTexts := fun decoded => @cleanText_shownText _ library rpdata decoded values clean
  rcases values with ⟨_ | ⟨first, middle⟩, last⟩
  · refine (opens_keyValue closing plain (cleanTexts last (by simp))).imp fun printable => ?_
    exact ⟨by simpa using printable, by simp, by simp, fun nonempty => absurd rfl nonempty⟩
  · have texts := clean.text
    simp only [List.forall_mem_cons, List.cons_append] at rounds texts cleanTexts
    have notLast : ∀ decoded : Decoded Value, decoded.len < decoded.apdu.length →
        ¬EndsData decoded := fun _ less => Int.not_le.mpr less
    have opening := @opens_itemText_first _ _ _ _ append _ plain texts.1
      (notLast first rounds.1.2) cleanTexts.1
    have items := opens_items closing nonpos plain
      (fun decoded mem => ⟨texts.2 decoded mem, notLast decoded (rounds.2 decoded mem).2⟩)
      cleanTexts.2
    refine ((opening.append items).imp fun good => ?_).of_eq (by omega)
    rcases good with ⟨firstPrintable, othersPrintable, lastText, ends⟩
    refine ⟨List.forall_mem_cons.mpr ⟨firstPrintable, othersPrintable⟩, ?_, ?_,
      fun _ => ⟨lastText, ends⟩⟩
    · rintro decoded ⟨⟩
      exact texts.1
    · exact fun decoded mem => .inl (texts.2 decoded mem)

end Lists

/-! ## The properties of an object -/

/-- What is printed for a property. -/
def propertyRow (append : CString) (read : PropertyRead) : CString :=
  cmdValuePrint library { rpdata with objectProperty := read.property } library.valueListInit
    read.outcome false append

/-- The values of a property that is read. -/
def readValues (read : PropertyRead) (applicationData : List UInt8) :
    List (Decoded Value) × Decoded Value :=
  decodedValues library { rpdata with objectProperty := read.property } applicationData
    library.valueListInit

/-- An error without names, no data, or printable values. -/
def PrintableRead (append : CString) (read : PropertyRead) : Prop :=
  match read.outcome with
  | .error errorClass errorCode =>
      library.errorClassNameDefault errorClass = none ∧
        library.errorCodeNameDefault errorCode = none
  | .success [] => True
  | .success applicationData =>
      PrintableValues library { rpdata with objectProperty := read.property } append
        (readValues library rpdata read applicationData)

def CleanRead (read : PropertyRead) : Prop :=
  match read.outcome with
  | .success (byte :: bytes) =>
      CleanValues library { rpdata with objectProperty := read.property }
        (readValues library rpdata read (byte :: bytes))
  | _ => True

/-- Every property is printable where it stands. -/
def PrintableReads : List PropertyRead → Prop
  | [] => True
  | [read] => PrintableRead library rpdata [']', ','] read
  | read :: next :: rest =>
      PrintableRead library rpdata [','] read ∧ PrintableReads (next :: rest)

def propertyRows : List PropertyRead → CString
  | [] => []
  | [read] => propertyRow library rpdata [']', ','] read
  | read :: next :: rest => propertyRow library rpdata [','] read ++ propertyRows (next :: rest)

/-- All properties in the order of the lists. -/
def SpecialPropertyList.reads (lists : SpecialPropertyList) : List PropertyRead :=
  lists.required ++ (lists.optional ++ lists.proprietary)

/-- The element of a property: an object with the property as its only member. -/
def IsElement (read : PropertyRead) (value : Json) : Prop :=
  ∃ content, value = .object [(propertyKey library read.property, content)]

section Documented

variable {library rpdata} (documented : PropertyLibraryDocumented library)
include documented

theorem bactextName_none (number : UInt32) :
    bactextName library none number.toNat 80 = unsignedText number.toNat := by
  have short := length_toDigits_uint32 number
  exact documented.ultoa _ _ (Nat.lt_of_le_of_lt short (by decide))

theorem isPlain_propertyKey (property : UInt32) : isPlain (propertyKey library property) := by
  rw [propertyKey]
  cases named : library.propertyNameDefault property with
  | none =>
      rw [bactextName_none documented]
      exact isPlain_unsignedText _
  | some name =>
      have isName := documented.propertyNameDefault property name named
      rw [bactextName, documented.snprintfToAscii _ _ isName.1 isName.2]
      exact isName.1

/-- The name of an error, or its number, is a word, and only the number is a scalar. -/
theorem errorName_word (number : UInt32) {name : Option CString}
    (isName : ∀ text, name = some text → IsErrorName text) :
    bactextName library name number.toNat 80 ≠ [] ∧
      (∀ c ∈ bactextName library name number.toNat 80, isWordCharacter c) ∧
      (IsScalar (bactextName library name number.toNat 80) → name = none) := by
  cases name with
  | none =>
      rw [bactextName_none documented]
      exact ⟨Nat.toDigits_ne_nil, (isNumber_unsignedText _).isWordCharacter, fun _ => rfl⟩
  | some text =>
      have errorName := isName text rfl
      rw [bactextName, documented.snprintfToAscii _ _ errorName.plain errorName.short]
      refine ⟨?_, errorName.word, fun scalar => ?_⟩
      · rintro rfl
        cases errorName.letter
      · rcases errorName.notKeyword with ⟨notTrue, notFalse, notNull⟩
        rcases scalar with isTrue | isFalse | isNull | number
        · exact absurd isTrue notTrue
        · exact absurd isFalse notFalse
        · exact absurd isNull notNull
        · have letter := errorName.letter
          rw [number.head?_not_isAlpha] at letter
          cases letter

/-! ### One property -/

variable {append : CString} {read : PropertyRead}

/-- A printable property is one object. -/
theorem element_of_printableRead (printable : PrintableRead library rpdata append read) :
    ∃ body content, propertyRow library rpdata append read = body ++ (append ++ ['\n']) ∧
      ValueText body (.object [(propertyKey library read.property, content)]) := by
  have plain := isPlain_propertyKey documented read.property
  rcases read with ⟨property, errorClass | ⟨_ | ⟨byte, bytes⟩⟩⟩
  · rename_i errorCode
    rcases printable with ⟨classNone, codeNone⟩
    have classMember := memberText_keyText "error-class".toList rfl blank_nil
      (.number (isNumber_unsignedText errorClass.toNat)) blank_nil
    have codeMember := memberText_keyText "error-code".toList rfl blank_space
      (.number (isNumber_unsignedText errorCode.toNat)) blank_nil
    have isObject := ValueText.object (.more classMember (.last codeMember))
    refine ⟨_, _, ?_, valueText_keyText plain isObject⟩
    simp only [propertyRow, cmdValuePrint, cmdJsonPrintKeyError, classNone, codeNone,
      bactextName_none documented]
    simp [keyText]
  · have printableNull : PrintableText "null".toList := by
      rw [PrintableText, if_neg (by decide)]
      exact ⟨_, .null⟩
    rcases keyValue_printable plain printableNull with ⟨body, content, text, isValue, _⟩
    exact ⟨body, content, text append, isValue⟩
  · have values := PrintableValues.element printable plain
      fun decoded mem => Int.not_le.mpr (decodedValues_front _ _ decoded mem).2
    rcases values with ⟨body, content, text, isValue, _⟩
    refine ⟨body, content, ?_, isValue⟩
    rw [← text]
    exact cmdValuePrintLoop_eq _ _ _ _

/-- A property that is not printable leaves brackets open or has a word that is no scalar. -/
theorem opens_propertyRow {net : ℤ} (closing : Opens (append ++ ['\n']) net True)
    (nonpos : net ≤ 0) (clean : CleanRead library rpdata read) :
    Opens (propertyRow library rpdata append read) net
      (PrintableRead library rpdata append read) := by
  have plain := isPlain_propertyKey documented read.property
  rcases read with ⟨property, errorClass | ⟨_ | ⟨byte, bytes⟩⟩⟩
  · rename_i errorCode
    rcases errorName_word documented errorClass (documented.errorClassNameDefault errorClass) with
      ⟨classNonempty, classWord, classScalar⟩
    rcases errorName_word documented errorCode (documented.errorCodeNameDefault errorCode) with
      ⟨codeNonempty, codeWord, codeScalar⟩
    have code := (closing.cons '\x7d' rfl).append_word codeNonempty codeWord '\x7d' rfl
    have codeKey := (opens_keyText "error-code".toList rfl code).cons ' ' rfl
    have both := codeKey.append_word classNonempty classWord ',' rfl
    have inner := (opens_keyText "error-class".toList rfl both).cons '\x7b' rfl
    have object := (opens_keyText _ plain inner).cons '\x7b' rfl
    refine (object.imp fun good => ?_).of_eq
      (show 1 + (1 + (0 + (0 + (-1 + (-1 + net))))) = net by omega)
    exact ⟨classScalar good.1, codeScalar good.2.1⟩
  · have cleanNull : CleanText "null".toList :=
      ⟨fun quoted => absurd quoted (by decide), fun quote => absurd quote (by decide)⟩
    exact (opens_keyValue closing plain cleanNull).imp fun _ => trivial
  · have values := opens_valuesText closing nonpos plain clean
      (decodedValues_front (byte :: bytes) library.valueListInit)
    have row : propertyRow library rpdata append ⟨property, .success (byte :: bytes)⟩ =
        valuesText library { rpdata with objectProperty := property }
          (propertyKey library property) append
          (readValues library rpdata ⟨property, .success (byte :: bytes)⟩ (byte :: bytes)) :=
      cmdValuePrintLoop_eq _ _ _ _
    rw [row]
    exact values

/-! ### All properties -/

/-- The rows of printable properties are the elements of an array. -/
theorem elements_of_printableReads {reads : List PropertyRead} (nonempty : reads ≠ [])
    (printable : PrintableReads library rpdata reads) :
    ∃ body values, propertyRows library rpdata reads = body ++ [']', ',', '\n'] ∧
      ElementsText ('\n' :: body) values ∧ List.Forall₂ (IsElement library) reads values := by
  induction reads with
  | nil => contradiction
  | cons read rest ih =>
      cases rest with
      | nil =>
          rcases element_of_printableRead documented printable with ⟨body, content, row, isValue⟩
          exact ⟨body, [_], row, .last (element_line isValue), .cons ⟨content, rfl⟩ .nil⟩
      | cons next rest =>
          rcases element_of_printableRead documented printable.1 with ⟨body, content, row, isValue⟩
          rcases ih (List.cons_ne_nil _ _) printable.2 with ⟨others, values, rows, elements, each⟩
          refine ⟨body ++ ',' :: '\n' :: others, _ :: values, ?_,
            .more (element_line isValue) elements, .cons ⟨content, rfl⟩ each⟩
          rw [propertyRows, row, rows]
          simp

theorem opens_propertyRows {reads : List PropertyRead} (nonempty : reads ≠ [])
    (clean : ∀ read ∈ reads, CleanRead library rpdata read) :
    Opens (propertyRows library rpdata reads) (-1) (PrintableReads library rpdata reads) := by
  have comma : Opens ([','] ++ ['\n']) 0 True :=
    (opens_lineEnd.cons ',' rfl).of_eq rfl
  have bracket : Opens ([']', ','] ++ ['\n']) (-1) True :=
    (comma.cons ']' rfl).of_eq rfl
  induction reads with
  | nil => contradiction
  | cons read rest ih =>
      rw [List.forall_mem_cons] at clean
      cases rest with
      | nil => exact opens_propertyRow documented bracket (by decide) clean.1
      | cons next rest =>
          have row := opens_propertyRow documented comma (by decide) clean.1
          exact (row.append (ih (List.cons_ne_nil _ _) clean.2)).of_eq rfl

end Documented

/-- The three loops print the rows one after the other. -/
theorem printed_foldl (count : ℕ) (reads : List PropertyRead) {printing : PropertyPrinting}
    (append : printing.append = [',']) (counter : printing.counter + reads.length = count) :
    (reads.foldl (printProperty library rpdata count) printing).printed =
      printing.printed ++ propertyRows library rpdata reads := by
  induction reads generalizing printing with
  | nil => exact (List.append_nil _).symm
  | cons read rest ih =>
      cases rest with
      | nil =>
          have last : printing.counter + 1 = count := counter
          simp only [List.foldl_cons, List.foldl_nil, printProperty, if_pos last]
          rfl
      | cons next rest =>
          have notLast : ¬printing.counter + 1 = count := by
            simp only [List.length_cons] at counter
            omega
          have step : printProperty library rpdata count printing read =
              ⟨printing.counter + 1, [','],
                printing.printed ++ propertyRow library rpdata [','] read⟩ := by
            simp only [printProperty, if_neg notLast, append]
            rfl
          rw [List.foldl_cons, step, ih rfl, propertyRows, List.append_assoc]
          simp only [List.length_cons] at counter ⊢
          omega

/-- The members before the list, and after it. -/
def identifierText : CString :=
  '"' :: (library.propertyName propObjectIdentifier ++ '"' :: ':' ::
    quoted ('(' :: (library.objectTypeName rpdata.objectType ++ ':' ::
      (unsignedText rpdata.objectInstance.toNat ++ [')']))))

theorem cmdPrintValueAll_eq (lists : SpecialPropertyList) :
    cmdPrintValueAll library rpdata lists =
      '\x7b' :: (identifierText library rpdata ++ ',' :: '\n' ::
        keyText (library.propertyName propPropertyList) ('[' :: '\n' ::
          (propertyRows library rpdata lists.reads ++ keyText "property-list-size".toList
            (unsignedText lists.reads.length ++ ['\x7d', '\n'])))) := by
  have count : lists.required.length + lists.optional.length + lists.proprietary.length =
      lists.reads.length := by
    simp only [SpecialPropertyList.reads, List.length_append]
    omega
  have rows := @printed_foldl _ library rpdata lists.reads.length lists.reads ⟨0, [','], []⟩ rfl
    (Nat.zero_add _)
  simp only [SpecialPropertyList.reads, List.foldl_append] at rows
  simp only [cmdPrintValueAll, count]
  simp only [SpecialPropertyList.reads] at rows ⊢
  rw [rows]
  simp [identifierText, quoted]

/-! ## The document -/

/--
All that is printed is one JSON value, with an array that has one element for each property,
in the order of the lists.
-/
def PropertyListKept (lists : SpecialPropertyList) : Prop :=
  ∃ members values, ElementText (cmdPrintValueAll library rpdata lists) (.object members) ∧
    ("property-list".toList, Json.array values) ∈ members ∧
    List.Forall₂ (IsElement library) lists.reads values

section Documented

variable {library rpdata} (documented : PropertyLibraryDocumented library)
  {lists : SpecialPropertyList} (nonempty : lists.reads ≠ [])
include documented

theorem memberText_identifierText :
    ∃ identifier, MemberText (identifierText library rpdata) identifier := by
  have plain : isPlain ('(' :: (library.objectTypeName rpdata.objectType ++ ':' ::
      (unsignedText rpdata.objectInstance.toNat ++ [')']))) := by
    have typeName := documented.objectTypeName rpdata.objectType
    have number := isPlain_unsignedText rpdata.objectInstance.toNat
    rw [isPlain] at typeName number
    simp only [isPlain, List.all_cons, List.all_append, List.all_nil]
    rw [typeName, number]
    rfl
  have name := charactersText_of_isPlain (documented.propertyName propObjectIdentifier)
  have member := MemberText.spaced blank_nil name blank_nil (.of_value (valueText_quoted plain))
  exact ⟨_, member⟩

include nonempty

theorem propertyListKept_of_printableReads
    (printable : PrintableReads library rpdata lists.reads) :
    PropertyListKept library rpdata lists := by
  rcases elements_of_printableReads documented nonempty printable with
    ⟨body, values, rows, elements, each⟩
  rcases @memberText_identifierText _ library rpdata documented with ⟨identifier, isIdentifier⟩
  have list := memberText_keyText _ (documented.propertyName propPropertyList) blank_lineEnd
    (.array elements) blank_nil
  rw [documented.propertyList] at list
  have size := memberText_keyText "property-list-size".toList rfl blank_lineEnd
    (.number (isNumber_unsignedText lists.reads.length)) blank_nil
  have document := ElementText.spaced blank_nil
    (.object (.more isIdentifier (.more list (.last size)))) blank_lineEnd
  refine ⟨[identifier, _, ("property-list-size".toList, .number (unsignedText lists.reads.length))],
    values, ?_, List.mem_cons_of_mem _ List.mem_cons_self, each⟩
  · rw [cmdPrintValueAll_eq, rows, documented.propertyList]
    simpa [keyText] using document

/-- In a document every property has been printable, as far as its texts are clean. -/
theorem printableReads_of_propertyListKept
    (clean : ∀ read ∈ lists.reads, CleanRead library rpdata read)
    (kept : PropertyListKept library rpdata lists) :
    PrintableReads library rpdata lists.reads := by
  rcases kept with ⟨members, values, document, _, _⟩
  rcases @memberText_identifierText _ library rpdata documented with ⟨identifier, isIdentifier⟩
  have number := ValueText.number (isNumber_unsignedText lists.reads.length)
  have size := opens_lineEnd.append_scans number.scans '\x7d' rfl
  have sizeKey := opens_keyText "property-list-size".toList rfl size
  have rows := (opens_propertyRows documented nonempty clean).append sizeKey
  have list := (rows.cons '\n' rfl).cons '[' rfl
  have listKey := (opens_keyText _ (documented.propertyName propPropertyList) list).cons '\n' rfl
  have opening := (listKey.append_scans isIdentifier.scans ',' rfl).cons '\x7b' rfl
  rw [← cmdPrintValueAll_eq] at opening
  exact ((opening.of_eq rfl).good_of_scans document.scans).1

end Documented

end Values

/-! ## A library for concrete documents -/

/-- An unsigned number of one byte is not longer than the data it is read from. -/
theorem unsignedOctet_le (apdu : List UInt8) (value : UInt8) :
    (match apdu with
      | 0x21 :: number :: _ => (2, number)
      | _ => (-1, value) : Int × UInt8).1 ≤ apdu.length := by
  split
  · simp only [List.length_cons]
    omega
  · omega

/-- Names of a few properties and errors, and values that are unsigned numbers of one byte. -/
def referenceProperties : PropertyLibrary UInt8 where
  propertyName property :=
    if property = propPropertyList then "property-list".toList else "object-identifier".toList
  propertyNameDefault property := if property = 85 then some "present-value".toList else none
  objectTypeName _ := "positive-integer-value".toList
  errorClassNameDefault errorClass := if errorClass = 2 then some "property".toList else none
  errorCodeNameDefault errorCode := if errorCode = 32 then some "unknown-property".toList else none
  snprintfToAscii size text := text.take (size - 1)
  ultoa value size := (unsignedText value).take (size - 1)
  valueListInit := 0
  decodeKnownArrayProperty _ apdu value :=
    match apdu with
    | 0x21 :: number :: _ => (2, number)
    | _ => (-1, value)
  decode_le _ apdu value := unsignedOctet_le apdu value
  snprintfValue _ value := ((unsignedText value.toNat).length, unsignedText value.toNat)

theorem isErrorName_property : IsErrorName "property".toList where
  plain := rfl
  short := by decide
  letter := rfl
  word := List.all_eq_true.mp rfl
  notKeyword := by decide

theorem isErrorName_unknownProperty : IsErrorName "unknown-property".toList where
  plain := rfl
  short := by decide
  letter := rfl
  word := List.all_eq_true.mp rfl
  notKeyword := by decide

theorem documented_referenceProperties : PropertyLibraryDocumented referenceProperties where
  snprintfToAscii size text _ short := List.take_of_length_le (Nat.le_sub_one_of_lt short)
  ultoa value size short := List.take_of_length_le (Nat.le_sub_one_of_lt short)
  propertyName property := by
    simp only [referenceProperties]
    split
    · rfl
    · rfl
  propertyList := rfl
  propertyNameDefault property name named := by
    simp only [referenceProperties] at named
    split at named
    · cases named
      exact ⟨rfl, by decide⟩
    · cases named
  objectTypeName _ := rfl
  errorClassNameDefault errorClass name named := by
    simp only [referenceProperties] at named
    split at named
    · cases named
      exact isErrorName_property
    · cases named
  errorCodeNameDefault errorCode name named := by
    simp only [referenceProperties] at named
    split at named
    · cases named
      exact isErrorName_unknownProperty
    · cases named

/-- The present value of an object, and another property that is read with the outcome. -/
def referenceLists (outcome : PropertyOutcome) : SpecialPropertyList where
  required := [⟨85, .success [0x21, 5]⟩]
  optional := [⟨117, outcome⟩]
  proprietary := []

def referenceRead : BacnetReadPropertyData where
  objectType := 48
  objectInstance := 1
  objectProperty := 85
  arrayIndex := 0xFFFFFFFF

theorem valueText_five : ValueText ['5'] (.number ['5']) := .number (isNumber_unsignedText 5)

/-- The present value decodes to one value, which is printed as a number. -/
theorem readValues_reference :
    readValues referenceProperties referenceRead ⟨85, .success [0x21, 5]⟩ [0x21, 5] =
      ([], ⟨[0x21, 5], 2, 5⟩) :=
  decodedValues_last rfl (by decide)

theorem printableRead_reference :
    PrintableRead referenceProperties referenceRead [','] ⟨85, .success [0x21, 5]⟩ := by
  show PrintableValues _ _ _ (readValues _ _ _ _)
  rw [readValues_reference]
  refine ⟨fun decoded mem => ?_, by simp, by simp, fun nonempty => absurd rfl nonempty⟩
  rw [List.mem_singleton.mp mem]
  exact ⟨_, valueText_five⟩

theorem cleanRead_reference :
    CleanRead referenceProperties referenceRead ⟨85, .success [0x21, 5]⟩ := by
  show CleanValues _ _ (readValues _ _ _ _)
  rw [readValues_reference]
  refine ⟨fun decoded mem _ => ?_, by simp⟩
  rw [List.mem_singleton.mp mem]
  exact ⟨fun quoted => absurd quoted (by decide), fun quote => absurd quote (by decide)⟩

/--
Printable properties give one JSON value, and where texts are clean there is no other way to
one.
-/
theorem propertyListKept_iff {Value : Type} {library : PropertyLibrary Value}
    (documented : PropertyLibraryDocumented library) (rpdata : BacnetReadPropertyData)
    (lists : SpecialPropertyList) (nonempty : lists.reads ≠ []) :
    (PrintableReads library rpdata lists.reads → PropertyListKept library rpdata lists) ∧
      ((∀ read ∈ lists.reads, CleanRead library rpdata read) →
        (PropertyListKept library rpdata lists ↔ PrintableReads library rpdata lists.reads)) := by
  have sufficient : PrintableReads library rpdata lists.reads →
      PropertyListKept library rpdata lists :=
    propertyListKept_of_printableReads documented nonempty
  refine ⟨sufficient, fun clean => ⟨fun kept => ?_, sufficient⟩⟩
  exact printableReads_of_propertyListKept documented nonempty clean kept

theorem propertyListKept_iff_reference :
    PropertyListKept referenceProperties referenceRead (referenceLists (.success [])) :=
  (propertyListKept_iff documented_referenceProperties referenceRead
    (referenceLists (.success [])) (List.cons_ne_nil _ _)).1 ⟨printableRead_reference, trivial⟩

/-- The names of an error are printed without quotation marks. -/
theorem not_propertyListKept :
    ¬PropertyListKept referenceProperties referenceRead (referenceLists (.error 2 32)) := by
  intro kept
  have nonempty : (referenceLists (.error 2 32)).reads ≠ [] := List.cons_ne_nil _ _
  have clean : ∀ read ∈ (referenceLists (.error 2 32)).reads,
      CleanRead referenceProperties referenceRead read := by
    intro read mem
    rcases List.mem_cons.mp mem with rfl | mem
    · exact cleanRead_reference
    · rw [List.mem_singleton.mp mem]
      trivial
  have printable := printableReads_of_propertyListKept documented_referenceProperties nonempty
    clean kept
  cases printable.2.1

end BacnetZephyr
