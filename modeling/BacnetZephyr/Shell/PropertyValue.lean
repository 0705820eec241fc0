import BacnetZephyr.Shell.PropertyJson
import BacnetZephyr.Shell.Quoting
import Mathlib.Algebra.GroupWithZero.Nat

/-!
# The value of a property

What `cmd_value_print` prints for a property that is read is one object with the text to
append once behind it, unless a list is not decoded to its end, a value of a list has no
text, or a text is taken for a number that it is not. A value without a text is dumped
as an object of its own, with the text to append behind that.
-/

namespace BacnetZephyr

open CLib JsonText

/-- The text is a scalar of JSON, or a string that needs only quotation marks. -/
def IsPrintableForm (text : CString) : Prop :=
  IsScalar text ∨ (∃ characters, ValueText text (.string characters)) ∨
    ∃ characters, CharactersText text characters

section Forms

variable {text : CString}

theorem isPlain_of_isNumber (number : IsNumber text) : isPlain text := by
  rcases number with ⟨sign, integer, fraction, exponent, rfl, isSign, ⟨⟨_, digits⟩, _⟩,
    isFraction, isExponent⟩
  have plain : ∀ c : Char, c.isDigit → 0x20 ≤ c.toNat ∧ c.toNat < 0x80 ∧ c ≠ '"' ∧ c ≠ '\\' := by
    intro c digit
    have range := digit
    simp only [Char.isDigit, Bool.and_eq_true, decide_eq_true_eq] at range
    have lower : '0'.toNat ≤ c.toNat := range.1
    have upper : c.toNat ≤ '9'.toNat := range.2
    exact ⟨Nat.le_trans (by decide) lower, Nat.lt_of_le_of_lt upper (by decide),
      isDigit_ne digit rfl, isDigit_ne digit rfl⟩
  have digitsPlain : ∀ word : CString, (∀ c ∈ word, c.isDigit) → isPlain word := by
    intro word isWord
    simpa only [isPlain, List.all_eq_true, decide_eq_true_eq] using
      fun c mem => plain c (isWord c mem)
  have parts : ∀ front back : CString, isPlain front → isPlain back → isPlain (front ++ back) := by
    intro front back plainFront plainBack
    rw [isPlain] at plainFront plainBack ⊢
    rw [List.all_append, plainFront, plainBack]
    rfl
  apply parts
  · rcases isSign with rfl | rfl
    · rfl
    · rfl
  · apply parts _ _ (digitsPlain _ digits)
    apply parts
    · rcases isFraction with rfl | ⟨after, rfl, isDigits⟩
      · rfl
      · exact parts ['.'] _ rfl (digitsPlain _ isDigits.2)
    · rcases isExponent with rfl | ⟨e, plus, after, rfl, letter, isPlus, isDigits⟩
      · rfl
      · apply parts [e]
        · rcases letter with rfl | rfl
          · rfl
          · rfl
        · apply parts _ _ _ (digitsPlain _ isDigits.2)
          rcases isPlus with rfl | rfl | rfl
          · rfl
          · rfl
          · rfl

theorem isPrintableForm_hexText (bytes : List UInt8) : IsPrintableForm (hexText bytes) :=
  Or.inr (Or.inr ⟨_, charactersText_of_isPlain
    (isPlain_of_isDigitOf fun _ mem => isDigitOf_of_mem_hexText mem)⟩)

/-- What is quoted has no quotation marks yet and needs no escapes. -/
theorem IsPrintableForm.charactersText (form : IsPrintableForm text)
    (quotes : cmdJsonIsQuoted text) : ∃ characters, CharactersText text characters := by
  have bare : ¬cmdJsonIsQuoted text = false := by simp [quotes]
  rw [cmdJsonIsQuoted_eq_false_iff] at bare
  rcases form with (isTrue | isFalse | isNull | number) | ⟨characters, string⟩ | characters
  · exact absurd (Or.inl (Or.inl isTrue)) bare
  · exact absurd (Or.inl (Or.inr (Or.inl isFalse))) bare
  · exact absurd (Or.inl (Or.inr (Or.inr isNull))) bare
  · exact ⟨_, charactersText_of_isPlain (isPlain_of_isNumber number)⟩
  · refine absurd (Or.inr (Or.inl ?_)) bare
    cases string
    rfl
  · exact characters

theorem IsPrintableForm.cleanText (form : IsPrintableForm text) : CleanText text where
  quoted := form.charactersText
  isQuoted string := by
    rcases form with scalar | ⟨characters, isString⟩ | ⟨characters, isText⟩
    · have word := scalar.isWordCharacter '"' (List.mem_of_mem_head? string)
      cases word
    · exact ⟨_, isString⟩
    · exact absurd string isText.head?_ne_quote

/-- A word that is a value is a scalar. -/
theorem isScalar_of_valueText {value : Json} (isValue : ValueText text value)
    (nonempty : text ≠ []) (word : ∀ c ∈ text, isWordCharacter c) : IsScalar text := by
  have opens := opens_nil.append_word nonempty word '\n' rfl
  have element := ElementText.spaced blank_nil isValue blank_lineEnd
  exact ((opens.of_eq rfl).good_of_scans element.scans).1

/-- A number of a text of digits and a point has no exponent. -/
theorem isDecimalNumber_of_isNumber (number : IsNumber text)
    (numeral : DigitsAndPoint (withoutSign text)) : IsDecimalNumber text := by
  rcases number with ⟨sign, integer, fraction, exponent, rfl, isSign, isInteger, isFraction,
    rfl | ⟨e, plus, digits, rfl, letter, _, _⟩⟩
  · exact ⟨sign, integer, fraction, by simp, isSign, isInteger, isFraction⟩
  · rcases sign_append_withoutSign
      (sign ++ (integer ++ (fraction ++ e :: (plus ++ digits)))) with ⟨minus, equal, isMinus⟩
    have mem : e ∈ sign ++ (integer ++ (fraction ++ e :: (plus ++ digits))) := by simp
    rw [equal, List.mem_append] at mem
    rcases mem with inSign | inNumeral
    · rcases isMinus with rfl | rfl
      · cases inSign
      · rw [List.mem_singleton] at inSign
        rcases letter with rfl | rfl
        · cases inSign
        · cases inSign
    · rcases numeral.1 e inNumeral with digit | point
      · rcases letter with rfl | rfl
        · cases digit
        · cases digit
      · rcases letter with rfl | rfl
        · cases point
        · cases point

/-- A printable form is printed as a value of JSON exactly if it is no unsound numeral. -/
theorem IsPrintableForm.printableText_iff (form : IsPrintableForm text) :
    PrintableText text ↔ IsSoundNumeral text := by
  rw [← quotedUnlessJson_iff, PrintableText, QuotedUnlessJson]
  cases quotes : cmdJsonIsQuoted text with
  | true => exact iff_of_true (form.charactersText quotes) (by simp)
  | false =>
      simp only [Bool.false_eq_true, if_false, forall_const]
      constructor
      · rintro ⟨value, isValue⟩
        rcases (cmdJsonIsQuoted_eq_false_iff text).mp quotes with
          keyword | string | ⟨nonempty, numeral⟩
        · exact Or.inl keyword
        · exact Or.inr (Or.inl string)
        · by_cases string : text.head? = some '"'
          · exact Or.inr (Or.inl string)
          · have word := (word_of_not_quoted quotes string).2
            rcases isScalar_of_valueText isValue nonempty word with
              isTrue | isFalse | isNull | number
            · exact Or.inl (Or.inl isTrue)
            · exact Or.inl (Or.inr (Or.inl isFalse))
            · exact Or.inl (Or.inr (Or.inr isNull))
            · exact Or.inr (Or.inr (isDecimalNumber_of_isNumber number numeral))
      · rintro ((rfl | rfl | rfl) | string | number)
        · exact ⟨_, .true⟩
        · exact ⟨_, .false⟩
        · exact ⟨_, .null⟩
        · exact form.cleanText.isQuoted string
        · exact ⟨_, .number number.isNumber⟩

end Forms

/-! ## One object for a property -/

section Values

variable {Value : Type} (library : PropertyLibrary Value) (rpdata : BacnetReadPropertyData)

/-- The texts of values are printable forms. -/
def PrintableForms (values : List (Decoded Value) × Decoded Value) : Prop :=
  ∀ decoded ∈ values.1 ++ [values.2], HasText library rpdata decoded →
    IsPrintableForm (library.snprintfValue rpdata decoded.value).2

/--
No text is an unsound numeral, and if there is more than one value, all of them have texts and
the last one ends the data.
-/
def WellDecoded (values : List (Decoded Value) × Decoded Value) : Prop :=
  (∀ decoded ∈ values.1 ++ [values.2], IsSoundNumeral (shownText library rpdata decoded)) ∧
    (values.1 ≠ [] →
      (∀ decoded ∈ values.1 ++ [values.2], HasText library rpdata decoded) ∧ EndsData values.2)

/-- The content of the object for a property that is read. -/
def IsPropertyContent (value : Value) (applicationData : List UInt8) (content : Json) : Prop :=
  if applicationData = [] then content = .null
  else IsContent library rpdata (decodedValues library rpdata applicationData value) content

/--
What is printed is one object with the property as its only member, with the text to append
once after it.
-/
def PropertyPrinted (value : Value) (applicationData : List UInt8) : Prop :=
  ∃ body content, (∀ append, cmdValuePrint library rpdata value (.success applicationData) false
        append = body ++ (append ++ ['\n'])) ∧
      ValueText body (.object [(propertyKey library rpdata.objectProperty, content)]) ∧
      IsPropertyContent library rpdata value applicationData content

/-- A dump and the end of a list are followed by the text to append. -/
def appendCount (decoded : Decoded Value) : ℕ :=
  if HasText library rpdata decoded ∧ ¬EndsData decoded then 0 else 1

variable {library rpdata} {values : List (Decoded Value) × Decoded Value} {key : CString}

theorem PrintableForms.shownText (forms : PrintableForms library rpdata values)
    {decoded : Decoded Value} (mem : decoded ∈ values.1 ++ [values.2]) :
    IsPrintableForm (shownText library rpdata decoded) := by
  rw [BacnetZephyr.shownText]
  split
  · rename_i hasText
    exact forms decoded mem hasText
  · exact isPrintableForm_hexText _

/-! ### How often the text to append is printed -/

theorem length_cmdJsonPrintKeyValue (key text append : CString) :
    (cmdJsonPrintKeyValue [] key text [] append).length =
      (cmdJsonPrintKeyValue [] key text [] []).length + append.length := by
  simp only [cmdJsonPrintKeyValue, keyText, quotedText, List.nil_append, List.length_append,
    List.length_cons]
  omega

theorem length_itemText (key append : CString) (first : Bool) (decoded : Decoded Value) :
    (itemText library rpdata key append first decoded).length =
      (itemText library rpdata key [] first decoded).length +
        appendCount library rpdata decoded * append.length := by
  by_cases text : HasText library rpdata decoded
  · by_cases ends : EndsData decoded
    · simp only [itemText, text, if_true, cmdJsonPrintListValue, ends, decide_true, appendCount,
        not_true, and_false, if_false, List.length_append, List.length_cons, List.nil_append]
      omega
    · simp only [itemText, text, if_true, cmdJsonPrintListValue, ends, decide_false, appendCount,
        not_false_eq_true, and_true, Nat.zero_mul, Nat.add_zero, Bool.false_eq_true, if_false]
  · simp only [itemText, text, if_false, appendCount, false_and, Nat.one_mul]
    exact length_cmdJsonPrintKeyValue _ _ _

theorem length_items (key append : CString) (middle : List (Decoded Value)) :
    (middle.flatMap (itemText library rpdata key append false)).length =
      (middle.flatMap (itemText library rpdata key [] false)).length +
        (middle.map (appendCount library rpdata)).sum * append.length := by
  induction middle with
  | nil => simp
  | cons decoded middle ih =>
      simp only [List.flatMap_cons, List.length_append, List.map_cons, List.sum_cons,
        Nat.add_mul, ih, length_itemText key append false decoded]
      omega

/-- A last value that does not end the data is followed by a comma. -/
theorem valuesText_open {first last : Decoded Value} {middle : List (Decoded Value)}
    (text : HasText library rpdata last) (notLast : ¬EndsData last) (append : CString) :
    ∃ front,
      valuesText library rpdata key append (first :: middle, last) = front ++ [',', '\n'] := by
  have item : itemText library rpdata key append false last =
      quotedText (shownText library rpdata last) [] ++ [',', '\n'] := by
    rw [← quotedText_eq_append]
    simp [itemText, text, cmdJsonPrintListValue, notLast]
  simp only [valuesText, item, ← List.append_assoc]
  exact ⟨_, rfl⟩

/-- If the text to append is printed once, at the end, all values but the last have texts. -/
theorem hasText_of_appended_once {body : CString}
    (once : ∀ append, valuesText library rpdata key append values = body ++ (append ++ ['\n'])) :
    ∀ decoded ∈ values.1, HasText library rpdata decoded := by
  rcases values with ⟨_ | ⟨first, middle⟩, last⟩
  · simp
  by_cases isOpen : HasText library rpdata last ∧ ¬EndsData last
  · rcases valuesText_open isOpen.1 isOpen.2 ['x'] with ⟨front, text⟩
    rw [once] at text
    have same := (List.append_inj' text rfl).2
    cases same
  · have closing : appendCount library rpdata last = 1 := if_neg isOpen
    have longer := congrArg List.length (once ['x'])
    have plain := congrArg List.length (once [])
    simp only [valuesText, List.length_append, List.length_cons, List.length_nil] at longer plain
    rw [length_itemText key ['x'] true first, length_items key ['x'] middle,
      length_itemText key ['x'] false last, closing] at longer
    simp only [List.length_cons, List.length_nil] at longer
    have none : ((first :: middle).map (appendCount library rpdata)).sum = 0 := by
      rw [List.map_cons, List.sum_cons]
      omega
    intro decoded mem
    have zero := List.sum_eq_zero_iff_forall_eq_nat.mp none _ (List.mem_map_of_mem mem)
    rw [appendCount] at zero
    split at zero
    · rename_i text
      exact text.1
    · cases zero

/-! ### When it is one object -/

theorem printableValues_iff (forms : PrintableForms library rpdata values)
    (texts : ∀ decoded ∈ values.1, HasText library rpdata decoded) (append : CString) :
    PrintableValues library rpdata append values ↔ WellDecoded library rpdata values := by
  have sound : (∀ decoded ∈ values.1 ++ [values.2],
        PrintableText (shownText library rpdata decoded)) ↔
      ∀ decoded ∈ values.1 ++ [values.2], IsSoundNumeral (shownText library rpdata decoded) :=
    forall₂_congr fun decoded mem => (forms.shownText mem).printableText_iff
  constructor
  · intro printable
    refine ⟨sound.mp printable.text, fun nonempty => ?_⟩
    rcases printable.last nonempty with ⟨lastText, ends⟩
    refine ⟨fun decoded mem => ?_, ends⟩
    rcases List.mem_append.mp mem with mem | mem
    · exact texts decoded mem
    · rw [List.mem_singleton.mp mem]
      exact lastText
  · intro wellDecoded
    refine ⟨sound.mpr wellDecoded.1, fun decoded first => ?_, fun decoded mem => ?_,
      fun nonempty => ?_⟩
    · exact texts decoded (List.mem_of_mem_head? first)
    · exact Or.inl (texts decoded (List.mem_of_mem_tail mem))
    · have all := wellDecoded.2 nonempty
      exact ⟨all.1 values.2 (by simp), all.2⟩

/-- The text to append is the end of what is printed, and nothing else depends on it. -/
theorem valuesText_appended (wellDecoded : WellDecoded library rpdata values)
    (notLast : ∀ decoded ∈ values.1, ¬EndsData decoded) :
    ∃ front, ∀ append,
      valuesText library rpdata key append values = front ++ (append ++ ['\n']) := by
  rcases values with ⟨_ | ⟨first, middle⟩, last⟩
  · refine ⟨'\x7b' :: keyText key (quotedText (shownText library rpdata last) ['\x7d']), ?_⟩
    intro append
    simp [valuesText, cmdJsonPrintKeyValue, keyText, quotedText]
  · rcases wellDecoded.2 (List.cons_ne_nil _ _) with ⟨texts, ends⟩
    simp only [List.forall_mem_append, List.forall_mem_singleton] at texts
    have same : ∀ decoded ∈ first :: middle, ∀ isFirst append,
        itemText library rpdata key append isFirst decoded =
          itemText library rpdata key [] isFirst decoded := by
      intro decoded mem isFirst append
      simp [itemText, texts.1 decoded mem, cmdJsonPrintListValue, notLast decoded mem]
    have closing : ∀ append, itemText library rpdata key append false last =
        quotedText (shownText library rpdata last) [] ++
          (']' :: '\n' :: '\x7d' :: (append ++ ['\n'])) := by
      intro append
      rw [← quotedText_eq_append]
      simp [itemText, texts.2, cmdJsonPrintListValue, ends, quotedText]
    refine ⟨itemText library rpdata key [] true first ++
      (middle.flatMap (itemText library rpdata key [] false) ++
        (quotedText (shownText library rpdata last) [] ++ [']', '\n', '\x7d'])), fun append => ?_⟩
    have items : middle.flatMap (itemText library rpdata key append false) =
        middle.flatMap (itemText library rpdata key [] false) :=
      List.flatMap_congr fun decoded mem => same decoded (List.mem_cons_of_mem _ mem) false append
    rw [valuesText, same first List.mem_cons_self, items, closing]
    simp

/-- The printed property of a value that is not empty. -/
theorem cmdValuePrint_eq_valuesText (value : Value) {applicationData : List UInt8}
    (nonempty : applicationData ≠ []) (append : CString) :
    cmdValuePrint library rpdata value (.success applicationData) false append =
      valuesText library rpdata (propertyKey library rpdata.objectProperty) append
        (decodedValues library rpdata applicationData value) := by
  rcases applicationData with _ | ⟨byte, bytes⟩
  · contradiction
  · exact cmdValuePrintLoop_eq _ _ _ _

theorem propertyPrinted_of_wellDecoded (documented : PropertyLibraryDocumented library)
    (value : Value) {applicationData : List UInt8} (nonempty : applicationData ≠ [])
    (forms : PrintableForms library rpdata (decodedValues library rpdata applicationData value))
    (wellDecoded :
      WellDecoded library rpdata (decodedValues library rpdata applicationData value)) :
    PropertyPrinted library rpdata value applicationData := by
  have plain := isPlain_propertyKey documented rpdata.objectProperty
  have notLast : ∀ decoded ∈ (decodedValues library rpdata applicationData value).1,
      ¬EndsData decoded :=
    fun decoded mem => Int.not_le.mpr (decodedValues_front _ _ decoded mem).2
  have texts : ∀ decoded ∈ (decodedValues library rpdata applicationData value).1,
      HasText library rpdata decoded :=
    fun decoded mem =>
      (wellDecoded.2 (List.ne_nil_of_mem mem)).1 decoded (List.mem_append_left _ mem)
  have printable := (printableValues_iff forms texts []).mpr wellDecoded
  rcases printable.element plain notLast with ⟨body, content, printed, isValue, isContent⟩
  rcases @valuesText_appended _ _ _ _ (propertyKey library rpdata.objectProperty)
    wellDecoded notLast with ⟨front, appended⟩
  have same : front = body := by
    rw [appended] at printed
    exact List.append_cancel_right printed
  refine ⟨body, content, fun append => ?_, isValue, ?_⟩
  · rw [cmdValuePrint_eq_valuesText value nonempty, appended, same]
  · rw [IsPropertyContent, if_neg nonempty]
    exact isContent texts

theorem wellDecoded_of_propertyPrinted (documented : PropertyLibraryDocumented library)
    (value : Value) {applicationData : List UInt8} (nonempty : applicationData ≠ [])
    (forms : PrintableForms library rpdata (decodedValues library rpdata applicationData value))
    (printed : PropertyPrinted library rpdata value applicationData) :
    WellDecoded library rpdata (decodedValues library rpdata applicationData value) := by
  have plain := isPlain_propertyKey documented rpdata.objectProperty
  rcases printed with ⟨body, content, once, isValue, _⟩
  have front := @decodedValues_front _ library rpdata applicationData value
  simp only [cmdValuePrint_eq_valuesText value nonempty] at once
  have texts : ∀ decoded ∈ (decodedValues library rpdata applicationData value).1,
      HasText library rpdata decoded :=
    hasText_of_appended_once once
  have clean : CleanValues library rpdata (decodedValues library rpdata applicationData value) :=
    ⟨fun decoded mem hasText => (forms decoded mem hasText).cleanText, texts⟩
  have opens := @opens_valuesText _ _ _ _ [] 0 _ opens_lineEnd (Int.le_refl 0) plain clean front
  have element := ElementText.spaced blank_nil isValue blank_lineEnd
  rw [once] at opens
  exact (printableValues_iff forms texts []).mp (opens.good_of_scans element.scans)

theorem propertyPrinted_nil (documented : PropertyLibraryDocumented library) (value : Value) :
    PropertyPrinted library rpdata value [] := by
  have plain := isPlain_propertyKey documented rpdata.objectProperty
  have bare : ∀ rest, quotedText "null".toList rest = "null".toList ++ rest := fun _ => rfl
  refine ⟨_, .null, fun append => ?_, valueText_keyText plain .null, rfl⟩
  simp only [cmdValuePrint, cmdJsonPrintKeyValue, bare]
  simp [keyText]

end Values

/--
A property that is read is printed as one object exactly if no text is an unsound numeral
and a list has texts for all its values and is decoded to its end.
-/
theorem propertyPrinted_iff {Value : Type} {library : PropertyLibrary Value}
    (documented : PropertyLibraryDocumented library) (rpdata : BacnetReadPropertyData)
    (value : Value) (applicationData : List UInt8)
    (forms : applicationData ≠ [] →
      PrintableForms library rpdata (decodedValues library rpdata applicationData value)) :
    PropertyPrinted library rpdata value applicationData ↔
      (applicationData ≠ [] →
        WellDecoded library rpdata (decodedValues library rpdata applicationData value)) := by
  by_cases nonempty : applicationData = []
  · subst nonempty
    exact iff_of_true (propertyPrinted_nil documented value) fun absurdity => absurd rfl absurdity
  · constructor
    · exact fun printed _ =>
        wellDecoded_of_propertyPrinted documented value nonempty (forms nonempty) printed
    · exact fun wellDecoded =>
        propertyPrinted_of_wellDecoded documented value nonempty (forms nonempty)
          (wellDecoded nonempty)

/-- The texts of the reference library are numbers. -/
theorem printableForms_reference (values : List (Decoded UInt8) × Decoded UInt8) :
    PrintableForms referenceProperties referenceRead values :=
  fun decoded _ _ => Or.inl (Or.inr (Or.inr (Or.inr (isNumber_unsignedText decoded.value.toNat))))

/-- An array of two values. -/
theorem propertyPrinted_iff_array :
    PropertyPrinted referenceProperties referenceRead 0 [0x21, 5, 0x21, 6] ↔
      (([0x21, 5, 0x21, 6] : List UInt8) ≠ [] → WellDecoded referenceProperties referenceRead
        (decodedValues referenceProperties referenceRead [0x21, 5, 0x21, 6] 0)) :=
  propertyPrinted_iff documented_referenceProperties referenceRead 0 [0x21, 5, 0x21, 6]
    fun _ => printableForms_reference _

/-- A list whose second value cannot be decoded stays open. -/
theorem not_propertyPrinted :
    ¬∀ applicationData, PropertyPrinted referenceProperties referenceRead 0 applicationData := by
  intro printed
  have rounds : decodedValues referenceProperties referenceRead [0x21, 5, 0xFF] 0 =
      ([⟨[0x21, 5, 0xFF], 2, 5⟩], ⟨[0xFF], -1, 5⟩) := by
    rw [decodedValues_more rfl (by decide), decodedValues_last rfl (by decide)]
    rfl
  have wellDecoded := wellDecoded_of_propertyPrinted documented_referenceProperties 0
    (List.cons_ne_nil _ _) (printableForms_reference _) (printed [0x21, 5, 0xFF])
  rw [rounds] at wellDecoded
  have ends := (wellDecoded.2 (List.cons_ne_nil _ _)).2
  revert ends
  decide

end BacnetZephyr
