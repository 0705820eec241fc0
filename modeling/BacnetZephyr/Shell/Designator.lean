import BacnetZephyr.Shell.Arguments

/-!
# Property designators

A property is given by its number or its standard name, alone or with an array index
in brackets. The three parsers scan it with formats of their own. They agree on numbers
and on names alone; `bacnet_settings_object_parse` takes a name together with its index
for the name. `designator_read_iff` is the exact condition.
-/

namespace BacnetZephyr

open CLib Procedure

/-- A decimal number, with leading zeros or without. -/
def IsDecimal (text : CString) : Prop := text ≠ [] ∧ ∀ character ∈ text, character.isDigit

instance (text : CString) : Decidable (IsDecimal text) :=
  decidable_of_iff (text ≠ [] ∧ text.all Char.isDigit) (by rw [IsDecimal, List.all_eq_true])

/--
What the parsers rely on of the stack library: numbers stand for themselves, and
properties are found by their numbers and standard names. A name is a short word that
starts with a letter.
-/
structure BacnetTextDocumented (bactext : BacnetText) (standardName : UInt32 → CString → Prop) :
    Prop where
  objectType : ∀ number : UInt32, number.toNat < uint16Max →
    bactext.objectTypeStrtol (Nat.toDigits 10 number.toNat) = some number
  uint32 : ∀ number : UInt32,
    bactext.stringToUint32 (Nat.toDigits 10 number.toNat) = some number
  property : ∀ text number, bactext.propertyStrtol text = some number ↔
    standardName number text ∨ (IsDecimal text ∧ digitsValue 10 text = number.toNat)
  name_letter : ∀ number text, standardName number text → text.head?.any Char.isAlpha
  name_word : ∀ number text, standardName number text →
    ∀ character ∈ text, isSpace character = false ∧ character ≠ '['
  name_short : ∀ number text, standardName number text → text.length < 80

/-- The text of an array index. -/
def indexText : Option CString → CString
  | none => []
  | some digits => '[' :: (digits ++ [']'])

/-- The index a designator means. -/
def indexValue : Option CString → UInt32
  | none => bacnetArrayAll
  | some digits => UInt32.ofNat (digitsValue 10 digits)

/-- The texts that designate a property with an index. -/
structure Designates (standardName : UInt32 → CString → Prop) (number : UInt32)
    (property : CString) (index : Option CString) : Prop where
  property : standardName number property ∨
    (IsDecimal property ∧ digitsValue 10 property = number.toNat)
  index : ∀ digits, index = some digits →
    IsDecimal digits ∧ digitsValue 10 digits ≤ 4294967294

section Scanning

variable {index : Option CString}

theorem StoragePlatform.ulongBits_ge (platform : StoragePlatform) : 32 ≤ platform.ulongBits := by
  rcases platform.ulongBits_range with bits | bits <;> omega

theorem le_ulongMax {bits number : ℕ} (enough : 32 ≤ bits) (small : number < 2 ^ 32) :
    number ≤ ulongMax bits := by
  have := Nat.pow_le_pow_right (by decide : 0 < 2) enough
  simp only [ulongMax]
  omega

/-- The conversions of an index after the part before it. -/
def indexConversions (index : Option CString) : List Conversion :=
  (index.map fun digits => .number (digitsValue 10 digits)).toList

theorem sscanf_indexText {bits : ℕ} (enough : 32 ≤ bits)
    (decimal : ∀ digits, index = some digits →
      IsDecimal digits ∧ digitsValue 10 digits ≤ 4294967294) :
    sscanf [.literal '[', .unsigned bits, .literal ']'] (indexText index) =
      indexConversions index := by
  cases index with
  | none => rfl
  | some digits =>
      obtain ⟨⟨nonempty, digit⟩, small⟩ := decimal digits rfl
      have fits : digitsValue 10 digits ≤ ulongMax bits := le_ulongMax enough (by omega)
      have number : (Directive.unsigned bits).convert (digits ++ [']']) =
          some (some (.number (digitsValue 10 digits)), [']']) := by
        apply convert_unsigned nonempty digit _ fits
        simp [isDigitOf, digitValue]
      simp [sscanf, Directive.convert.eq_1, indexText, number, indexConversions]

theorem sscanf_number {platform : StoragePlatform} {property : CString} {number : UInt32}
    {bits : ℕ} (enough : 32 ≤ bits) (decimal : IsDecimal property)
    (value : digitsValue 10 property = number.toNat)
    (indexDecimal : ∀ digits, index = some digits →
      IsDecimal digits ∧ digitsValue 10 digits ≤ 4294967294) :
    sscanf (numberFormat platform bits) (property ++ indexText index) =
      .number number.toNat :: indexConversions index := by
  have fits : digitsValue 10 property ≤ ulongMax platform.ulongBits := by
    rw [value]
    exact le_ulongMax platform.ulongBits_ge number.toNat_lt
  have stop : ∀ character, (indexText index).head? = some character →
      isDigitOf 10 character = false := by
    cases index with
    | none => simp [indexText]
    | some digits => simp [indexText, isDigitOf, digitValue]
  rw [numberFormat, sscanf, convert_unsigned decimal.1 decimal.2 stop fits]
  simp only [sscanf_indexText enough indexDecimal, value, Option.toList_some,
    List.singleton_append]

theorem sscanf_number_name {platform : StoragePlatform} {name rest : CString} {bits : ℕ}
    (letter : name.head?.any Char.isAlpha) :
    sscanf (numberFormat platform bits) (name ++ rest) = [] := by
  cases name with
  | nil => simp at letter
  | cons first others =>
      rw [numberFormat, sscanf, List.cons_append,
        convert_unsigned_of_isAlpha (by simpa using letter)]

theorem sscanf_name {name : CString} (letter : name.head?.any Char.isAlpha)
    (word : ∀ character ∈ name, isSpace character = false ∧ character ≠ '[')
    (short : name.length < 80)
    (indexDecimal : ∀ digits, index = some digits →
      IsDecimal digits ∧ digitsValue 10 digits ≤ 4294967294) :
    sscanf nameFormat (name ++ indexText index) = .text name :: indexConversions index := by
  have nonempty : name ≠ [] := by
    rintro rfl
    simp at letter
  have without : '[' ∉ name := fun mem => (word _ mem).2 rfl
  have ends : indexText index = [] ∨ (indexText index).head? = some '[' := by
    cases index <;> simp [indexText]
  rw [nameFormat, sscanf, convert_upTo nonempty without ends (Nat.le_of_lt_succ short)]
  simp only [sscanf_indexText (Nat.le_refl 32) indexDecimal, Option.toList_some,
    List.singleton_append]

theorem scannedIndex_conversions (index : Option CString) :
    scannedIndex bacnetArrayAll (indexConversions index) = indexValue index := by
  cases index <;> rfl

theorem scannedIndex_storage (index : Option CString) :
    scannedIndex bacnetStorageArrayIndexNone (indexConversions index) = indexValue index :=
  scannedIndex_conversions index

end Scanning

section Parsers

variable {Library : Type} {platform : StoragePlatform} {bactext : BacnetText}
  {standardName : UInt32 → CString → Prop} {objectType : UInt16}
  {objectInstance number : UInt32} {property : CString} {index : Option CString}

/-- The arguments of a command on a property of an object. -/
def objectArguments (command : CString) (objectType : UInt16) (objectInstance : UInt32)
    (property : CString) (index : Option CString) (rest : List CString) : List CString :=
  command :: Nat.toDigits 10 objectType.toNat :: Nat.toDigits 10 objectInstance.toNat ::
    (property ++ indexText index) :: rest

theorem length_objectArguments (command : CString) (objectType : UInt16)
    (objectInstance : UInt32) (property : CString) (index : Option CString)
    (rest : List CString) :
    ¬(objectArguments command objectType objectInstance property index rest).length < 4 := by
  simp only [objectArguments, List.length_cons]
  omega

theorem objectTypeStrtol_toDigits (documented : BacnetTextDocumented bactext standardName)
    (typeSmall : objectType.toNat < uint16Max) :
    bactext.objectTypeStrtol (Nat.toDigits 10 objectType.toNat) = some objectType.toUInt32 := by
  have found := documented.objectType objectType.toUInt32
  rw [UInt16.toNat_toUInt32] at found
  exact found typeSmall

theorem bacnetStorageStrtoul_instance (instanceSmall : objectInstance ≤ bacnetMaxInstance) :
    bacnetStorageStrtoul platform (Nat.toDigits 10 objectInstance.toNat) =
      some objectInstance.toNat := by
  apply bacnetStorageStrtoul_toDigits
  have small := UInt32.le_iff_toNat_le.mp instanceSmall
  have bound : bacnetMaxInstance.toNat = 4194303 := rfl
  simp only [settingsMaxDirDepth]
  omega

/-- What `bacnet_settings_object_parse` reads of the object, and that it is in range. -/
theorem object_read (documented : BacnetTextDocumented bactext standardName)
    (typeSmall : objectType.toNat < uint16Max)
    (instanceSmall : objectInstance ≤ bacnetMaxInstance) :
    bactext.objectTypeStrtol (Nat.toDigits 10 objectType.toNat) = some objectType.toUInt32 ∧
      ¬uint16Max ≤ objectType.toNat ∧
      bacnetStorageStrtoul platform (Nat.toDigits 10 objectInstance.toNat) =
        some objectInstance.toNat ∧
      ¬bacnetMaxInstance.toNat < objectInstance.toNat :=
  ⟨objectTypeStrtol_toDigits documented typeSmall, Nat.not_le.mpr typeSmall,
    bacnetStorageStrtoul_instance instanceSmall,
    Nat.not_lt.mpr (UInt32.le_iff_toNat_le.mp instanceSmall)⟩

variable (command : CString) (rest : List CString) (out : ObjectArguments)
  (state : ShellState Library)

theorem bacnetStorageKeyParse_number (typeSmall : objectType.toNat < uint16Max)
    (instanceSmall : objectInstance ≤ bacnetMaxInstance)
    (scanned : sscanf (numberFormat platform 32) (property ++ indexText index) =
      .number number.toNat :: indexConversions index) :
    eval (bacnetStorageKeyParse platform
        (objectArguments command objectType objectInstance property index rest) out) state =
      .ok (.ok (0, ⟨objectType, objectInstance, number, indexValue index⟩), state) := by
  have enough := length_objectArguments command objectType objectInstance property index rest
  have notFew : ¬(objectArguments command objectType objectInstance property index rest).length <
      3 := by omega
  have typeInside : ¬uint16Max ≤ objectType.toNat := Nat.not_le.mpr typeSmall
  have typeValue : bacnetStorageStrtoul platform (Nat.toDigits 10 objectType.toNat) =
      some objectType.toNat := by
    apply bacnetStorageStrtoul_toDigits
    simp only [uint16Max] at typeSmall
    simp only [settingsMaxDirDepth]
    omega
  have instanceValue := @bacnetStorageStrtoul_instance platform _ instanceSmall
  have instanceInside : ¬bacnetMaxInstance.toNat < objectInstance.toNat :=
    Nat.not_lt.mpr (UInt32.le_iff_toNat_le.mp instanceSmall)
  have numberInside : ¬ulongMax 32 < number.toNat :=
    Nat.not_lt.mpr (le_ulongMax (Nat.le_refl 32) number.toNat_lt)
  rw [bacnetStorageKeyParse, if_neg notFew]
  simp [objectArguments, argument, typeValue, instanceValue, typeInside, instanceInside,
    scanned, numberInside, scannedIndex_storage, bacnetStorageKeyInit]

/-- After the object, `bacnet_settings_object_parse` takes a number with its index. -/
theorem bacnetSettingsObjectParse_number (documented : BacnetTextDocumented bactext standardName)
    (typeSmall : objectType.toNat < uint16Max) (instanceSmall : objectInstance ≤ bacnetMaxInstance)
    (scanned : sscanf (numberFormat platform platform.ulongBits) (property ++ indexText index) =
      .number number.toNat :: indexConversions index) :
    eval (bacnetSettingsObjectParse platform bactext
        (objectArguments command objectType objectInstance property index rest) out) state =
      .ok (.ok (0, ⟨objectType, objectInstance, number, indexValue index⟩), state) := by
  rcases @object_read platform _ _ _ _ documented typeSmall instanceSmall with
    ⟨typeValue, typeInside, instanceValue, inside⟩
  rw [bacnetSettingsObjectParse, if_neg (length_objectArguments _ _ _ _ _ _)]
  simp [objectArguments, argument, typeValue, instanceValue, inside, typeInside, scanned,
    scannedIndex_storage]

/-- What is not a number `bacnet_settings_object_parse` takes for a name, up to white space. -/
theorem bacnetSettingsObjectParse_word (documented : BacnetTextDocumented bactext standardName)
    (typeSmall : objectType.toNat < uint16Max) (instanceSmall : objectInstance ≤ bacnetMaxInstance)
    (noNumber : sscanf (numberFormat platform platform.ulongBits) (property ++ indexText index) =
      []) {characters : CString} {after : List Conversion}
    (word : sscanf (wordFormat platform) (property ++ indexText index) =
      .text characters :: after) (short : characters.length < 80) :
    eval (bacnetSettingsObjectParse platform bactext
        (objectArguments command objectType objectInstance property index rest) out) state =
      match bactext.propertyStrtol characters with
      | some number => .ok (.ok (0, ⟨objectType, objectInstance, number,
          scannedIndex bacnetStorageArrayIndexNone after⟩), state)
      | none => .ok (.error (-Errno.einval, ⟨objectType, objectInstance, out.propertyId,
          out.arrayIndex⟩), state) := by
  rcases @object_read platform _ _ _ _ documented typeSmall instanceSmall with
    ⟨typeValue, typeInside, instanceValue, inside⟩
  rw [bacnetSettingsObjectParse, if_neg (length_objectArguments _ _ _ _ _ _)]
  simp only [objectArguments, argument, List.getElem?_cons_succ, List.getElem?_cons_zero,
    pure_bind, typeValue, instanceValue, UInt16.toNat_toUInt32, typeInside, inside, if_false,
    noNumber, word, storeText_of_fits short]
  cases bactext.propertyStrtol characters <;> simp

theorem bacnetSettingsObjectParse_long (documented : BacnetTextDocumented bactext standardName)
    (typeSmall : objectType.toNat < uint16Max) (instanceSmall : objectInstance ≤ bacnetMaxInstance)
    (noNumber : sscanf (numberFormat platform platform.ulongBits) (property ++ indexText index) =
      []) {characters : CString} {after : List Conversion}
    (word : sscanf (wordFormat platform) (property ++ indexText index) =
      .text characters :: after) (long : 80 ≤ characters.length) :
    eval (bacnetSettingsObjectParse platform bactext
        (objectArguments command objectType objectInstance property index rest) out) state =
      .error (.overrun 80) := by
  rcases @object_read platform _ _ _ _ documented typeSmall instanceSmall with
    ⟨typeValue, typeInside, instanceValue, inside⟩
  rw [bacnetSettingsObjectParse, if_neg (length_objectArguments _ _ _ _ _ _)]
  simp [objectArguments, argument, typeValue, instanceValue, inside, typeInside, noNumber, word,
    storeText_of_long long]

theorem bacnetShellObjectTypeInstanceParse_given
    (documented : BacnetTextDocumented bactext standardName)
    (typeSmall : objectType.toNat < uint16Max) (notDevice : objectType.toUInt32 ≠ objectDevice) :
    eval (bacnetShellObjectTypeInstanceParse bactext
        (objectArguments command objectType objectInstance property index rest) out) state =
      .ok (.ok (0, { out with objectType, objectInstance }), state) := by
  have typeValue := objectTypeStrtol_toDigits documented typeSmall
  have typeInside : ¬uint16Max ≤ objectType.toNat := Nat.not_le.mpr typeSmall
  have instanceValue := documented.uint32 objectInstance
  simp [bacnetShellObjectTypeInstanceParse, objectArguments, argument, typeValue, typeInside,
    notDevice, instanceValue]

theorem bacnetShellPropertyParse_number (documented : BacnetTextDocumented bactext standardName)
    (typeSmall : objectType.toNat < uint16Max) (notDevice : objectType.toUInt32 ≠ objectDevice)
    (noLetter : (property ++ indexText index).head?.any Char.isAlpha = false)
    (scanned : sscanf (numberFormat platform 32) (property ++ indexText index) =
      .number number.toNat :: indexConversions index) :
    eval (bacnetShellPropertyParse platform bactext
        (objectArguments command objectType objectInstance property index rest) out) state =
      .ok (.ok (0, ⟨objectType, objectInstance, number, indexValue index⟩), state) := by
  have numberInside : ¬ulongMax 32 < number.toNat :=
    Nat.not_lt.mpr (le_ulongMax (Nat.le_refl 32) number.toNat_lt)
  rw [bacnetShellPropertyParse, if_neg (length_objectArguments _ _ _ _ _ _), eval_bind, eval_call,
    bacnetShellObjectTypeInstanceParse_given command rest _ state documented typeSmall notDevice]
  simp [-List.head?_append, objectArguments, argument, noLetter, scanned, numberInside,
    scannedIndex_conversions]

theorem bacnetShellPropertyParse_name (documented : BacnetTextDocumented bactext standardName)
    (typeSmall : objectType.toNat < uint16Max) (notDevice : objectType.toUInt32 ≠ objectDevice)
    (letter : (property ++ indexText index).head?.any Char.isAlpha)
    (scanned : sscanf nameFormat (property ++ indexText index) =
      .text property :: indexConversions index)
    (short : property.length < 80) (found : bactext.propertyStrtol property = some number) :
    eval (bacnetShellPropertyParse platform bactext
        (objectArguments command objectType objectInstance property index rest) out) state =
      .ok (.ok (0, ⟨objectType, objectInstance, number, indexValue index⟩), state) := by
  rw [bacnetShellPropertyParse, if_neg (length_objectArguments _ _ _ _ _ _), eval_bind, eval_call,
    bacnetShellObjectTypeInstanceParse_given command rest _ state documented typeSmall notDevice]
  simp [-List.head?_append, objectArguments, argument, letter, scanned,
    storeText_of_fits short, found, scannedIndex_conversions]

end Parsers

/-! ## The three parsers -/

section Agreement

variable {Library : Type} {platform : StoragePlatform} {bactext : BacnetText}
  {standardName : UInt32 → CString → Prop} {objectType : UInt16}
  {objectInstance number : UInt32} {property : CString} {index : Option CString}

/-- The parsers return 0 and the values that the designator means. -/
structure DesignatorRead (platform : StoragePlatform) (bactext : BacnetText)
    (argv : List CString) (numeric : Prop) (meant out : ObjectArguments)
    (state : ShellState Library) : Prop where
  settings : eval (bacnetSettingsObjectParse platform bactext argv out) state =
    .ok (.ok (0, meant), state)
  shell : eval (bacnetShellPropertyParse platform bactext argv out) state =
    .ok (.ok (0, meant), state)
  storage : numeric → eval (bacnetStorageKeyParse platform argv out) state =
    .ok (.ok (0, meant), state)

theorem head_isAlpha_of_decimal {text rest : CString} (decimal : IsDecimal text) :
    (text ++ rest).head?.any Char.isAlpha = false := by
  rcases decimal with ⟨nonempty, digit⟩
  cases text with
  | nil => exact absurd rfl nonempty
  | cons first others =>
      have firstDigit := digit first List.mem_cons_self
      rw [List.cons_append, List.head?_cons, Option.any_some, ← Bool.not_eq_true]
      intro letter
      rw [isDigit_eq_false_of_isAlpha letter] at firstDigit
      cases firstDigit

/-- Neither a name nor a number has a bracket. -/
theorem propertyStrtol_bracket (documented : BacnetTextDocumented bactext standardName)
    {text : CString} (bracket : '[' ∈ text) : bactext.propertyStrtol text = none := by
  rw [Option.eq_none_iff_forall_not_mem]
  intro number found
  rcases (documented.property text number).mp found with name | ⟨decimal, _⟩
  · exact (documented.name_word number text name '[' bracket).2 rfl
  · exact absurd (decimal.2 '[' bracket) (by decide)

theorem bacnetSettingsObjectParse_name_index
    (documented : BacnetTextDocumented bactext standardName)
    (typeSmall : objectType.toNat < uint16Max) (instanceSmall : objectInstance ≤ bacnetMaxInstance)
    (letter : property.head?.any Char.isAlpha)
    (word : ∀ character ∈ property, isSpace character = false ∧ character ≠ '[')
    {digits : CString} (decimal : IsDecimal digits) (command : CString) (rest : List CString)
    (out meant : ObjectArguments) (state : ShellState Library) :
    eval (bacnetSettingsObjectParse platform bactext
        (objectArguments command objectType objectInstance property (some digits) rest) out)
      state ≠ .ok (.ok (0, meant), state) := by
  have noNumber := @sscanf_number_name platform property (indexText (some digits))
    platform.ulongBits letter
  have bracket : '[' ∈ property ++ indexText (some digits) := by simp [indexText]
  have whole : firstWord (property ++ indexText (some digits)) =
      property ++ indexText (some digits) := by
    apply firstWord_of_noSpace
    intro character mem
    simp only [indexText, List.mem_append, List.mem_cons, List.not_mem_nil, or_false] at mem
    rcases mem with mem | rfl | mem | rfl
    · exact (word character mem).1
    · decide
    · exact isSpace_eq_false_of_isDigit (decimal.2 character mem)
    · decide
  rcases sscanf_word 80 [.literal '[', .unsigned platform.ulongBits, .literal ']']
    (property ++ indexText (some digits)) with ⟨_, empty⟩ | ⟨after, scanned⟩
  · rw [whole, List.take_eq_nil_iff] at empty
    rcases empty with zero | nil
    · cases zero
    · rw [nil] at bracket
      cases bracket
  · rw [whole] at scanned
    by_cases short : (property ++ indexText (some digits)).length < 80
    · rw [List.take_of_length_le (Nat.le_of_lt short)] at scanned
      rw [bacnetSettingsObjectParse_word command rest out state documented typeSmall
        instanceSmall noNumber scanned short, propertyStrtol_bracket documented bracket]
      simp
    · rw [bacnetSettingsObjectParse_long command rest out state documented typeSmall
        instanceSmall noNumber scanned (by rw [List.length_take]; omega)]
      simp

theorem not_isDecimal_of_standardName (documented : BacnetTextDocumented bactext standardName)
    (name : standardName number property) : ¬IsDecimal property := by
  intro decimal
  have letter := documented.name_letter number property name
  have noLetter := @head_isAlpha_of_decimal property [] decimal
  rw [List.append_nil] at noLetter
  rw [noLetter] at letter
  cases letter

theorem bacnetSettingsObjectParse_name (documented : BacnetTextDocumented bactext standardName)
    (typeSmall : objectType.toNat < uint16Max) (instanceSmall : objectInstance ≤ bacnetMaxInstance)
    (name : standardName number property) (command : CString) (rest : List CString)
    (out : ObjectArguments) (state : ShellState Library) :
    eval (bacnetSettingsObjectParse platform bactext
        (objectArguments command objectType objectInstance property none rest) out) state =
      .ok (.ok (0, ⟨objectType, objectInstance, number, indexValue none⟩), state) := by
  have letter := documented.name_letter number property name
  have short := documented.name_short number property name
  have found := (documented.property property number).mpr (Or.inl name)
  have noNumber := @sscanf_number_name platform property (indexText none) platform.ulongBits letter
  have nonempty : property ≠ [] := by
    rintro rfl
    cases letter
  have scanned : sscanf (wordFormat platform) (property ++ indexText none) =
      [.text property] := by
    rw [indexText, List.append_nil, wordFormat, sscanf, convert_word nonempty
      (fun character mem => (documented.name_word number property name character mem).1)
      (Nat.le_of_lt short)]
    rfl
  rw [bacnetSettingsObjectParse_word command rest out state documented typeSmall instanceSmall
    noNumber scanned short, found]
  rfl

/-- The parsers agree exactly on numbers, with an index or without, and on names alone. -/
theorem designatorRead_iff (documented : BacnetTextDocumented bactext standardName)
    (typeSmall : objectType.toNat < uint16Max) (notDevice : objectType.toUInt32 ≠ objectDevice)
    (instanceSmall : objectInstance ≤ bacnetMaxInstance)
    (designates : Designates standardName number property index) (command : CString)
    (rest : List CString) (out : ObjectArguments) (state : ShellState Library) :
    DesignatorRead platform bactext
        (objectArguments command objectType objectInstance property index rest)
        (IsDecimal property) ⟨objectType, objectInstance, number, indexValue index⟩ out state ↔
      IsDecimal property ∨ index = none := by
  constructor
  · intro read
    by_contra neither
    rw [not_or] at neither
    cases index with
    | none => exact neither.2 rfl
    | some digits =>
        rcases designates.property with name | ⟨decimal, _⟩
        · exact bacnetSettingsObjectParse_name_index documented typeSmall instanceSmall
            (documented.name_letter number property name)
            (documented.name_word number property name) (designates.index digits rfl).1 command
            rest out _ state read.settings
        · exact neither.1 decimal
  · intro condition
    by_cases decimal : IsDecimal property
    · have value := (designates.property.resolve_left fun name =>
        not_isDecimal_of_standardName documented name decimal).2
      have scanned := @sscanf_number index platform property number
      refine { settings := ?_, shell := ?_, storage := fun _ => ?_ }
      · exact bacnetSettingsObjectParse_number command rest out state documented typeSmall
          instanceSmall (scanned platform.ulongBits_ge decimal value designates.index)
      · apply bacnetShellPropertyParse_number command rest out state documented typeSmall
          notDevice (head_isAlpha_of_decimal decimal)
        exact scanned (Nat.le_refl 32) decimal value designates.index
      · exact bacnetStorageKeyParse_number command rest out state typeSmall instanceSmall
          (scanned (Nat.le_refl 32) decimal value designates.index)
    · have alone := condition.resolve_left decimal
      subst alone
      have name := designates.property.resolve_right fun numeric => decimal numeric.1
      have letter := documented.name_letter number property name
      have short := documented.name_short number property name
      refine { settings := ?_, shell := ?_, storage := fun numeric => absurd numeric decimal }
      · exact bacnetSettingsObjectParse_name documented typeSmall instanceSmall name command rest
          out state
      · have scanned := sscanf_name letter (documented.name_word number property name) short
          designates.index
        apply bacnetShellPropertyParse_name command rest out state documented typeSmall notDevice
          _ scanned short ((documented.property property number).mpr (Or.inl name))
        simpa [indexText] using letter

end Agreement

section Examples

/-- Numbers of 32 bits. -/
def decimalUint32 (text : CString) : Option UInt32 :=
  if IsDecimal text ∧ digitsValue 10 text < 2 ^ 32 then some (UInt32.ofNat (digitsValue 10 text))
  else none

theorem decimalUint32_eq_some {text : CString} {number : UInt32} :
    decimalUint32 text = some number ↔
      IsDecimal text ∧ digitsValue 10 text = number.toNat := by
  rw [decimalUint32]
  split
  · rename_i small
    simp only [Option.some.injEq, small.1, true_and]
    constructor
    · rintro rfl
      exact (UInt32.toNat_ofNat_of_lt' small.2).symm
    · intro value
      rw [value, UInt32.ofNat_toNat]
  · rename_i none
    simp only [reduceCtorEq, false_iff]
    rintro ⟨decimal, value⟩
    exact none ⟨decimal, value ▸ number.toNat_lt⟩

theorem decimalUint32_toDigits (number : UInt32) :
    decimalUint32 (Nat.toDigits 10 number.toNat) = some number :=
  decimalUint32_eq_some.mpr
    ⟨⟨Nat.toDigits_ne_nil, fun _ mem => isDigit_of_mem_toDigits mem⟩, digitsValue_toDigits _⟩

/-- A stack library that knows one name. -/
def BacnetText.presentValue : BacnetText where
  objectTypeStrtol := decimalUint32
  propertyStrtol := fun text =>
    if text = "present-value".toList then some 85 else decimalUint32 text
  stringToUint32 := decimalUint32
  deviceObjectInstanceNumber := 1

theorem presentValue_word :
    ∀ character ∈ "present-value".toList, isSpace character = false ∧ character ≠ '[' := by
  have all : "present-value".toList.all fun character =>
      decide (isSpace character = false ∧ character ≠ '[') := rfl
  simpa only [List.all_eq_true, decide_eq_true_eq] using all

theorem BacnetText.presentValue_documented :
    BacnetTextDocumented BacnetText.presentValue
      fun number text => number = 85 ∧ text = "present-value".toList where
  objectType := fun number _ => decimalUint32_toDigits number
  uint32 := decimalUint32_toDigits
  property := by
    intro text number
    simp only [BacnetText.presentValue]
    split
    · rename_i name
      subst name
      have notDecimal : ¬IsDecimal "present-value".toList := by decide
      simp only [Option.some.injEq, and_true, notDecimal, false_and, or_false]
      exact eq_comm
    · rename_i other
      simp only [other, and_false, false_or]
      exact decimalUint32_eq_some
  name_letter := by
    rintro number text ⟨rfl, rfl⟩
    decide
  name_word := by
    rintro number text ⟨rfl, rfl⟩
    exact presentValue_word
  name_short := by
    rintro number text ⟨rfl, rfl⟩
    decide

theorem designatorRead_iff_number :
    DesignatorRead (StoragePlatform.reference bacnetSettingsBaseName) BacnetText.presentValue
        (objectArguments "set".toList 5 100 "85".toList (some "2".toList) [])
        (IsDecimal "85".toList) ⟨5, 100, 85, 2⟩ ⟨0, 0, 0, 0⟩ ⟨(), []⟩ ↔
      IsDecimal "85".toList ∨ some "2".toList = none :=
  designatorRead_iff BacnetText.presentValue_documented (by decide) (by decide) (by decide)
    { property := Or.inr (by decide)
      index := by
        rintro digits ⟨⟩
        decide }
    _ _ _ _

/-- A name with an index. -/
theorem not_designatorRead_name_index :
    Designates (fun number text => number = 85 ∧ text = "present-value".toList) 85
        "present-value".toList (some "2".toList) ∧
      ¬DesignatorRead (StoragePlatform.reference bacnetSettingsBaseName) BacnetText.presentValue
        (objectArguments "value".toList 5 100 "present-value".toList (some "2".toList) [])
        (IsDecimal "present-value".toList) ⟨5, 100, 85, 2⟩ ⟨0, 0, 0, 0⟩ ⟨(), []⟩ := by
  refine ⟨{ property := Or.inl ⟨rfl, rfl⟩, index := ?_ }, ?_⟩
  · rintro digits ⟨⟩
    decide
  · intro read
    exact bacnetSettingsObjectParse_name_index BacnetText.presentValue_documented (by decide)
      (by decide) (by decide) presentValue_word (by decide) _ _ _ _ _ read.settings

end Examples

end BacnetZephyr
