import BacnetZephyr.Foundation.JsonText
import Mathlib.Data.Int.Basic

/-!
# Scanning JSON

A scanner reads a text character by character. Outside strings it counts the brackets
that are open and collects the words, which are the runs of characters between
brackets, commas, colons, quotes and white space. In the text of a JSON value every
word is a scalar and every bracket is closed. So a text with another word in it, or
with a bracket left open, is no JSON value, whatever it means to be.
-/

namespace JsonText

open CLib

/-- The values that are written as a word. -/
def IsScalar (word : CString) : Prop :=
  word = "true".toList ∨ word = "false".toList ∨ word = "null".toList ∨ IsNumber word

def isWordCharacter (c : Char) : Bool :=
  c ≠ '\x7b' ∧ c ≠ '\x7d' ∧ c ≠ '[' ∧ c ≠ ']' ∧ c ≠ ',' ∧ c ≠ ':' ∧ c ≠ '"' ∧ c ≠ ' ' ∧ c ≠ '\t' ∧
    c ≠ '\n' ∧ c ≠ '\r'

/-- Brackets, commas, colons and white space end a word outside strings. -/
def isSeparator (c : Char) : Bool := !isWordCharacter c && c != '"'

inductive ScanMode where
  | outside
  | inString
  | escaped
deriving DecidableEq

/-- The mode, the open brackets, the word being read, and the words before it. -/
structure Scan where
  mode : ScanMode
  depth : ℤ
  word : CString
  words : List CString

def bracketDepth (c : Char) : ℤ :=
  if c = '\x7b' ∨ c = '[' then 1 else if c = '\x7d' ∨ c = ']' then -1 else 0

/-- The words with the last one, if there is one. -/
def withWord (words : List CString) (word : CString) : List CString :=
  if word = [] then words else words ++ [word]

def Scan.step (scan : Scan) (c : Char) : Scan :=
  match scan.mode with
  | .escaped => { scan with mode := .inString }
  | .inString =>
      if c = '"' then { scan with mode := .outside }
      else if c = '\\' then { scan with mode := .escaped }
      else scan
  | .outside =>
      if isWordCharacter c then { scan with word := scan.word ++ [c] }
      else
        { mode := if c = '"' then .inString else .outside
          depth := scan.depth + bracketDepth c
          word := []
          words := withWord scan.words scan.word }

def Scan.run (scan : Scan) (text : CString) : Scan := text.foldl Scan.step scan

section Scanning

variable {depth : ℤ} {word text : CString} {words : List CString} {c : Char}

theorem Scan.run_append (scan : Scan) (first second : CString) :
    scan.run (first ++ second) = (scan.run first).run second := List.foldl_append

theorem Scan.run_cons (scan : Scan) (c : Char) (text : CString) :
    scan.run (c :: text) = (scan.step c).run text := rfl

/-- Outside strings a separator ends the word. -/
theorem Scan.step_outside (separator : isSeparator c) :
    Scan.step ⟨.outside, depth, word, words⟩ c =
      ⟨.outside, depth + bracketDepth c, [], withWord words word⟩ := by
  rw [isSeparator, Bool.and_eq_true, Bool.not_eq_true', bne_iff_ne] at separator
  simp [Scan.step, separator]

theorem Scan.step_quote :
    Scan.step ⟨.outside, depth, word, words⟩ '"' =
      ⟨.inString, depth, [], withWord words word⟩ := by
  simp [Scan.step, isWordCharacter, bracketDepth]

theorem Scan.run_word (characters : ∀ c ∈ text, isWordCharacter c) :
    Scan.run ⟨.outside, depth, word, words⟩ text = ⟨.outside, depth, word ++ text, words⟩ := by
  induction text generalizing word with
  | nil => simp [Scan.run]
  | cons c text ih =>
      have isWord := characters c List.mem_cons_self
      have step : Scan.step ⟨.outside, depth, word, words⟩ c =
          ⟨.outside, depth, word ++ [c], words⟩ := by
        simp [Scan.step, isWord]
      rw [Scan.run_cons, step, ih fun c mem => characters c (List.mem_cons_of_mem _ mem),
        List.append_assoc, List.singleton_append]

/-- Inside a string only quotes and backslashes matter. -/
theorem Scan.run_inString (plain : ∀ c ∈ text, c ≠ '"' ∧ c ≠ '\\') :
    Scan.run ⟨.inString, depth, word, words⟩ text = ⟨.inString, depth, word, words⟩ := by
  induction text with
  | nil => rfl
  | cons c text ih =>
      have here := plain c List.mem_cons_self
      have step : Scan.step ⟨.inString, depth, word, words⟩ c =
          ⟨.inString, depth, word, words⟩ := by
        simp [Scan.step, here]
      rw [Scan.run_cons, step]
      exact ih fun c mem => plain c (List.mem_cons_of_mem _ mem)

theorem Hex4.run_inString {digits : CString} {value : ℕ} (hex : Hex4 digits value) :
    Scan.run ⟨.inString, depth, word, words⟩ digits = ⟨.inString, depth, word, words⟩ := by
  apply Scan.run_inString
  intro c mem
  have digit := hex.digit c mem
  constructor
  · rintro rfl
    cases digit
  · rintro rfl
    cases digit

/-- A character other than the quote and the backslash has neither among its bytes. -/
theorem plain_of_mem_bytesText {character : Char} (quote : character ≠ '"')
    (backslash : character ≠ '\\') :
    ∀ c ∈ bytesText (String.utf8EncodeChar character), c ≠ '"' ∧ c ≠ '\\' := by
  intro c mem
  by_cases ascii : character.toNat < 0x80
  · rw [bytesText_of_ascii ascii, List.mem_singleton] at mem
    subst mem
    exact ⟨quote, backslash⟩
  · simp only [bytesText, List.mem_map] at mem
    rcases mem with ⟨byte, mem, rfl⟩
    have wide := le_of_mem_utf8EncodeChar (Nat.not_lt.mp ascii) mem
    have small : byte.toNat < 256 := byte.toNat_lt
    have code : (Char.ofNat byte.toNat).toNat = byte.toNat := toNat_ofNat (by omega)
    refine ⟨fun same => ?_, fun same => ?_⟩
    all_goals
      have value := congrArg Char.toNat same
      rw [code] at value
      simp only [Char.reduceToNat] at value
      omega

/-- The text of a character does not start with a quote. -/
theorem CharacterText.head?_ne_quote {character : Char} (isText : CharacterText text character)
    (rest : CString) : (text ++ rest).head? ≠ some '"' := by
  cases isText with
  | unescaped printable quote backslash =>
      have plain := plain_of_mem_bytesText quote backslash
      have nonempty : bytesText (String.utf8EncodeChar character) ≠ [] := by
        rw [bytesText, ne_eq, List.map_eq_nil_iff]
        exact String.utf8EncodeChar_ne_nil
      rcases encoded : bytesText (String.utf8EncodeChar character) with _ | ⟨first, others⟩
      · contradiction
      · rw [encoded] at plain
        rw [List.cons_append, List.head?_cons, ne_eq, Option.some.injEq]
        exact (plain first List.mem_cons_self).1
  | letter escaped => simp
  | unicode hex => simp
  | surrogates wide high low => simp

theorem CharactersText.head?_ne_quote {characters : List Char}
    (isText : CharactersText text characters) : text.head? ≠ some '"' := by
  cases isText with
  | nil => simp
  | cons first rest => exact first.head?_ne_quote _

theorem CharacterText.run_inString {character : Char} (isText : CharacterText text character) :
    Scan.run ⟨.inString, depth, word, words⟩ text = ⟨.inString, depth, word, words⟩ := by
  cases isText with
  | unescaped printable quote backslash =>
      exact Scan.run_inString (plain_of_mem_bytesText quote backslash)
  | letter escaped => rfl
  | unicode hex =>
      show Scan.run ⟨.inString, depth, word, words⟩ _ = _
      exact hex.run_inString
  | surrogates wide high low =>
      rw [List.cons_append, List.cons_append, Scan.run_cons, Scan.run_cons, Scan.run_append]
      change Scan.run (Scan.run ⟨.inString, depth, word, words⟩ _) _ = _
      rw [high.run_inString]
      exact low.run_inString

theorem CharactersText.run_inString {characters : List Char}
    (isText : CharactersText text characters) :
    Scan.run ⟨.inString, depth, word, words⟩ text = ⟨.inString, depth, word, words⟩ := by
  induction isText with
  | nil => rfl
  | cons first rest ih => rw [Scan.run_append, first.run_inString, ih]

/-- A string between quotes leaves no trace. -/
theorem CharactersText.run_quoted {characters : List Char}
    (isText : CharactersText text characters) :
    Scan.run ⟨.outside, depth, word, words⟩ ('"' :: (text ++ ['"'])) =
      ⟨.outside, depth, [], withWord words word⟩ := by
  rw [Scan.run_cons, Scan.step_quote, Scan.run_append, isText.run_inString]
  rfl

/-! ## Values -/

/-- Scanned from outside, the text closes what it opens, and its words are scalars. -/
def Scans (text : CString) : Prop :=
  ∀ depth words, ∃ word more,
    Scan.run ⟨.outside, depth, [], words⟩ text = ⟨.outside, depth, word, words ++ more⟩ ∧
      (∀ other ∈ more, IsScalar other) ∧ (word = [] ∨ IsScalar word)

theorem withWord_append (words more : List CString) (word : CString) :
    withWord (words ++ more) word = words ++ withWord more word := by
  rw [withWord, withWord]
  split
  · rfl
  · exact List.append_assoc _ _ _

theorem isScalar_of_mem_withWord {more : List CString} (scalars : ∀ other ∈ more, IsScalar other)
    (scalar : word = [] ∨ IsScalar word) : ∀ other ∈ withWord more word, IsScalar other := by
  rw [withWord]
  split
  · exact scalars
  · rename_i nonempty
    intro other mem
    rcases List.mem_append.mp mem with mem | mem
    · exact scalars other mem
    · rw [List.mem_singleton.mp mem]
      exact scalar.resolve_left nonempty

/-- A text and a character after it that ends its last word. -/
theorem Scans.ended (scans : Scans text) (separator : isSeparator c) (depth : ℤ)
    (words : List CString) :
    ∃ more, Scan.run ⟨.outside, depth, [], words⟩ (text ++ [c]) =
        ⟨.outside, depth + bracketDepth c, [], words ++ more⟩ ∧
      ∀ other ∈ more, IsScalar other := by
  rcases scans depth words with ⟨word, more, run, scalars, scalar⟩
  refine ⟨withWord more word, ?_, isScalar_of_mem_withWord scalars scalar⟩
  rw [Scan.run_append, run, ← withWord_append]
  exact Scan.step_outside separator

theorem scans_scalar (scalar : IsScalar text) (characters : ∀ c ∈ text, isWordCharacter c) :
    Scans text := by
  intro depth words
  refine ⟨text, [], ?_, by simp, Or.inr scalar⟩
  rw [Scan.run_word characters]
  simp

theorem scans_quoted {characters : List Char} (isText : CharactersText text characters) :
    Scans ('"' :: (text ++ ['"'])) := by
  intro depth words
  refine ⟨[], [], ?_, by simp, Or.inl rfl⟩
  rw [isText.run_quoted]
  simp [withWord]

theorem Scans.append_ended {rest : CString} (scans : Scans text) (scansRest : Scans rest)
    (separator : isSeparator c) (level : bracketDepth c = 0) :
    Scans (text ++ c :: rest) := by
  intro depth words
  rcases scans.ended separator depth words with ⟨front, run, frontScalars⟩
  rcases scansRest depth (words ++ front) with ⟨word, back, runRest, backScalars, scalar⟩
  refine ⟨word, front ++ back, ?_, ?_, scalar⟩
  · rw [level, Int.add_zero] at run
    rw [List.append_cons, Scan.run_append, run, runRest, List.append_assoc]
  · intro other mem
    rcases List.mem_append.mp mem with mem | mem
    · exact frontScalars other mem
    · exact backScalars other mem

theorem Scan.run_blank (blank : Blank text) :
    Scan.run ⟨.outside, depth, [], words⟩ text = ⟨.outside, depth, [], words⟩ := by
  induction text with
  | nil => rfl
  | cons c text ih =>
      have step : Scan.step ⟨.outside, depth, [], words⟩ c = ⟨.outside, depth, [], words⟩ := by
        rcases blank c List.mem_cons_self with rfl | rfl | rfl | rfl <;>
          simp [Scan.step, isWordCharacter, bracketDepth, withWord]
      rw [Scan.run_cons, step]
      exact ih fun c mem => blank c (List.mem_cons_of_mem _ mem)

theorem scans_blank (blank : Blank text) : Scans text := by
  intro depth words
  exact ⟨[], [], by rw [Scan.run_blank blank, List.append_nil], by simp, Or.inl rfl⟩

/-- White space around a text. -/
theorem Scans.spaced {before after : CString} (scans : Scans text) (blankBefore : Blank before)
    (blankAfter : Blank after) : Scans (before ++ (text ++ after)) := by
  have back : Scans (text ++ after) := by
    cases after with
    | nil => simpa using scans
    | cons c after =>
        have rest := scans_blank fun c mem => blankAfter c (List.mem_cons_of_mem _ mem)
        rcases blankAfter c List.mem_cons_self with rfl | rfl | rfl | rfl <;>
          exact scans.append_ended rest rfl rfl
  intro depth words
  rw [Scan.run_append, Scan.run_blank blankBefore]
  exact back depth words

theorem Scans.bracketed {opening closing : Char} (scans : Scans text)
    (isOpening : isSeparator opening) (openingDepth : bracketDepth opening = 1)
    (isClosing : isSeparator closing) (closingDepth : bracketDepth closing = -1) :
    Scans (opening :: (text ++ [closing])) := by
  intro depth words
  rcases scans.ended isClosing (depth + 1) words with ⟨more, run, scalars⟩
  refine ⟨[], more, ?_, scalars, Or.inl rfl⟩
  rw [Scan.run_cons, Scan.step_outside isOpening, openingDepth, withWord, if_pos rfl,
    run, closingDepth, Int.add_neg_cancel_right]

theorem IsNumber.isWordCharacter (number : IsNumber text) :
    ∀ c ∈ text, isWordCharacter c := by
  have ofDigit : ∀ c : Char, c.isDigit → JsonText.isWordCharacter c := by
    intro c digit
    have other : ∀ structural : Char, structural.isDigit = false → c ≠ structural :=
      fun _ notDigit => isDigit_ne digit notDigit
    simp [JsonText.isWordCharacter, other]
  rcases number with ⟨sign, integer, fraction, exponent, rfl, isSign, ⟨digits, _⟩, isFraction,
    isExponent⟩
  intro c mem
  simp only [List.mem_append] at mem
  rcases mem with mem | mem | mem | mem
  · rcases isSign with rfl | rfl
    · cases mem
    · rw [List.mem_singleton.mp mem]
      rfl
  · exact ofDigit c (digits.2 c mem)
  · rcases isFraction with rfl | ⟨digits, rfl, isDigits⟩
    · cases mem
    · rcases List.mem_cons.mp mem with rfl | mem
      · rfl
      · exact ofDigit c (isDigits.2 c mem)
  · rcases isExponent with rfl | ⟨e, plus, digits, rfl, isE, isPlus, isDigits⟩
    · cases mem
    · rcases List.mem_cons.mp mem with rfl | mem
      · rcases isE with rfl | rfl <;> rfl
      · rcases List.mem_append.mp mem with mem | mem
        · rcases isPlus with rfl | rfl | rfl
          · cases mem
          · rw [List.mem_singleton.mp mem]
            rfl
          · rw [List.mem_singleton.mp mem]
            rfl
        · exact ofDigit c (isDigits.2 c mem)

theorem IsScalar.isWordCharacter (scalar : IsScalar text) : ∀ c ∈ text, isWordCharacter c := by
  rcases scalar with rfl | rfl | rfl | number
  · exact List.all_eq_true.mp rfl
  · exact List.all_eq_true.mp rfl
  · exact List.all_eq_true.mp rfl
  · exact number.isWordCharacter

theorem IsScalar.scans (scalar : IsScalar text) : Scans text :=
  scans_scalar scalar scalar.isWordCharacter

mutual

/-- The text of a value scans; the cases are those of the grammar. -/
theorem ValueText.scans : ∀ {text : CString} {value : Json}, ValueText text value → Scans text
  | _, _, .null => IsScalar.scans (.inr (.inr (.inl rfl)))
  | _, _, .true => IsScalar.scans (.inl rfl)
  | _, _, .false => IsScalar.scans (.inr (.inl rfl))
  | _, _, .number isNumber => IsScalar.scans (.inr (.inr (.inr isNumber)))
  | _, _, .string isText => scans_quoted isText
  | _, _, .emptyArray blank =>
      (scans_blank blank).bracketed rfl rfl rfl rfl
  | _, _, .array elements => elements.scans.bracketed rfl rfl rfl rfl
  | _, _, .emptyObject blank =>
      (scans_blank blank).bracketed rfl rfl rfl rfl
  | _, _, .object members => members.scans.bracketed rfl rfl rfl rfl

theorem ElementText.scans : ∀ {text : CString} {value : Json}, ElementText text value → Scans text
  | _, _, .spaced blankBefore isValue blankAfter => isValue.scans.spaced blankBefore blankAfter

theorem ElementsText.scans : ∀ {text : CString} {values : List Json},
    ElementsText text values → Scans text
  | _, _, .last element => element.scans
  | _, _, .more element rest => element.scans.append_ended rest.scans rfl rfl

theorem MemberText.scans : ∀ {text : CString} {field : List Char × Json},
    MemberText text field → Scans text
  | _, _, .spaced blankBefore isText blankAfter element => by
      have front := (scans_quoted isText).spaced blankBefore blankAfter
      have all := @Scans.append_ended _ ':' _ front element.scans rfl rfl
      simpa using all

theorem MembersText.scans : ∀ {text : CString} {fields : List (List Char × Json)},
    MembersText text fields → Scans text
  | _, _, .last member => member.scans
  | _, _, .more member rest => member.scans.append_ended rest.scans rfl rfl

end

/-! ## Texts in pieces -/

/--
The text opens at least `net` brackets more than it closes and ends a word. If it opens no
more than these and its words are scalars, it is `good`.
-/
def Opens (text : CString) (net : ℤ) (good : Prop) : Prop :=
  ∀ depth words, ∃ more extra, Scan.run ⟨.outside, depth, [], words⟩ text =
      ⟨.outside, depth + net + extra, [], words ++ more⟩ ∧ 0 ≤ extra ∧
    (extra = 0 → (∀ other ∈ more, IsScalar other) → good)

variable {rest : CString} {net netRest : ℤ} {good goodRest : Prop}

theorem opens_nil : Opens [] 0 True := by
  intro depth words
  exact ⟨[], 0, by simp [Scan.run], Int.le_refl 0, fun _ _ => trivial⟩

theorem Opens.append (opens : Opens text net good) (opensRest : Opens rest netRest goodRest) :
    Opens (text ++ rest) (net + netRest) (good ∧ goodRest) := by
  intro depth words
  rcases opens depth words with ⟨front, extra, run, nonneg, isGood⟩
  rcases opensRest (depth + net + extra) (words ++ front) with
    ⟨back, extraRest, runRest, nonnegRest, isGoodRest⟩
  refine ⟨front ++ back, extra + extraRest, ?_, by omega, ?_⟩
  · rw [Scan.run_append, run, runRest, List.append_assoc]
    congr 1
    omega
  · intro none scalars
    exact ⟨isGood (by omega) fun other mem => scalars other (List.mem_append_left _ mem),
      isGoodRest (by omega) fun other mem => scalars other (List.mem_append_right _ mem)⟩

theorem Opens.imp (opens : Opens text net good) (implies : good → goodRest) :
    Opens text net goodRest := by
  intro depth words
  rcases opens depth words with ⟨more, extra, run, nonneg, isGood⟩
  exact ⟨more, extra, run, nonneg, fun none scalars => implies (isGood none scalars)⟩

theorem Opens.of_eq (opens : Opens text net good) (same : net = netRest) :
    Opens text netRest good := same ▸ opens

/-- A text that leaves more brackets open than it may. -/
theorem Opens.of_lt (opens : Opens text net good) (less : netRest < net) :
    Opens text netRest goodRest := by
  intro depth words
  rcases opens depth words with ⟨more, extra, run, nonneg, _⟩
  refine ⟨more, net - netRest + extra, ?_, by omega, fun none => by omega⟩
  rw [run]
  congr 1
  omega

theorem Opens.cons (opens : Opens rest net good) (c : Char) (separator : isSeparator c) :
    Opens (c :: rest) (bracketDepth c + net) good := by
  intro depth words
  rcases opens (depth + bracketDepth c) words with ⟨more, extra, run, nonneg, isGood⟩
  refine ⟨more, extra, ?_, nonneg, isGood⟩
  rw [Scan.run_cons, Scan.step_outside separator, withWord, if_pos rfl, run]
  congr 1
  omega

theorem Opens.quoted {characters : List Char} (opens : Opens rest net good)
    (isText : CharactersText text characters) : Opens ('"' :: (text ++ '"' :: rest)) net good := by
  intro depth words
  have split : '"' :: (text ++ '"' :: rest) = '"' :: (text ++ ['"']) ++ rest := by simp
  rcases opens depth words with ⟨more, extra, run, nonneg, isGood⟩
  refine ⟨more, extra, ?_, nonneg, isGood⟩
  rw [split, Scan.run_append, isText.run_quoted, withWord, if_pos rfl, run]

/-- The text of a value and what follows it. -/
theorem Opens.append_scans (opens : Opens rest net good) (scans : Scans text) (c : Char)
    (separator : isSeparator c) :
    Opens (text ++ c :: rest) (bracketDepth c + net) good := by
  intro depth words
  rcases scans.ended separator depth words with ⟨front, run, _⟩
  rcases opens (depth + bracketDepth c) (words ++ front) with
    ⟨back, extra, runRest, nonneg, isGood⟩
  refine ⟨front ++ back, extra, ?_, nonneg, fun none scalars =>
    isGood none fun other mem => scalars other (List.mem_append_right _ mem)⟩
  rw [List.append_cons, Scan.run_append, run, runRest, List.append_assoc]
  congr 1
  omega

/-- A word, which has to be a scalar, and what follows it. -/
theorem Opens.append_word (opens : Opens rest net good) (nonempty : word ≠ [])
    (characters : ∀ c ∈ word, isWordCharacter c) (c : Char) (separator : isSeparator c) :
    Opens (word ++ c :: rest) (bracketDepth c + net) (IsScalar word ∧ good) := by
  intro depth words
  rcases opens (depth + bracketDepth c) (words ++ [word]) with ⟨more, extra, run, nonneg, isGood⟩
  refine ⟨word :: more, extra, ?_, nonneg, fun none scalars =>
    ⟨scalars word List.mem_cons_self, isGood none fun other mem =>
      scalars other (List.mem_cons_of_mem _ mem)⟩⟩
  rw [Scan.run_append, Scan.run_word characters, List.nil_append, Scan.run_cons,
    Scan.step_outside separator, withWord, if_neg nonempty, run]
  congr 1
  · omega
  · exact List.append_assoc _ _ _

/-- A text made of pieces is the text of a value only if all of them are good. -/
theorem Opens.good_of_scans (opens : Opens text 0 good) (scans : Scans text) : good := by
  rcases opens 0 [] with ⟨more, extra, run, _, isGood⟩
  rcases scans 0 [] with ⟨word, others, runScans, scalars, _⟩
  rw [run] at runScans
  injection runScans with _ closed _ same
  apply isGood
  · omega
  · rw [List.nil_append, List.nil_append] at same
    rwa [same]

end Scanning

end JsonText
