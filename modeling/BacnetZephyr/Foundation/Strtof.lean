import BacnetZephyr.Foundation.Scanf

/-!
# Floating-point numbers from text

`strtof` after an optional sign takes the words for an infinity and for a NaN, in any
case, the latter with an optional text in parentheses; anything else is left to the
conversion of numerals, which gives an infinity where the number does not fit. What the
finite values are is left open. `isNan_iff_isNanText` says which whole texts are a NaN.
-/

namespace CLib

/-- A floating-point value. -/
inductive Ieee (Finite : Type) where
  | finite (value : Finite)
  | infinity (negative : Bool)
  | nan
deriving DecidableEq

def Ieee.isFinite {Finite : Type} : Ieee Finite → Bool
  | .finite _ => true
  | _ => false

def Ieee.isInfinite {Finite : Type} : Ieee Finite → Bool
  | .infinity _ => true
  | _ => false

/-- The operator `==`, which holds of no NaN, not even of one with itself. -/
def Ieee.equals {Finite : Type} (same : Finite → Finite → Bool) :
    Ieee Finite → Ieee Finite → Bool
  | .finite left, .finite right => same left right
  | .infinity left, .infinity right => left == right
  | _, _ => false

/--
The conversion of numerals after the sign: the value, or none where it is out of range, and
the text after the numeral; nothing if there is no numeral.
-/
structure NumeralConversion (Finite : Type) where
  zero : Finite
  convert : (negative : Bool) → CString → Option (Option Finite × CString)

/-- The text starts with the word, which is in lower case, in any case. -/
def startsWithLower (word text : CString) : Bool :=
  (text.take word.length).map Char.toLower = word

/-- The characters that may follow `nan` in parentheses. -/
def isPayload (character : Char) : Bool := character.isAlphanum || character = '_'

/-- The text after an optional payload. -/
def payloadRest (text : CString) : CString :=
  match text with
  | '(' :: inside =>
      match inside.dropWhile isPayload with
      | ')' :: rest => rest
      | _ => text
  | _ => text

/-- The value, and the text after what is converted. -/
def strtof {Finite : Type} (numerals : NumeralConversion Finite) (text : CString) :
    Ieee Finite × CString :=
  let (negative, start) := splitSign (text.dropWhile isSpace)
  if startsWithLower "infinity".toList start then (.infinity negative, start.drop 8)
  else if startsWithLower "inf".toList start then (.infinity negative, start.drop 3)
  else if startsWithLower "nan".toList start then (.nan, payloadRest (start.drop 3))
  else
    match numerals.convert negative start with
    | some (some value, rest) => (.finite value, rest)
    | some (none, rest) => (.infinity negative, rest)
    | none => (.finite numerals.zero, text)

/-- The whole text spells a NaN: white space, a sign, the word and a payload. -/
def IsNanText (text : CString) : Prop :=
  ∃ blanks sign word payload, text = blanks ++ (sign ++ (word ++ payload)) ∧
    (∀ c ∈ blanks, isSpace c) ∧ (sign = [] ∨ sign = ['+'] ∨ sign = ['-']) ∧
    word.map Char.toLower = "nan".toList ∧
    (payload = [] ∨ ∃ characters, payload = '(' :: (characters ++ [')']) ∧
      ∀ c ∈ characters, isPayload c)

section Nan

variable {Finite : Type} {numerals : NumeralConversion Finite} {text : CString}

theorem payloadRest_eq_nil_iff (text : CString) :
    payloadRest text = [] ↔ text = [] ∨
      ∃ characters, text = '(' :: (characters ++ [')']) ∧ ∀ c ∈ characters, isPayload c := by
  constructor
  · intro ended
    rcases text with _ | ⟨first, inside⟩
    · exact Or.inl rfl
    · by_cases parenthesis : first = '('
      · subst parenthesis
        simp only [payloadRest] at ended
        split at ended
        · rename_i rest closed
          subst ended
          refine Or.inr ⟨inside.takeWhile isPayload, ?_, fun c mem => List.mem_takeWhile_imp mem⟩
          rw [← closed, List.takeWhile_append_dropWhile]
        · cases ended
      · rw [payloadRest] at ended
        · cases ended
        · rintro others ⟨⟩
          exact parenthesis rfl
  · rintro (rfl | ⟨characters, rfl, payload⟩)
    · rfl
    · have closed : (characters ++ [')']).dropWhile isPayload = [')'] := by
        rw [List.dropWhile_append_of_pos payload]
        rfl
      simp only [payloadRest, closed]

theorem splitSign_append (text : CString) :
    ∃ sign, text = sign ++ (splitSign text).2 ∧ (sign = [] ∨ sign = ['+'] ∨ sign = ['-']) := by
  unfold splitSign
  split
  · exact ⟨['-'], rfl, Or.inr (Or.inr rfl)⟩
  · exact ⟨['+'], rfl, Or.inr (Or.inl rfl)⟩
  · exact ⟨[], rfl, Or.inl rfl⟩

/-- What follows white space and a sign is what the sign is split from. -/
theorem splitSign_dropWhile {blanks sign start : CString} (blank : ∀ c ∈ blanks, isSpace c)
    (isSign : sign = [] ∨ sign = ['+'] ∨ sign = ['-'])
    (letter : start.head?.any Char.isAlpha) :
    (splitSign ((blanks ++ (sign ++ start)).dropWhile isSpace)).2 = start := by
  rw [List.dropWhile_append_of_pos blank]
  rcases start with _ | ⟨first, rest⟩
  · cases letter
  · have alpha : first.isAlpha := by simpa using letter
    rcases isSign with rfl | rfl | rfl
    · rw [List.nil_append, dropWhile_isSpace_of_isAlpha alpha, splitSign_of_isAlpha alpha]
    · rfl
    · rfl

/-- A text is converted to a NaN as a whole exactly if it spells one. -/
theorem isNan_iff_isNanText : strtof numerals text = (.nan, []) ↔ IsNanText text := by
  constructor
  · intro nan
    simp only [strtof] at nan
    split at nan
    · cases nan
    · split at nan
      · cases nan
      · split at nan
        · rename_i word
          have ended := (Prod.mk.inj nan).2
          rcases splitSign_append (text.dropWhile isSpace) with ⟨sign, equal, isSign⟩
          refine ⟨text.takeWhile isSpace, sign, _, _, ?_, fun c mem => List.mem_takeWhile_imp mem,
            isSign, of_decide_eq_true word, (payloadRest_eq_nil_iff _).mp ended⟩
          have parts : text = text.takeWhile isSpace ++ text.dropWhile isSpace :=
            List.takeWhile_append_dropWhile.symm
          rw [equal] at parts
          have three : "nan".toList.length = 3 := rfl
          rwa [three, List.take_append_drop]
        · split at nan
          · cases nan
          · cases nan
          · cases nan
  · rintro ⟨blanks, sign, word, payload, rfl, blank, isSign, isWord, isPayload⟩
    have three : word.length = 3 := by simpa using congrArg List.length isWord
    rcases List.length_eq_three.mp three with ⟨first, second, third, rfl⟩
    have lower : first.toLower = 'n' := (List.cons.inj isWord).1
    have letter : first.isAlpha := isAlpha_of_toLower (by rw [lower]; rfl)
    have start := @splitSign_dropWhile blanks sign ([first, second, third] ++ payload) blank
      isSign (by simpa using letter)
    rcases split : splitSign ((blanks ++ (sign ++ ([first, second, third] ++ payload))).dropWhile
      isSpace) with ⟨negative, after⟩
    rw [split] at start
    subst start
    have notInfinity : startsWithLower "infinity".toList ([first, second, third] ++ payload) =
        false := by
      simp [startsWithLower, lower]
    have notInf : startsWithLower "inf".toList ([first, second, third] ++ payload) = false := by
      simp [startsWithLower, lower]
    have nan : startsWithLower "nan".toList ([first, second, third] ++ payload) = true :=
      decide_eq_true isWord
    have ended : payloadRest (([first, second, third] ++ payload).drop 3) = [] :=
      (payloadRest_eq_nil_iff payload).mpr isPayload
    simp only [strtof, split, notInfinity, notInf, nan, ended, Bool.false_eq_true, if_false,
      if_true]

theorem IsNanText.ne_nil (isNan : IsNanText text) : text ≠ [] := by
  rcases isNan with ⟨blanks, sign, word, payload, rfl, _, _, isWord, _⟩
  have three : word.length = 3 := by simpa using congrArg List.length isWord
  intro empty
  have length := congrArg List.length empty
  simp only [List.length_append, three, List.length_nil] at length
  omega

/-- A NaN that starts with a letter starts with these. -/
theorem IsNanText.lower (isNan : IsNanText text) (letter : text.head?.any Char.isAlpha) :
    ∃ rest, text.map Char.toLower = 'n' :: 'a' :: 'n' :: rest := by
  rcases isNan with ⟨blanks, sign, word, payload, rfl, blank, isSign, isWord, _⟩
  rcases blanks with _ | ⟨space, blanks⟩
  · rcases isSign with rfl | rfl | rfl
    · refine ⟨payload.map Char.toLower, ?_⟩
      rw [List.nil_append, List.nil_append, List.map_append, isWord]
      rfl
    · cases letter
    · cases letter
  · have alpha : space.isAlpha := by simpa using letter
    have notSpace := isSpace_eq_false_of_isAlpha alpha
    rw [blank space List.mem_cons_self] at notSpace
    cases notSpace

end Nan

end CLib
