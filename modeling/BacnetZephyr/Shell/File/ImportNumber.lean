import BacnetZephyr.Shell.File.Import

/-!
# Numbers of an imported chunk

`file_import_uint32_parse` with its loop in 32-bit arithmetic and its output parameter.
The loop leaves a record of its rounds, so that the absence of wraparound is a statement
about the numbers it computes.

The guard compares `parsed` with a quotient. It refuses a digit exactly when the value with
that digit has more than 32 bits, for every digit and every value before it.
-/

namespace BacnetZephyr

open CLib

/-- A round of the loop that has reached the guard. -/
structure DigitRound where
  parsed : UInt32
  digit : UInt32
deriving DecidableEq

namespace DigitRound

/-- `UINT32_MAX - digit` -/
def room (round : DigitRound) : UInt32 :=
  4294967295 - round.digit

def tens (round : DigitRound) : UInt32 :=
  round.parsed * 10

/-- `parsed` after the round. -/
def next (round : DigitRound) : UInt32 :=
  round.tens + round.digit

def Refused (round : DigitRound) : Prop :=
  round.room / 10 < round.parsed

instance (round : DigitRound) : Decidable round.Refused :=
  inferInstanceAs (Decidable (round.room / 10 < round.parsed))

/-- The results of the round's operations are those of unbounded numbers. -/
structure Exact (round : DigitRound) : Prop where
  room : round.room.toNat = uint32Max - round.digit.toNat
  tens : ¬round.Refused → round.tens.toNat = round.parsed.toNat * 10
  next : ¬round.Refused → round.next.toNat = round.parsed.toNat * 10 + round.digit.toNat

end DigitRound

/-- What the loop has done: its rounds, and `parsed` unless it has returned `false`. -/
structure DigitLoop where
  rounds : List DigitRound
  parsed : Option UInt32
deriving DecidableEq

/-- The loop of `file_import_uint32_parse` over the characters that are left. -/
def importLoop : UInt32 → CString → DigitLoop
  | parsed, [] => ⟨[], some parsed⟩
  | parsed, character :: rest =>
      if character.toNat < '0'.toNat ∨ '9'.toNat < character.toNat then ⟨[], none⟩
      else
        let round : DigitRound := ⟨parsed, UInt32.ofNat (character.toNat - '0'.toNat)⟩
        if round.Refused then ⟨[round], none⟩
        else
          let later := importLoop round.next rest
          ⟨round :: later.rounds, later.parsed⟩

/-- A return of `file_import_uint32_parse`; `value` is the output parameter after it. -/
structure ImportNumber where
  returned : Bool
  value : UInt32
  rounds : List DigitRound
deriving DecidableEq

/-- `file_import_uint32_parse` with `*value` as the caller left it. -/
def fileImportUint32ParseInto (token : Option CString) (value : UInt32) : ImportNumber :=
  match token with
  | none => ⟨false, value, []⟩
  | some token =>
      if token.length = 0 ∨ 10 < token.length then ⟨false, value, []⟩
      else
        let loop := importLoop 0 token
        match loop.parsed with
        | none => ⟨false, value, loop.rounds⟩
        | some parsed => ⟨true, parsed, loop.rounds⟩

/-- Text of one to ten digits that denotes a number of 32 bits. -/
structure Uint32Digits (text : CString) (number : ℕ) : Prop where
  nonempty : 1 ≤ text.length
  short : text.length ≤ 10
  digit : ∀ character ∈ text, character.isDigit
  value : Nat.ofDigitChars 10 text 0 = number
  fits : number ≤ uint32Max

/-! ## One round -/

namespace DigitRound

variable {round : DigitRound}

theorem toNat_room (round : DigitRound) :
    round.room.toNat = uint32Max - round.digit.toNat := by
  have small : round.digit ≤ 4294967295 := by
    rw [UInt32.le_iff_toNat_le]
    exact Nat.le_of_lt_succ round.digit.toNat_lt
  exact UInt32.toNat_sub_of_le _ _ small

/-- The guard refuses exactly the digits that do not fit. -/
theorem refused_iff (round : DigitRound) (digit : round.digit.toNat ≤ 9) :
    round.Refused ↔ uint32Max < round.parsed.toNat * 10 + round.digit.toNat := by
  have quotient : (round.room / 10).toNat = (uint32Max - round.digit.toNat) / 10 := by
    rw [UInt32.toNat_div, toNat_room]
    rfl
  simp only [Refused, UInt32.lt_iff_toNat_lt, quotient, uint32Max]
  omega

theorem exact_of_digit (digit : round.digit.toNat ≤ 9) : round.Exact := by
  have tens : ¬round.Refused → round.tens.toNat = round.parsed.toNat * 10 := by
    intro passed
    simp only [refused_iff round digit, uint32Max] at passed
    have ten : (10 : UInt32).toNat = 10 := rfl
    rw [DigitRound.tens, UInt32.toNat_mul, ten]
    exact Nat.mod_eq_of_lt (by omega)
  refine ⟨toNat_room round, tens, ?_⟩
  intro passed
  have product := tens passed
  simp only [refused_iff round digit, uint32Max] at passed
  rw [DigitRound.next, UInt32.toNat_add, product]
  exact Nat.mod_eq_of_lt (by omega)

end DigitRound

/-! ## All rounds -/

/-- A round of the loop on a character that is a digit. -/
def digitRound (parsed : UInt32) (character : Char) : DigitRound :=
  ⟨parsed, UInt32.ofNat (character.toNat - '0'.toNat)⟩

theorem toNat_digitRound {character : Char} (digit : character.isDigit) (parsed : UInt32) :
    (digitRound parsed character).digit.toNat = character.toNat - '0'.toNat := by
  have bounds := (isDigit_iff character).mp digit
  apply UInt32.toNat_ofNat_of_lt'
  show character.toNat - '0'.toNat < 4294967296
  omega

theorem digitRound_le {character : Char} (digit : character.isDigit) (parsed : UInt32) :
    (digitRound parsed character).digit.toNat ≤ 9 := by
  have bounds := (isDigit_iff character).mp digit
  have zero : '0'.toNat = 48 := rfl
  rw [toNat_digitRound digit]
  omega

theorem importLoop_digit {character : Char} (digit : character.isDigit) (rest : CString)
    (parsed : UInt32) :
    importLoop parsed (character :: rest) =
      if (digitRound parsed character).Refused then ⟨[digitRound parsed character], none⟩
      else
        ⟨digitRound parsed character ::
            (importLoop (digitRound parsed character).next rest).rounds,
          (importLoop (digitRound parsed character).next rest).parsed⟩ := by
  have bounds := (isDigit_iff character).mp digit
  have zero : '0'.toNat = 48 := rfl
  have nine : '9'.toNat = 57 := rfl
  rw [importLoop, if_neg (by omega)]
  rfl

theorem importLoop_other {character : Char} (other : ¬character.isDigit) (rest : CString)
    (parsed : UInt32) :
    importLoop parsed (character :: rest) = ⟨[], none⟩ := by
  have bounds := mt (isDigit_iff character).mpr other
  have zero : '0'.toNat = 48 := rfl
  have nine : '9'.toNat = 57 := rfl
  rw [importLoop, if_pos (by omega)]

/-- No round of the loop wraps. -/
theorem importLoop_exact (text : CString) (parsed : UInt32) :
    ∀ round ∈ (importLoop parsed text).rounds, round.Exact := by
  induction text generalizing parsed with
  | nil =>
      intro round mem
      cases mem
  | cons character rest ih =>
      by_cases digit : character.isDigit
      · have exact := DigitRound.exact_of_digit (digitRound_le digit parsed)
        rw [importLoop_digit digit]
        split
        · intro round mem
          rw [List.mem_singleton] at mem
          rw [mem]
          exact exact
        · rw [List.forall_mem_cons]
          exact ⟨exact, ih _⟩
      · rw [importLoop_other digit]
        intro round mem
        cases mem

/-- The loop ends with the value of its digits, where all are digits and the value fits. -/
theorem importLoop_parsed (text : CString) (parsed number : UInt32) :
    (importLoop parsed text).parsed = some number ↔
      (∀ character ∈ text, character.isDigit) ∧
        Nat.ofDigitChars 10 text parsed.toNat = number.toNat := by
  induction text generalizing parsed with
  | nil => simp [importLoop, UInt32.toNat_inj]
  | cons character rest ih =>
      rw [List.forall_mem_cons, Nat.ofDigitChars_cons]
      by_cases digit : character.isDigit
      · have small := digitRound_le digit parsed
        have value := toNat_digitRound digit parsed
        rw [importLoop_digit digit]
        split
        · rename_i refused
          -- the value only grows, so it stays above the largest number of 32 bits
          rw [DigitRound.refused_iff _ small, value] at refused
          have grown := le_ofDigitChars rest
            (10 * parsed.toNat + (character.toNat - '0'.toNat))
          have bound := number.toNat_lt
          simp only [digitRound, uint32Max] at refused
          constructor
          · intro impossible
            cases impossible
          · rintro ⟨-, reached⟩
            omega
        · rename_i passed
          have next := (DigitRound.exact_of_digit small).next passed
          rw [value, Nat.mul_comm] at next
          rw [ih, next]
          simp [digit, digitRound]
      · rw [importLoop_other digit]
        simp [digit]

/-- The loop is the one of `fileImportUint32Parse`. -/
theorem importDigits_eq (text : CString) (parsed : UInt32) :
    (importDigits parsed.toNat text).map UInt32.ofNat = (importLoop parsed text).parsed := by
  induction text generalizing parsed with
  | nil => simp [importDigits, importLoop]
  | cons character rest ih =>
      by_cases digit : character.isDigit
      · have small := digitRound_le digit parsed
        have value := toNat_digitRound digit parsed
        rw [importDigits_cons digit, importLoop_digit digit]
        by_cases refused : (digitRound parsed character).Refused
        · rw [if_pos refused]
          rw [DigitRound.refused_iff _ small, value] at refused
          simp only [digitRound] at refused
          rw [if_neg (by omega)]
          rfl
        · have next := (DigitRound.exact_of_digit small).next refused
          rw [value, Nat.mul_comm] at next
          rw [if_neg refused, ← ih, next]
          rw [DigitRound.refused_iff _ small, value] at refused
          simp only [digitRound] at refused ⊢
          rw [if_pos (by omega)]
      · have bounds := mt (isDigit_iff character).mpr digit
        have zero : '0'.toNat = 48 := rfl
        have nine : '9'.toNat = 57 := rfl
        rw [importLoop_other digit, importDigits, if_pos (by omega)]
        rfl

/-! ## The parser -/

/-- The ways in which a call can end. -/
inductive ParsesNumber (token : Option CString) (value : UInt32) : ImportNumber → Prop where
  | accepted {text : CString} {parsed : UInt32} : token = some text → 1 ≤ text.length →
      text.length ≤ 10 → (importLoop 0 text).parsed = some parsed →
      fileImportUint32Parse token = some parsed →
      ParsesNumber token value ⟨true, parsed, (importLoop 0 text).rounds⟩
  | refused {rounds : List DigitRound} : (∀ text, token = some text → 1 ≤ text.length →
      text.length ≤ 10 → (importLoop 0 text).parsed = none) → (∀ round ∈ rounds, round.Exact) →
      fileImportUint32Parse token = none →
      ParsesNumber token value ⟨false, value, rounds⟩

/-- The length is checked before the loop, and the output written after it. -/
theorem parsesNumber_into (token : Option CString) (value : UInt32) :
    ParsesNumber token value (fileImportUint32ParseInto token value) := by
  rcases token with _ | text
  · apply ParsesNumber.refused
    · intro text present
      cases present
    · exact List.forall_mem_nil _
    · rfl
  · by_cases sized : text.length = 0 ∨ 10 < text.length
    · rw [fileImportUint32ParseInto, if_pos sized]
      apply ParsesNumber.refused
      · rintro other same positive short
        cases same
        omega
      · exact List.forall_mem_nil _
      · rw [fileImportUint32Parse, if_pos sized]
    · have parse : fileImportUint32Parse (some text) = (importLoop 0 text).parsed := by
        rw [fileImportUint32Parse, if_neg sized]
        exact importDigits_eq text 0
      rw [fileImportUint32ParseInto, if_neg sized]
      cases loop : (importLoop 0 text).parsed with
      | none =>
          rw [loop] at parse
          simp only [loop]
          apply ParsesNumber.refused
          · rintro other same _ _
            cases same
            exact loop
          · exact importLoop_exact text 0
          · exact parse
      | some parsed =>
          rw [loop] at parse
          simp only [loop]
          exact .accepted rfl (by omega) (by omega) loop parse

theorem Uint32Digits.parsed {text : CString} {number : ℕ} (denotes : Uint32Digits text number) :
    (importLoop 0 text).parsed = some (UInt32.ofNat number) := by
  have fits := denotes.fits
  simp only [uint32Max] at fits
  have back : (UInt32.ofNat number).toNat = number :=
    UInt32.toNat_ofNat_of_lt' (Nat.lt_succ_of_le fits)
  apply (importLoop_parsed text 0 _).mpr
  refine ⟨denotes.digit, ?_⟩
  rw [back]
  exact denotes.value

/-- Number tokens are read exactly up to the last value of 32 bits. -/
theorem fileImportUint32Parse_exact (token : Option CString) (value : UInt32) :
    let outcome := fileImportUint32ParseInto token value
    (outcome.returned = true ↔ ∃ text number, token = some text ∧ Uint32Digits text number) ∧
      (∀ text number, token = some text → Uint32Digits text number →
        outcome.value.toNat = number) ∧
      (outcome.returned = false → outcome.value = value) ∧
      (∀ round ∈ outcome.rounds, round.Exact) ∧
      fileImportUint32Parse token = if outcome.returned then some outcome.value else none := by
  intro outcome
  have parses := parsesNumber_into token value
  change ParsesNumber token value outcome at parses
  generalize outcome = ended at parses ⊢
  cases parses with
  | @accepted text parsed present nonempty short loop parse =>
      rcases (importLoop_parsed text 0 parsed).mp loop with ⟨digit, denoted⟩
      have denotes : Uint32Digits text parsed.toNat :=
        ⟨nonempty, short, digit, denoted, Nat.le_of_lt_succ parsed.toNat_lt⟩
      refine ⟨iff_of_true rfl ⟨text, _, present, denotes⟩, ?_, ?_, importLoop_exact text 0,
        parse⟩
      · intro other number same otherDenotes
        cases present.symm.trans same
        exact denoted.symm.trans otherDenotes.value
      · intro impossible
        cases impossible
  | refused misses exact parse =>
      have denotesNone : ∀ text number, token = some text → ¬Uint32Digits text number := by
        intro text number present denotes
        have missed := misses text present denotes.nonempty denotes.short
        rw [denotes.parsed] at missed
        cases missed
      refine ⟨iff_of_false Bool.false_ne_true ?_, ?_, fun _ => rfl, exact, parse⟩
      · rintro ⟨text, number, present, denotes⟩
        exact denotesNone text number present denotes
      · intro text number present denotes
        exact absurd denotes (denotesNone text number present)

-- The last value of 32 bits, the first beyond it, and eleven characters with leading zeros.
example : (fileImportUint32ParseInto (some "4294967295".toList) 7).value = 4294967295 := by decide

example : (fileImportUint32ParseInto (some "4294967296".toList) 7).returned = false := by decide

example : (fileImportUint32ParseInto (some "00000000001".toList) 7).returned = false := by decide

end BacnetZephyr
