import BacnetZephyr.Foundation.ByteStream
import BacnetZephyr.Shell.File.WellFormed

/-!
# The two passes over application data

`file_json_application_values` checks application data before it prints it: a first pass
decodes value after value and checks every decoded length, a second pass decodes them again
and adds the lengths to its offset unchecked. The passes are modelled with the offsets at
which they decode. The offset and the lengths added to it are of type `uint32_t`, so the
second pass only ends where the first one has succeeded. `applicationData_kept` says what
the printed text holds: the values of the data, or the digits of all its bytes.
-/

namespace BacnetZephyr

open ByteStream CLib JsonText

section Passes

variable {Value : Type} (decode : List UInt8 → Int × Value) (data : List UInt8)

/--
The loop of `file_application_data_is_primitive`: the offsets at which it decodes and its
answer; `none` when the rounds run out.
-/
def checkingPass : ℕ → ℕ → Option (List ℕ × Bool)
  | 0, _ => none
  | rounds + 1, offset =>
      if offset < data.length then
        let decodedLen := (decode (data.drop offset)).1
        if decodedLen ≤ 0 ∨ data.length - offset < toUint32 decodedLen then
          return ([offset], false)
        else do
          let (offsets, primitive) ← checkingPass rounds (toUint32 (offset + toUint32 decodedLen))
          return (offset :: offsets, primitive)
      else return ([], true)

/-- The loop of `file_json_application_values`: the offsets at which it decodes and its text. -/
def printingPass (print : Value → CString) : ℕ → ℕ → Bool → Option (List ℕ × CString)
  | 0, _, _ => none
  | rounds + 1, offset, first =>
      if offset < data.length then do
        let (decodedLen, value) := decode (data.drop offset)
        let (offsets, rest) ←
          printingPass print rounds (toUint32 (offset + toUint32 decodedLen)) false
        return (offset :: offsets, (if first then [] else ",".toList) ++ print value ++ rest)
      else return ([], [])

/-- The program returns the result when it is given enough rounds. -/
def Returns {Result : Type} (program : ℕ → Option Result) (result : Result) : Prop :=
  ∃ enough, ∀ rounds, enough ≤ rounds → program rounds = some result

theorem Returns.unique {Result : Type} {program : ℕ → Option Result} {first second : Result}
    (returnsFirst : Returns program first) (returnsSecond : Returns program second) :
    first = second := by
  rcases returnsFirst with ⟨enoughFirst, isFirst⟩
  rcases returnsSecond with ⟨enoughSecond, isSecond⟩
  have same := isFirst (max enoughFirst enoughSecond) (Nat.le_max_left _ _)
  exact Option.some.inj (same.symm.trans (isSecond _ (Nat.le_max_right _ _)))

/-- The first round leaves the other rounds to the rest of the program. -/
theorem Returns.of_succ {Result : Type} {program : ℕ → Option Result} {result : Result}
    (enough : ℕ) (later : ∀ rounds, enough ≤ rounds → program (rounds + 1) = some result) :
    Returns program result := by
  refine ⟨enough + 1, fun rounds many => ?_⟩
  cases rounds with
  | zero => contradiction
  | succ rounds => exact later rounds (Nat.le_of_succ_le_succ many)

/--
The pieces of the data are the encodings of the values, each at the offset where it is
decoded. Every piece begins where the one before ends.
-/
structure DecodedPieces (offset : ℕ) (pieces : List (ℕ × List UInt8)) (values : List Value) :
    Prop where
  contiguous : Contiguous offset pieces
  whole : pieceData pieces = data.drop offset
  decoded : List.Forall₂
    (fun piece value => piece.2 ≠ [] ∧ decode (data.drop piece.1) = (piece.2.length, value))
    pieces values

variable {decode data}

theorem DecodedPieces.nil : DecodedPieces decode data data.length [] [] where
  contiguous := trivial
  whole := by simp [pieceData]
  decoded := .nil

/-- The values from a round of the passes on: the one decoded there and the later ones. -/
theorem DecodedPieces.cons {offset : ℕ} {pieces : List (ℕ × List UInt8)} {values : List Value}
    (advances : Advances (decode (data.drop offset)).1 (data.drop offset))
    (later : DecodedPieces decode data (offset + (decode (data.drop offset)).1.toNat)
      pieces values) :
    DecodedPieces decode data offset
      ((offset, (data.drop offset).take (decode (data.drop offset)).1.toNat) :: pieces)
      ((decode (data.drop offset)).2 :: values) := by
  have positive := advances.1
  have length : ((data.drop offset).take (decode (data.drop offset)).1.toNat).length =
      (decode (data.drop offset)).1.toNat := by
    have inside := advances.2
    rw [List.length_take]
    omega
  constructor
  · refine ⟨rfl, ?_⟩
    rw [length]
    exact later.contiguous
  · have rest := later.whole
    rw [pieceData, List.flatMap_cons, ← pieceData, rest, ← List.drop_drop]
    exact List.take_append_drop _ _
  · apply List.Forall₂.cons
    · constructor
      · intro empty
        have noBytes : (data.drop offset).take (decode (data.drop offset)).1.toNat = [] := empty
        rw [noBytes, List.length_nil] at length
        omega
      · rw [length, Int.toNat_of_nonneg (Int.le_of_lt positive)]
    · exact later.decoded

/-- Values that advance from an offset on have their pieces. -/
theorem decodedPieces_of_decodes {rest : List UInt8} {values : List Value}
    (decodes : Decodes decode rest values) {offset : ℕ} (isRest : rest = data.drop offset)
    (inside : offset ≤ data.length) :
    ∃ pieces, DecodedPieces decode data offset pieces values := by
  induction decodes generalizing offset with
  | nil =>
      have finished : data.length ≤ offset := List.drop_eq_nil_iff.mp isRest.symm
      rw [Nat.le_antisymm inside finished]
      exact ⟨[], .nil⟩
  | @cons rest values advances decodes ih =>
      subst isRest
      have step := advances.2
      rw [List.length_drop] at step
      rcases ih List.drop_drop (by omega) with ⟨pieces, later⟩
      exact ⟨_, .cons advances later⟩

/-- What the passes see of the first piece. -/
theorem DecodedPieces.head {offset : ℕ} {piece : ℕ × List UInt8} {value : Value}
    {pieces : List (ℕ × List UInt8)} {values : List Value}
    (decoded : DecodedPieces decode data offset (piece :: pieces) (value :: values)) :
    piece.1 = offset ∧ 0 < piece.2.length ∧ offset + piece.2.length ≤ data.length ∧
      decode (data.drop offset) = ((piece.2.length : Int), value) := by
  rcases piece with ⟨start, bytes⟩
  rcases decoded with ⟨⟨rfl, _⟩, whole, decoded⟩
  cases decoded with
  | cons first _ =>
      rcases first with ⟨nonempty, decoded⟩
      have positive : 0 < bytes.length := List.length_pos_of_ne_nil nonempty
      have lengths := congrArg List.length whole
      rw [pieceData, List.flatMap_cons, List.length_append, List.length_drop] at lengths
      simp only at lengths
      have inside : start + bytes.length ≤ data.length := by omega
      exact ⟨rfl, positive, inside, decoded⟩

theorem DecodedPieces.tail {offset : ℕ} {piece : ℕ × List UInt8} {value : Value}
    {pieces : List (ℕ × List UInt8)} {values : List Value}
    (decoded : DecodedPieces decode data offset (piece :: pieces) (value :: values)) :
    DecodedPieces decode data (offset + piece.2.length) pieces values := by
  rcases piece with ⟨start, bytes⟩
  rcases decoded with ⟨⟨rfl, contiguous⟩, whole, decoded⟩
  cases decoded with
  | cons _ later =>
      refine ⟨contiguous, ?_, later⟩
      rw [pieceData, List.flatMap_cons, ← pieceData] at whole
      rw [← List.drop_drop, ← whole]
      exact (List.drop_left).symm

/--
Induction along the decoded pieces: behind the last one the data ends, and every other one
stands before the pieces from its end on.
-/
@[elab_as_elim]
theorem DecodedPieces.along {motive : ℕ → List (ℕ × List UInt8) → List Value → Prop}
    (ended : ∀ offset, data.length ≤ offset → motive offset [] [])
    (next : ∀ offset bytes value pieces values, 0 < bytes.length →
      offset + bytes.length ≤ data.length →
      decode (data.drop offset) = ((bytes.length : Int), value) →
      motive (offset + bytes.length) pieces values →
      motive offset ((offset, bytes) :: pieces) (value :: values))
    {offset : ℕ} {pieces : List (ℕ × List UInt8)} {values : List Value}
    (decoded : DecodedPieces decode data offset pieces values) : motive offset pieces values := by
  induction pieces generalizing offset values with
  | nil =>
      cases decoded.decoded
      exact ended offset (List.drop_eq_nil_iff.mp decoded.whole.symm)
  | cons piece pieces ih =>
      cases values with
      | nil => cases decoded.decoded
      | cons value values =>
          rcases decoded.head with ⟨isOffset, positive, inside, isValue⟩
          have later := next offset piece.2 value pieces values positive inside isValue
            (ih decoded.tail)
          rw [← isOffset] at later ⊢
          exact later

theorem decodes_of_decodedPieces {offset : ℕ} {pieces : List (ℕ × List UInt8)}
    {values : List Value} (decoded : DecodedPieces decode data offset pieces values) :
    Decodes decode (data.drop offset) values := by
  refine decoded.along ?_ ?_
  · intro offset finished
    rw [List.drop_eq_nil_of_le finished]
    exact .nil
  · intro offset bytes value pieces values positive inside isValue later
    have isLength : (decode (data.drop offset)).1 = bytes.length := by rw [isValue]
    have isHead : value = (decode (data.drop offset)).2 := by rw [isValue]
    rw [isHead]
    apply Decodes.cons
    · constructor
      · omega
      · rw [List.length_drop]
        omega
    · rw [isLength, Int.toNat_natCast, List.drop_drop]
      exact later

/-- The offset of the next round: nothing wraps inside the data. -/
theorem toUint32_next {offset length : ℕ} (fits : data.length < 4294967296)
    (inside : offset + length ≤ data.length) :
    toUint32 (offset + toUint32 length) = offset + length := by
  have exact_length : toUint32 length = length := toUint32_of_lt (by omega) (by omega)
  rw [exact_length, toUint32_of_lt (by omega) (by omega)]
  omega

/-- A round of the first pass that accepts the decoded length. -/
theorem returns_checkingPass_next (fits : data.length < 4294967296) {offset length : ℕ}
    (positive : 0 < length) (inside : offset + length ≤ data.length)
    (isLength : (decode (data.drop offset)).1 = length) {offsets : List ℕ} {primitive : Bool}
    (later : Returns (fun rounds => checkingPass decode data rounds (offset + length))
      (offsets, primitive)) :
    Returns (fun rounds => checkingPass decode data rounds offset)
      (offset :: offsets, primitive) := by
  rcases later with ⟨enough, later⟩
  have more : offset < data.length := by omega
  have accepted : ¬((length : Int) ≤ 0 ∨ data.length - offset < toUint32 length) := by
    rw [toUint32_of_lt (by omega) (by omega)]
    omega
  apply Returns.of_succ enough
  intro rounds many
  have rest := later rounds many
  simp only at rest
  simp only [checkingPass, if_pos more, isLength, if_neg accepted,
    toUint32_next fits inside, rest]
  rfl

/-- A round of the first pass that rejects the decoded length. -/
theorem returns_checkingPass_fails {offset : ℕ} (more : offset < data.length)
    (rejected : (decode (data.drop offset)).1 ≤ 0 ∨
      data.length - offset < toUint32 (decode (data.drop offset)).1) :
    Returns (fun rounds => checkingPass decode data rounds offset) ([offset], false) := by
  apply Returns.of_succ 0
  intro rounds _
  simp only [checkingPass, if_pos more, if_pos rejected]
  rfl

/-- Over decoded pieces the first pass succeeds, and it decodes where they begin. -/
theorem returns_checkingPass {pieces : List (ℕ × List UInt8)} {values : List Value}
    (fits : data.length < 4294967296) {offset : ℕ}
    (decoded : DecodedPieces decode data offset pieces values) :
    Returns (fun rounds => checkingPass decode data rounds offset)
      (pieces.map Prod.fst, true) := by
  refine decoded.along ?_ ?_
  · intro offset finished
    apply Returns.of_succ 0
    intro rounds _
    simp only [checkingPass, if_neg (Nat.not_lt.mpr finished)]
    rfl
  · intro offset bytes value pieces values positive inside isValue later
    have isLength : (decode (data.drop offset)).1 = bytes.length := by rw [isValue]
    exact returns_checkingPass_next fits positive inside isLength later

/-- The second pass decodes at the same places and prints the values. -/
theorem returns_printingPass {print : Value → CString} {pieces : List (ℕ × List UInt8)}
    {values : List Value} (fits : data.length < 4294967296) {offset : ℕ}
    (decoded : DecodedPieces decode data offset pieces values) (first : Bool) :
    Returns (fun rounds => printingPass decode data print rounds offset first)
      (pieces.map Prod.fst, separated first (values.map print)) := by
  revert first
  refine decoded.along ?_ ?_
  · intro offset finished first
    apply Returns.of_succ 0
    intro rounds _
    simp only [printingPass, if_neg (Nat.not_lt.mpr finished)]
    cases first
    · rfl
    · rfl
  · intro offset bytes value pieces values positive inside isValue later first
    rcases later false with ⟨enough, later⟩
    have more : offset < data.length := by omega
    apply Returns.of_succ enough
    intro rounds many
    have rest := later rounds many
    simp only at rest
    simp only [printingPass, if_pos more, isValue, toUint32_next fits inside, rest,
      List.map_cons, separated_cons]
    rfl

/--
The first pass ends: the data from the offset on is the pieces of values, or the pass
fails. A length that does not advance is rejected, as an `int` does not wrap.
-/
theorem decodedPieces_or_returns (fits : data.length < 4294967296)
    (isInt : ∀ bytes, (decode bytes).1 ≤ int32Max) {offset : ℕ} (inside : offset ≤ data.length) :
    (∃ pieces values, DecodedPieces decode data offset pieces values) ∨
      ∃ offsets, Returns (fun rounds => checkingPass decode data rounds offset)
        (offsets, false) := by
  induction remaining : data.length - offset using Nat.strongRecOn generalizing offset with
  | ind remaining ih =>
      rcases Nat.eq_or_lt_of_le inside with finished | more
      · rw [finished]
        exact .inl ⟨[], [], .nil⟩
      · by_cases advances : Advances (decode (data.drop offset)).1 (data.drop offset)
        · have positive := advances.toNat_pos
          have step := advances.2
          rw [List.length_drop] at step
          have nextInside : offset + (decode (data.drop offset)).1.toNat ≤ data.length := by omega
          rcases ih _ (by omega) nextInside rfl with ⟨pieces, values, later⟩ | ⟨offsets, failed⟩
          · exact .inl ⟨_, _, .cons advances later⟩
          · have isLength : (decode (data.drop offset)).1 =
                ((decode (data.drop offset)).1.toNat : Int) := by omega
            exact .inr ⟨_, returns_checkingPass_next fits positive nextInside isLength failed⟩
        · apply Or.inr
          refine ⟨[offset], returns_checkingPass_fails more ?_⟩
          rcases Int.lt_or_le 0 (decode (data.drop offset)).1 with positive | stuck
          · right
            have small := isInt (data.drop offset)
            have large : ¬(decode (data.drop offset)).1 ≤ (data.drop offset).length :=
              fun fitsRest => advances ⟨positive, fitsRest⟩
            rw [List.length_drop] at large
            rw [toUint32_of_lt (by omega) (by simp only [int32Max] at small; omega)]
            omega
          · exact .inl stuck

end Passes

/-! ## The printed values -/

/-- The library with a decoder of values whose length is an `int`. -/
structure IntDecodingLibrary extends BackupLibrary where
  decodedLen_int : ∀ bytes, -2147483648 ≤ (bacappDecodeApplicationData bytes).1 ∧
    (bacappDecodeApplicationData bytes).1 ≤ int32Max

theorem IntDecodingLibrary.decodedLen_le (library : IntDecodingLibrary) (bytes : List UInt8) :
    (library.bacappDecodeApplicationData bytes).1 ≤ int32Max := (library.decodedLen_int bytes).2

/-- The arguments `data` and `data_len`; `data_len` is a `uint32_t`. -/
structure ApplicationData where
  bytes : List UInt8
  length_lt : bytes.length < 4294967296

/-- The offsets at which each pass decodes, and what is printed. -/
structure ApplicationValuesOutcome where
  checked : List ℕ
  printed : List ℕ
  text : CString
deriving DecidableEq

/-- `file_json_application_values` -/
def fileJsonApplicationValuesPasses (library : BackupLibrary) (data : List UInt8) (rounds : ℕ) :
    Option ApplicationValuesOutcome := do
  let (checked, primitive) ← checkingPass library.bacappDecodeApplicationData data rounds 0
  if primitive = false then
    return ⟨checked, [], "[".toList ++ "\x7b\"type\":\"encoded\",\"data_hex\":".toList ++
      fileJsonHex data ++ "\x7d]".toList⟩
  else
    let (printed, values) ← printingPass library.bacappDecodeApplicationData data
      (fileJsonApplicationValue library) rounds 0 true
    return ⟨checked, printed, "[".toList ++ values ++ "]".toList⟩

section Values

variable {library : IntDecodingLibrary} {data : ApplicationData}

/-- The function returns for decoded pieces: the text has an element for every value. -/
theorem returns_passes_of_decodedPieces {pieces : List (ℕ × List UInt8)}
    {values : List (BacnetApplicationDataValue library.Double)}
    (decoded : DecodedPieces library.bacappDecodeApplicationData data.bytes 0 pieces values) :
    Returns (fileJsonApplicationValuesPasses library.toBackupLibrary data.bytes)
      ⟨pieces.map Prod.fst, pieces.map Prod.fst,
        "[".toList ++
          commaSeparated (values.map (fileJsonApplicationValue library.toBackupLibrary)) ++
          "]".toList⟩ := by
  rcases returns_checkingPass data.length_lt decoded with ⟨enoughCheck, checks⟩
  have printing := @returns_printingPass _ _ _ (fileJsonApplicationValue library.toBackupLibrary)
    _ _ data.length_lt _ decoded true
  rcases printing with ⟨enoughPrint, prints⟩
  refine ⟨max enoughCheck enoughPrint, fun rounds many => ?_⟩
  have check := checks rounds (Nat.le_trans (Nat.le_max_left _ _) many)
  have print := prints rounds (Nat.le_trans (Nat.le_max_right _ _) many)
  simp only at check print
  rw [fileJsonApplicationValuesPasses, check, Option.bind_eq_bind, Option.bind_some]
  simp only [Bool.true_eq_false, if_false]
  rw [print]
  rfl

/-- The function returns when the first pass fails: the text is the whole data. -/
theorem returns_passes_of_fails {offsets : List ℕ}
    (fails : Returns
      (fun rounds => checkingPass library.bacappDecodeApplicationData data.bytes rounds 0)
      (offsets, false)) :
    Returns (fileJsonApplicationValuesPasses library.toBackupLibrary data.bytes)
      ⟨offsets, [], "[\x7b\"type\":\"encoded\",\"data_hex\":".toList ++
        fileJsonHex data.bytes ++ "\x7d]".toList⟩ := by
  rcases fails with ⟨enough, fails⟩
  refine ⟨enough, fun rounds many => ?_⟩
  have check := fails rounds many
  simp only at check
  rw [fileJsonApplicationValuesPasses, check]
  rfl

/-- Where the values advance through the data, the check of the model succeeds as well. -/
theorem fileApplicationDataIsPrimitive_of_decodes {library : BackupLibrary} {data : List UInt8}
    {values : List (BacnetApplicationDataValue library.Double)}
    (decodes : Decodes library.bacappDecodeApplicationData data values) :
    fileApplicationDataIsPrimitive library data = true ∧
      applicationValues library data = values := by
  induction decodes with
  | nil =>
      rw [fileApplicationDataIsPrimitive, applicationValues]
      exact ⟨rfl, rfl⟩
  | @cons data values advances decodes ih =>
      have nonempty : data ≠ [] := by
        rintro rfl
        have positive := advances.1
        have inside := advances.2
        rw [List.length_nil] at inside
        omega
      rw [fileApplicationDataIsPrimitive, if_neg nonempty, applicationValues, if_neg nonempty]
      simp only [if_pos advances, ih]
      exact ⟨trivial, trivial⟩

/-- The values of decoded pieces are those of the model. -/
theorem DecodedPieces.values_eq {library : BackupLibrary} {data : List UInt8}
    {pieces : List (ℕ × List UInt8)} {values : List (BacnetApplicationDataValue library.Double)}
    (decoded : DecodedPieces library.bacappDecodeApplicationData data 0 pieces values) :
    fileApplicationDataIsPrimitive library data = true ∧
      applicationValues library data = values := by
  have decodes := decodes_of_decodedPieces decoded
  rw [List.drop_zero] at decodes
  exact fileApplicationDataIsPrimitive_of_decodes decodes

/-- The text of the passes is the text that the record is printed with. -/
theorem returns_fileJsonApplicationValues (library : IntDecodingLibrary)
    (data : ApplicationData) :
    ∃ checked printed,
      Returns (fileJsonApplicationValuesPasses library.toBackupLibrary data.bytes)
        ⟨checked, printed, fileJsonApplicationValues library.toBackupLibrary data.bytes⟩ := by
  rcases decodedPieces_or_returns data.length_lt library.decodedLen_le (Nat.zero_le _) with
    ⟨pieces, values, decoded⟩ | ⟨offsets, fails⟩
  · rcases decoded.values_eq with ⟨primitive, isValues⟩
    refine ⟨pieces.map Prod.fst, pieces.map Prod.fst, ?_⟩
    rw [fileJsonApplicationValues, if_neg (ne_of_eq_of_ne primitive Bool.noConfusion), isValues]
    exact returns_passes_of_decodedPieces decoded
  · have primitive :
        fileApplicationDataIsPrimitive library.toBackupLibrary data.bytes = false := by
      apply Bool.eq_false_iff.mpr
      intro primitive
      rcases decodedPieces_of_decodes (decodes_applicationValues primitive)
        List.drop_zero.symm (Nat.zero_le _) with ⟨pieces, decoded⟩
      have same := fails.unique (returns_checkingPass data.length_lt decoded)
      exact Bool.false_ne_true (congrArg Prod.snd same)
    refine ⟨offsets, [], ?_⟩
    rw [fileJsonApplicationValues, if_pos primitive]
    exact returns_passes_of_fails fails

/--
The printed text holds the values of the pieces: it is that of the values with commas
between them, and a JSON array with an element for each when the library is as documented.
-/
structure PrintsValues (library : BackupLibrary)
    (values : List (BacnetApplicationDataValue library.Double)) (text : CString) : Prop where
  separated : text =
    "[".toList ++ commaSeparated (values.map (fileJsonApplicationValue library)) ++ "]".toList
  elements : library.Documented → ∃ elements, ValueText text (.array elements) ∧
    List.Forall₂ (IsApplicationValue library) values elements

theorem printsValues_of_eq {library : BackupLibrary}
    {values : List (BacnetApplicationDataValue library.Double)} {text : CString}
    (separated : text =
      "[".toList ++ commaSeparated (values.map (fileJsonApplicationValue library)) ++
        "]".toList) : PrintsValues library values text where
  separated
  elements := by
    intro documented
    rcases forall₂_applicationValues documented values with ⟨elements, texts, isValues⟩
    refine ⟨elements, ?_, isValues⟩
    rw [separated]
    exact valueText_array texts

/--
`file_json_application_values` ends for all application data and every decoder, with the
text that the record is printed with. Either the data is the encodings of values, one after
the other; then both passes decode where the encodings begin, and the text has one element
for each value. Or there are no such values; then nothing is decoded for printing, and the
text is a JSON array with one object, whose digits are those of all the bytes.
-/
theorem applicationData_kept (library : IntDecodingLibrary) (data : ApplicationData) :
    ∃ checked printed text,
      Returns (fileJsonApplicationValuesPasses library.toBackupLibrary data.bytes)
        ⟨checked, printed, text⟩ ∧
      text = fileJsonApplicationValues library.toBackupLibrary data.bytes ∧
      ((∃ pieces values,
        DecodedPieces library.bacappDecodeApplicationData data.bytes 0 pieces values ∧
        checked = pieces.map Prod.fst ∧ printed = pieces.map Prod.fst ∧
        PrintsValues library.toBackupLibrary values text) ∨
      ((¬∃ pieces values,
          DecodedPieces library.bacappDecodeApplicationData data.bytes 0 pieces values) ∧
        printed = [] ∧
        ∃ element, ValueText text (.array [element]) ∧
          IsHexObject "encoded" "data_hex" [] data.bytes element)) := by
  rcases returns_fileJsonApplicationValues library data with ⟨_, _, isText⟩
  rcases decodedPieces_or_returns data.length_lt library.decodedLen_le (Nat.zero_le _) with
    ⟨pieces, values, decoded⟩ | ⟨offsets, fails⟩
  · have returns := returns_passes_of_decodedPieces decoded
    have same := congrArg ApplicationValuesOutcome.text (returns.unique isText)
    exact ⟨_, _, _, returns, same, .inl ⟨pieces, values, decoded, rfl, rfl,
      printsValues_of_eq rfl⟩⟩
  · have returns := returns_passes_of_fails fails
    have same := congrArg ApplicationValuesOutcome.text (returns.unique isText)
    refine ⟨_, _, _, returns, same, .inr ⟨?_, rfl, valueText_encoded data.bytes⟩⟩
    rintro ⟨pieces, values, decoded⟩
    have succeeds := returns_checkingPass data.length_lt decoded
    have both := fails.unique succeeds
    exact Bool.false_ne_true (congrArg Prod.snd both)

end Values

/-- The decoder of an unsigned value less than 256. -/
def IntDecodingLibrary.unsignedPresentValue : IntDecodingLibrary where
  toBackupLibrary := .unsignedPresentValue
  decodedLen_int := by
    intro bytes
    simp only [BackupLibrary.unsignedPresentValue]
    split
    · simp
    · simp

/-- The values 5 and 6. -/
def ApplicationData.fiveAndSix : ApplicationData := ⟨[0x21, 5, 0x21, 6], by decide⟩

/-- The value 5, and a byte that is no value. -/
def ApplicationData.fiveAndRest : ApplicationData := ⟨[0x21, 5, 0x44], by decide⟩

theorem decodedPieces_fiveAndSix :
    DecodedPieces IntDecodingLibrary.unsignedPresentValue.bacappDecodeApplicationData
      ApplicationData.fiveAndSix.bytes 0 [(0, [0x21, 5]), (2, [0x21, 6])]
      [.unsignedInt 5, .unsignedInt 6] where
  contiguous := ⟨rfl, rfl, trivial⟩
  whole := rfl
  decoded := .cons ⟨List.cons_ne_nil _ _, rfl⟩ (.cons ⟨List.cons_ne_nil _ _, rfl⟩ .nil)

theorem checkingPass_fiveAndRest (rounds : ℕ) :
    checkingPass IntDecodingLibrary.unsignedPresentValue.bacappDecodeApplicationData
      ApplicationData.fiveAndRest.bytes (rounds + 2) 0 = some ([0, 2], false) := rfl

theorem applicationData_kept_fiveAndSix :
    let library := IntDecodingLibrary.unsignedPresentValue
    (∃ text elements,
      Returns (fileJsonApplicationValuesPasses library.toBackupLibrary
        ApplicationData.fiveAndSix.bytes) ⟨[0, 2], [0, 2], text⟩ ∧
      ValueText text (.array elements) ∧
      List.Forall₂ (IsApplicationValue library.toBackupLibrary) [.unsignedInt 5, .unsignedInt 6]
        elements) ∧
    ∃ text element,
      Returns (fileJsonApplicationValuesPasses library.toBackupLibrary
        ApplicationData.fiveAndRest.bytes) ⟨[0, 2], [], text⟩ ∧
      ValueText text (.array [element]) ∧
      IsHexObject "encoded" "data_hex" [] [0x21, 5, 0x44] element := by
  intro library
  have fails : Returns (fun rounds => checkingPass library.bacappDecodeApplicationData
      ApplicationData.fiveAndRest.bytes rounds 0) ([0, 2], false) :=
    .of_succ 1 fun rounds many => by
      rcases Nat.exists_eq_add_of_le' many with ⟨rounds, rfl⟩
      exact checkingPass_fiveAndRest rounds
  constructor
  · rcases applicationData_kept library .fiveAndSix with
      ⟨checked, printed, text, returns, -, ⟨pieces, values, decoded, rfl, rfl, prints⟩ | none⟩
    · have same := (returns_passes_of_decodedPieces decoded).unique
        (returns_passes_of_decodedPieces decodedPieces_fiveAndSix)
      have offsets := congrArg ApplicationValuesOutcome.checked same
      have isValues := decoded.values_eq.2.symm.trans decodedPieces_fiveAndSix.values_eq.2
      simp only at offsets
      rw [offsets] at returns
      subst isValues
      rcases prints.elements BackupLibrary.unsignedPresentValue_documented with
        ⟨elements, isArray, isElements⟩
      exact ⟨text, elements, returns, isArray, isElements⟩
    · exact absurd ⟨_, _, decodedPieces_fiveAndSix⟩ none.1
  · rcases applicationData_kept library .fiveAndRest with
      ⟨checked, printed, text, returns, -, ⟨pieces, values, decoded, -⟩ | ⟨-, rfl, element, isText,
        isHex⟩⟩
    · have both := fails.unique (returns_checkingPass ApplicationData.fiveAndRest.length_lt decoded)
      exact absurd (congrArg Prod.snd both) Bool.false_ne_true
    · have same := returns.unique (returns_passes_of_fails fails)
      have offsets := congrArg ApplicationValuesOutcome.checked same
      simp only at offsets
      subst offsets
      exact ⟨text, element, returns, isText, isHex⟩

end BacnetZephyr
