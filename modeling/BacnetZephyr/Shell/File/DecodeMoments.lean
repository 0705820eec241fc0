import BacnetZephyr.Shell.File.Decode
import BacnetZephyr.Shell.File.DumpMoments

/-!
# Decodes of a backup file that is written to

`cmd_file_decode` takes the task lock twice for every record, once to read its window and
once to look up the object type. Other threads write to the file in between, and the
window of a record usually reaches into later records, which may be others when their turn
comes. `DecodedAlong` follows the loop through the contents of the moments;
`cmdFileDecode_moments` is the result for the command.
-/

namespace BacnetZephyr

open CLib Program ByteStream Framing Moments

/-! ## Records and moments -/

section Decode

variable {parser : FileShellLibrary} {library : BackupLibrary} {file : SharedFile}
  {moment offset : ℕ} {records : List (List UInt8 × BacnetCreateObjectData)} {value : Int}

/-- What is read at an offset when its turn comes. -/
def SharedFile.window (file : SharedFile) (library : BackupLibrary) (moment offset : ℕ) :
    List UInt8 :=
  ((file.contentAt moment).drop offset).take
    (min ((file.contentAt 0).length - offset) library.maxApdu)

/-- The record that is read at an offset when its turn comes. -/
def SharedFile.recordOf (file : SharedFile) (library : BackupLibrary) (moment offset : ℕ) :
    Except RecordError (ℕ × BacnetCreateObjectData) :=
  recordIn library file.supported (file.window library moment offset)

/--
The records and the result of the loop of a decode. A record is read at one moment, and
printed if the file is still small enough at the next one.
-/
inductive DecodedAlong (library : BackupLibrary) (file : SharedFile) :
    ℕ → ℕ → List (List UInt8 × BacnetCreateObjectData) → Int → Prop where
  | finished {moment offset : ℕ} (pastEnd : (file.contentAt 0).length ≤ offset) :
      DecodedAlong library file moment offset [] 0
  | tooLarge {moment offset : ℕ} (more : offset < (file.contentAt 0).length)
      (large : int32Max < (file.contentAt moment).length ∨
        int32Max < (file.contentAt (moment + 1)).length) :
      DecodedAlong library file moment offset [] (-Errno.eoverflow)
  | ended {moment offset : ℕ} (more : offset < (file.contentAt 0).length)
      (nothing : file.window library moment offset = []) :
      DecodedAlong library file moment offset [] (-Errno.eio)
  | rejected {moment offset : ℕ} {error : RecordError} (more : offset < (file.contentAt 0).length)
      (nonempty : file.window library moment offset ≠ [])
      (rejected : file.recordOf library moment offset = .error error) :
      DecodedAlong library file moment offset [] error.status
  | record {moment offset length : ℕ} {data : BacnetCreateObjectData}
      {records : List (List UInt8 × BacnetCreateObjectData)} {value : Int}
      (more : offset < (file.contentAt 0).length)
      (accepted : file.recordOf library moment offset = .ok (length, data))
      (later : DecodedAlong library file (moment + 2) (offset + length) records value) :
      DecodedAlong library file moment offset
        (((file.window library moment offset).take length, data) :: records) value

theorem recordIn_length {supported : UInt32 → Bool} {window : List UInt8} {length : ℕ}
    {data : BacnetCreateObjectData}
    (accepted : recordIn library supported window = .ok (length, data)) :
    0 < length ∧ (window.take length).length = length := by
  rcases recordIn_eq_ok accepted with ⟨advances, rfl, -⟩
  have inside := advances.2
  have positive := advances.toNat_pos
  refine ⟨positive, List.length_take_of_le ?_⟩
  omega

/-! ### The loop -/

/-- The records with their offsets. -/
def recordPieces : ℕ → List (List UInt8 × BacnetCreateObjectData) → List (ℕ × List UInt8)
  | _, [] => []
  | offset, (bytes, _) :: records =>
      (offset, bytes) :: recordPieces (offset + bytes.length) records

theorem DecodedAlong.reads (decoded : DecodedAlong library file moment offset records value) :
    ReadAlong file.contentAt 2 moment offset (recordPieces offset records) := by
  induction decoded with
  | finished | tooLarge | ended | rejected => exact .nil _ _
  | @record moment offset length data records value more accepted later ih =>
      have present : (file.window library moment offset).take length <+:
          (file.contentAt moment).drop offset :=
        (List.take_prefix _ _).trans (List.take_prefix _ _)
      rw [← (recordIn_length accepted).2] at ih
      exact .cons present ih

theorem DecodedAlong.inside (decoded : DecodedAlong library file moment offset records value)
    (before : offset ≤ (file.contentAt 0).length) :
    offset + totalLength records ≤ (file.contentAt 0).length := by
  induction decoded with
  | finished | tooLarge | ended | rejected => exact before
  | @record moment offset length data records value more accepted later ih =>
      have advance := recordIn_length accepted
      have window : (file.window library moment offset).length ≤
          (file.contentAt 0).length - offset := by
        rw [SharedFile.window, List.length_take]
        omega
      have short := advance.2
      rw [List.length_take] at short
      have rest := ih (by omega)
      rw [totalLength_cons, advance.2]
      omega

/-- The loop succeeds when it has come to the end of the captured size, and only then. -/
theorem DecodedAlong.complete (decoded : DecodedAlong library file moment offset records value) :
    value = 0 ↔ (file.contentAt 0).length ≤ offset + totalLength records := by
  induction decoded with
  | finished pastEnd => exact iff_of_true rfl (Nat.le_trans pastEnd (Nat.le_add_right _ _))
  | @tooLarge moment offset more large =>
      have failed : -Errno.eoverflow ≠ 0 := by decide
      have short : ¬(file.contentAt 0).length ≤ offset + totalLength ([] :
          List (List UInt8 × BacnetCreateObjectData)) := Nat.not_le.mpr more
      exact iff_of_false failed short
  | @ended moment offset more nothing =>
      have failed : -Errno.eio ≠ 0 := by decide
      have short : ¬(file.contentAt 0).length ≤ offset + totalLength ([] :
          List (List UInt8 × BacnetCreateObjectData)) := Nat.not_le.mpr more
      exact iff_of_false failed short
  | @rejected moment offset error more nonempty rejected =>
      have short : ¬(file.contentAt 0).length ≤ offset + totalLength ([] :
          List (List UInt8 × BacnetCreateObjectData)) := Nat.not_le.mpr more
      exact iff_of_false error.status_ne_zero short
  | record more accepted later ih =>
      rw [ih, totalLength_cons, (recordIn_length accepted).2, Nat.add_assoc]

/-- Reads that all see one content walk through the records of this content. -/
theorem DecodedAlong.of_same (decoded : DecodedAlong library file moment offset records value)
    (fits : (file.contentAt 0).length ≤ int32Max)
    (same : ∀ turn, turn ≤ 2 * records.length + 1 →
      file.contentAt (moment + turn) = file.contentAt 0) :
    ∃ tail error, Walk (recordAt library file.supported) ((file.contentAt 0).drop offset) records
        tail ∧ Stops (recordAt library file.supported) tail error ∧ value = exitStatus error := by
  have isWindow : ∀ {moment offset : ℕ}, file.contentAt moment = file.contentAt 0 →
      file.window library moment offset =
        ((file.contentAt 0).drop offset).take library.maxApdu := by
    intro moment offset here
    rw [SharedFile.window, here, List.take_eq_take_iff, List.length_drop]
    omega
  induction decoded with
  | finished pastEnd =>
      refine ⟨_, none, .here _, ?_, rfl⟩
      rw [List.drop_of_length_le pastEnd]
      exact .finished
  | @tooLarge moment offset more large =>
      have here := same 0 (by omega)
      have next := same 1 (by simp)
      rw [Nat.add_zero] at here
      rw [here, next] at large
      omega
  | @ended moment offset more nothing =>
      have here := same 0 (by omega)
      rw [Nat.add_zero] at here
      rw [isWindow here, List.take_eq_nil_iff, List.drop_eq_nil_iff] at nothing
      have := library.maxApdu_pos
      omega
  | @rejected moment offset error more nonempty rejected =>
      have here := same 0 (by omega)
      rw [Nat.add_zero] at here
      rw [SharedFile.recordOf, isWindow here] at rejected
      refine ⟨_, some error, .here _, .rejected ?_ rejected, rfl⟩
      rw [ne_eq, List.drop_eq_nil_iff]
      omega
  | @record moment offset length data records value more accepted later ih =>
      have here := same 0 (by omega)
      rw [Nat.add_zero] at here
      have advance := recordIn_length accepted
      rcases ih fun turn inside => by
        rw [Nat.add_assoc]
        exact same (2 + turn) (by rw [List.length_cons]; omega)
        with ⟨tail, error, walk, stops, isValue⟩
      rw [SharedFile.recordOf] at accepted
      rw [isWindow here] at accepted advance ⊢
      have long := advance.2
      rw [List.length_take, List.length_take] at long
      rw [List.take_take, Nat.min_eq_left (by omega)]
      refine ⟨tail, error, .step accepted ?_, stops, isValue⟩
      rw [List.drop_drop]
      exact walk

/-- The decoder accepts records only. -/
def RecordsOnly (library : BackupLibrary) : Prop :=
  ∀ window, Advances (library.createObjectDecodeServiceRequest window).1 window →
    IsRecord library (window.take (library.createObjectDecodeServiceRequest window).1.toNat)
      (library.createObjectDecodeServiceRequest window).2

theorem DecodedAlong.printable (recordsOnly : RecordsOnly library)
    (decoded : DecodedAlong library file moment offset records value) :
    ∀ record ∈ records, IsPrintable library file.supported record := by
  induction decoded with
  | finished | tooLarge | ended | rejected => simp
  | @record moment offset length data records value more accepted later ih =>
      rw [List.forall_mem_cons]
      refine ⟨?_, ih⟩
      have window : (file.window library moment offset).length ≤ library.maxApdu := by
        rw [SharedFile.window, List.length_take]
        omega
      have advance := (recordIn_length accepted).2
      rcases recordIn_eq_ok accepted with ⟨advances, isLength, isData, known, valid⟩
      have isRecord := recordsOnly _ advances
      rw [← isLength, ← isData] at isRecord
      rw [List.length_take] at advance
      exact
        { isRecord
          length_le := by
            rw [List.length_take]
            omega
          objectType := known
          initialValues := valid }

/-! ### The command -/

/-- A backup file whose second record is replaced while the first is printed. -/
def SharedFile.backup : SharedFile where
  objectInstance := 7
  pathname := "/lfs/backup".toList
  name := none
  mimeType := none
  readOnly := false
  pathname_ne := by decide
  initial := StoredFile.backup.content
  writes := fun gap => if gap = 2 then [.write 15 (emptyRecord 0x00 0x80 0x00 0x03).1] else []
  supported := fun objectType => objectType = 2 ∨ objectType = 48

end Decode

end BacnetZephyr
