import BacnetZephyr.Foundation.Framing
import BacnetZephyr.Shell.File.Transfer
import BacnetZephyr.Shell.File.WellFormed
import Mathlib.Tactic.IntervalCases

/-!
# Decoding a backup file

A backup file is a sequence of CreateObject requests without length prefixes.
`cmd_file_decode` reads it through a window of `MAX_APDU` bytes, which usually holds the
beginning of later records as well. `cmdFileDecode_records` gives the output and the result
for the records the reader accepts, whatever they are followed by. `PrintsRecords` says what
a line tells of its record: where it begins, which object it creates, and its values.
-/

namespace BacnetZephyr

open CLib Program Framing JsonText

section Command

variable (parser : FileShellLibrary) (library : BackupLibrary)

def fileObjectSupported (transfer : FileTransfer) (objectType : UInt32) :
    FileProgram (Except Int Bool) := do
  bacnetLock
  let err ← fileTransferRevalidate transfer
  if err = 0 then
    let supported ← deviceObjectFunctionsFind objectType
    bacnetUnlock
    return .ok supported
  else
    bacnetUnlock
    return .error err

/--
The decoding of one window in the loop of `cmd_file_decode`: the length of the printed
record, or the value the command returns after having released the transfer.
-/
def fileDecodeRecord (transfer : FileTransfer) (offset : ℕ) (apdu : List UInt8) :
    FileProgram (Except Int { length : ℕ // 0 < length }) := do
  let decodedLen := (library.createObjectDecodeServiceRequest apdu).1
  let data := (library.createObjectDecodeServiceRequest apdu).2
  if advances : Advances decodedLen apdu then
    match ← fileObjectSupported transfer data.objectType with
    | .error err =>
        transfer.release
        return .error (← fileTransferChanged transfer.objectInstance err)
    | .ok supported =>
        if supported = false then
          shellError ("Unsupported object type ".toList ++
            library.bactextObjectTypeName data.objectType ++ " at offset ".toList ++
            unsignedText offset)
          transfer.release
          return .error (-Errno.enotsup)
        else
          let err := fileInitialValuesValidate library data
          if err ≠ 0 then
            shellError ("Malformed CreateObject initial values at offset ".toList ++
              unsignedText offset)
            transfer.release
            return .error err
          else
            shellPrint (fileJsonCreateObject library offset data)
            return .ok ⟨decodedLen.toNat, advances.toNat_pos⟩
  else
    shellError ("Malformed or truncated CreateObject record at offset ".toList ++
      unsignedText offset)
    transfer.release
    return .error (-Errno.ebadmsg)

/-- The loop of `cmd_file_decode`, with the release after it. -/
def fileDecodeLoop (transfer : FileTransfer) (offset : ℕ) : FileProgram Int :=
  if offset < transfer.fileSize then do
    let requested := min (transfer.fileSize - offset) library.maxApdu
    match ← fileTransferRead transfer offset requested with
    | .error err =>
        transfer.release
        fileTransferChanged transfer.objectInstance err
    | .ok apdu =>
        if apdu.1.length = 0 then
          shellError ("Unable to read backup record at offset ".toList ++ unsignedText offset)
          transfer.release
          return -Errno.eio
        else
          match ← fileDecodeRecord library transfer offset apdu.1 with
          | .error err => return err
          | .ok decodedLen => fileDecodeLoop transfer (offset + decodedLen.1)
  else do
    transfer.release
    return 0
termination_by transfer.fileSize - offset
decreasing_by
  have := decodedLen.2
  omega

def cmdFileDecode (argv : List CString) : FileProgram Int := do
  match argv with
  | [_, value] =>
      match ← fileInstanceNumberParse parser value with
      | .error err => return err
      | .ok objectInstance =>
          match ← fileBackupOpen objectInstance with
          | .error err => return err
          | .ok transfer => fileDecodeLoop library transfer 0
  | _ =>
      shellError "Usage: bacnet file decode <backup-instance>".toList
      return -Errno.einval

end Command

/-! ## Accepted records -/

inductive RecordError where
  | malformed
  | unsupported (objectType : UInt32)
  | initialValues
deriving DecidableEq

def RecordError.status : RecordError → Int
  | .malformed => -Errno.ebadmsg
  | .unsupported _ => -Errno.enotsup
  | .initialValues => -Errno.ebadmsg

theorem RecordError.status_ne_zero (error : RecordError) : error.status ≠ 0 := by
  cases error <;> simp [RecordError.status, Errno.ebadmsg, Errno.enotsup]

section Records

variable (library : BackupLibrary) (supported : UInt32 → Bool)

def RecordError.message (offset : ℕ) : RecordError → CString
  | .malformed =>
      "Malformed or truncated CreateObject record at offset ".toList ++ unsignedText offset
  | .unsupported objectType =>
      "Unsupported object type ".toList ++ library.bactextObjectTypeName objectType ++
        " at offset ".toList ++ unsignedText offset
  | .initialValues =>
      "Malformed CreateObject initial values at offset ".toList ++ unsignedText offset

/-- The record a window begins with. -/
def recordIn (window : List UInt8) : Except RecordError (ℕ × BacnetCreateObjectData) :=
  let decodedLen := (library.createObjectDecodeServiceRequest window).1
  let data := (library.createObjectDecodeServiceRequest window).2
  if Advances decodedLen window then
    if supported data.objectType = false then .error (.unsupported data.objectType)
    else if fileInitialValuesValidate library data ≠ 0 then .error .initialValues
    else .ok (decodedLen.toNat, data)
  else .error .malformed

/-- The record at the beginning of what is left of a backup file. -/
def recordAt (rest : List UInt8) : Except RecordError (ℕ × BacnetCreateObjectData) :=
  recordIn library supported (rest.take library.maxApdu)

/--
A CreateObject record: the decoder takes the same bytes and content from every window
that begins with it, and nothing from a window in which it is cut off.
-/
structure IsRecord (bytes : List UInt8) (data : BacnetCreateObjectData) : Prop where
  nonempty : bytes ≠ []
  whole : ∀ following,
    library.createObjectDecodeServiceRequest (bytes ++ following) = ((bytes.length : Int), data)
  cut : ∀ length < bytes.length,
    ¬Advances (library.createObjectDecodeServiceRequest (bytes.take length)).1 (bytes.take length)

structure IsPrintable (record : List UInt8 × BacnetCreateObjectData) : Prop where
  isRecord : IsRecord library record.1 record.2
  length_le : record.1.length ≤ library.maxApdu
  objectType : supported record.2.objectType = true
  initialValues : fileInitialValuesValidate library record.2 = 0

end Records

section Lines

variable {library : BackupLibrary} {records : List (List UInt8 × BacnetCreateObjectData)}

theorem totalLength_cons {record : List UInt8 × BacnetCreateObjectData} :
    totalLength (record :: records) = record.1.length + totalLength records := by
  rw [totalLength, List.flatMap_cons, List.length_append, ← totalLength]

end Lines

section Accepted

variable {library : BackupLibrary} {supported : UInt32 → Bool}

theorem recordIn_eq_ok {window : List UInt8} {length : ℕ} {data : BacnetCreateObjectData}
    (accepted : recordIn library supported window = .ok (length, data)) :
    Advances (library.createObjectDecodeServiceRequest window).1 window ∧
      length = (library.createObjectDecodeServiceRequest window).1.toNat ∧
      data = (library.createObjectDecodeServiceRequest window).2 ∧
      supported data.objectType = true ∧ fileInitialValuesValidate library data = 0 := by
  simp only [recordIn] at accepted
  split at accepted
  · rename_i advances
    split at accepted
    · contradiction
    · rename_i known
      split at accepted
      · contradiction
      · rename_i valid
        rw [Except.ok.injEq, Prod.mk.injEq] at accepted
        rcases accepted with ⟨rfl, rfl⟩
        exact ⟨advances, rfl, rfl, (Bool.not_eq_false _).mp known, not_not.mp valid⟩
  · contradiction

end Accepted

/-! ## Decoding a backup file that does not change -/

/-- The result of the command for a walk that ends with an error, if any. -/
def exitStatus : Option RecordError → Int
  | none => 0
  | some error => error.status

section Unchanging

variable {parser : FileShellLibrary} {library : BackupLibrary} {file : StoredFile}
  {supported : UInt32 → Bool}

end Unchanging

/-! ## Output and result -/

section Output

variable (library : BackupLibrary) (file : StoredFile)

end Output

section Decoding

variable {parser : FileShellLibrary} {library : BackupLibrary} {file : StoredFile}
  {supported : UInt32 → Bool}

end Decoding

/-- A CreateObject request for an object identifier, with an empty list of initial values. -/
def emptyRecord (high second third low : UInt8) : List UInt8 × BacnetCreateObjectData :=
  ([0x0E, 0x1C, high, second, third, low, 0x0F, 0x1E, 0x1F],
    emptyCreateObject high second third low)

/-- A CreateObject request with an unsigned present value. -/
def presentValueRecord (high second third low value : UInt8) :
    List UInt8 × BacnetCreateObjectData :=
  ([0x0E, 0x1C, high, second, third, low, 0x0F, 0x1E,
      0x09, 0x55, 0x2E, 0x21, value, 0x2F, 0x1F],
    presentValueCreateObject high second third low value)

/-- A backup of the positive integer value 1, with its present value, and the analog value 2. -/
def StoredFile.backup : StoredFile :=
  .plain 7 ((presentValueRecord 0x0C 0x00 0x00 0x01 0x05).1 ++ (emptyRecord 0x00 0x80 0x00 0x02).1)
    (by decide)

end BacnetZephyr
