import BacnetZephyr.Foundation.Hex
import BacnetZephyr.Foundation.Program

/-!
# The calls of the file commands

The file commands of the shell are programs over the calls below: the BACnet task
lock, the File and Device objects, the allocator and the shell output. What they take
from libraries as pure functions is collected in `FileShellLibrary`, together with the
documented behaviour the commands rely on.

The pieces one function prints with `shell_fprintf` are joined to one output.
-/

namespace BacnetZephyr

open CLib

abbrev int32Max : ℕ := 2147483647

inductive FileCall where
  | bacnetLock
  | bacnetUnlock
  | bacfileValidInstance (objectInstance : UInt32)
  | bacfilePathname (objectInstance : UInt32)
  | bacfileNameAnsi (objectInstance : UInt32)
  | bacfileFileType (objectInstance : UInt32)
  | bacfileFileAccessStream (objectInstance : UInt32)
  | bacfileReadOnly (objectInstance : UInt32)
  | bacfileFileSize (objectInstance : UInt32)
  | bacfileReadOffset (objectInstance : UInt32) (offset requested : ℕ)
  | bacfileWriteOffset (objectInstance : UInt32) (offset : ℕ) (data : List UInt8)
  | deviceIsConfigurationFile (objectInstance : UInt32)
  | deviceObjectFunctionsFind (objectType : UInt32)
  | kMalloc (size : ℕ)
  | kFree (block : Option ℕ)
  /-- A use of an owned block. -/
  | blockAccess (block : ℕ)
  | shellFprintf (text : CString)
  /-- Text followed by a line end. -/
  | shellPrint (text : CString)
  | shellError (text : CString)
deriving DecidableEq

/--
The response to a call. A read stores at most the requested bytes; a null pointer is
`none`.
-/
@[reducible]
def FileCall.Response : FileCall → Type
  | .bacfileValidInstance _ | .bacfileFileAccessStream _ | .bacfileReadOnly _
  | .deviceIsConfigurationFile _ | .deviceObjectFunctionsFind _ => Bool
  | .bacfilePathname _ | .bacfileNameAnsi _ | .bacfileFileType _ => Option CString
  | .bacfileFileSize _ | .bacfileWriteOffset _ _ _ => ℕ
  | .bacfileReadOffset _ _ requested => { bytes : List UInt8 // bytes.length ≤ requested }
  | .kMalloc _ => Option ℕ
  | .bacnetLock | .bacnetUnlock | .kFree _ | .blockAccess _ | .shellFprintf _ | .shellPrint _
  | .shellError _ => Unit

abbrev FileProgram (α : Type) := Program FileCall FileCall.Response α

abbrev FileEvent := Program.Event FileCall FileCall.Response

abbrev FileWorld := Program.World FileCall FileCall.Response

abbrev FileCall.perform (op : FileCall) : FileProgram op.Response := Program.perform op

abbrev bacnetLock : FileProgram Unit := FileCall.perform .bacnetLock

abbrev bacnetUnlock : FileProgram Unit := FileCall.perform .bacnetUnlock

abbrev bacfileValidInstance (objectInstance : UInt32) : FileProgram Bool :=
  FileCall.perform (.bacfileValidInstance objectInstance)

abbrev bacfilePathname (objectInstance : UInt32) : FileProgram (Option CString) :=
  FileCall.perform (.bacfilePathname objectInstance)

abbrev bacfileNameAnsi (objectInstance : UInt32) : FileProgram (Option CString) :=
  FileCall.perform (.bacfileNameAnsi objectInstance)

abbrev bacfileFileType (objectInstance : UInt32) : FileProgram (Option CString) :=
  FileCall.perform (.bacfileFileType objectInstance)

abbrev bacfileFileAccessStream (objectInstance : UInt32) : FileProgram Bool :=
  FileCall.perform (.bacfileFileAccessStream objectInstance)

abbrev bacfileReadOnly (objectInstance : UInt32) : FileProgram Bool :=
  FileCall.perform (.bacfileReadOnly objectInstance)

abbrev bacfileFileSize (objectInstance : UInt32) : FileProgram ℕ :=
  FileCall.perform (.bacfileFileSize objectInstance)

abbrev bacfileReadOffset (objectInstance : UInt32) (offset requested : ℕ) :
    FileProgram { bytes : List UInt8 // bytes.length ≤ requested } :=
  FileCall.perform (.bacfileReadOffset objectInstance offset requested)

abbrev bacfileWriteOffset (objectInstance : UInt32) (offset : ℕ) (data : List UInt8) :
    FileProgram ℕ :=
  FileCall.perform (.bacfileWriteOffset objectInstance offset data)

abbrev deviceIsConfigurationFile (objectInstance : UInt32) : FileProgram Bool :=
  FileCall.perform (.deviceIsConfigurationFile objectInstance)

abbrev deviceObjectFunctionsFind (objectType : UInt32) : FileProgram Bool :=
  FileCall.perform (.deviceObjectFunctionsFind objectType)

abbrev kMalloc (size : ℕ) : FileProgram (Option ℕ) := FileCall.perform (.kMalloc size)

abbrev kFree (block : Option ℕ) : FileProgram Unit := FileCall.perform (.kFree block)

abbrev blockAccess (block : ℕ) : FileProgram Unit := FileCall.perform (.blockAccess block)

abbrev shellFprintf (text : CString) : FileProgram Unit := FileCall.perform (.shellFprintf text)

abbrev shellPrint (text : CString) : FileProgram Unit := FileCall.perform (.shellPrint text)

abbrev shellError (text : CString) : FileProgram Unit := FileCall.perform (.shellError text)

/-- `BACNET_SHELL_LOCK_HANDLER`: the handler under the task lock. -/
def bacnetShellLockHandler (handler : FileProgram Int) : FileProgram Int := do
  bacnetLock
  let status ← handler
  bacnetUnlock
  return status

/-! ## What can be seen of a run -/

/-- Output, and reads and writes of file contents. -/
def FileCall.isObserved : FileCall → Bool
  | .shellFprintf _ | .shellPrint _ | .shellError _ | .bacfileReadOffset _ _ _
  | .bacfileWriteOffset _ _ _ => true
  | _ => false

def observe (event : FileEvent) : Option FileCall :=
  if event.1.isObserved then some event.1 else none

def observations (trace : List FileEvent) : List FileCall := trace.filterMap observe

def FileCall.output : FileCall → CString
  | .shellFprintf text => text
  | .shellPrint text => text ++ ['\n']
  | _ => []

def standardOutput (calls : List FileCall) : CString := calls.flatMap FileCall.output

def joinLines (lines : List CString) : CString := lines.flatMap fun line => line ++ ['\n']

def printedLines (calls : List FileCall) : List CString :=
  calls.filterMap fun call =>
    match call with
    | .shellPrint text => some text
    | _ => none

def printedErrors (calls : List FileCall) : List CString :=
  calls.filterMap fun call =>
    match call with
    | .shellError text => some text
    | _ => none

/-- The reads of file contents: offsets and requested lengths. -/
def readRequests (calls : List FileCall) : List (ℕ × ℕ) :=
  calls.filterMap fun call =>
    match call with
    | .bacfileReadOffset _ offset requested => some (offset, requested)
    | _ => none

abbrev FileEnsures (allows : (call : FileCall) → call.Response → Prop) {α : Type}
    (program : FileProgram α) (good : α → Prop) (calls : List FileCall) : Prop :=
  program.Ensures allows observe good calls

section Rules

variable {allows : (call : FileCall) → call.Response → Prop} {α : Type} {good : α → Prop}
  {calls : List FileCall} {call : FileCall} {next : call.Response → FileProgram α}

theorem FileEnsures.quiet_call (quiet : call.isObserved = false)
    (rest : ∀ response, allows call response → FileEnsures allows (next response) good calls) :
    FileEnsures allows (call.perform >>= next) good calls :=
  Program.Ensures.quiet_call (fun response => by simp [observe, quiet]) rest

theorem FileEnsures.observed_call (observed : call.isObserved = true)
    (rest : ∀ response, allows call response → FileEnsures allows (next response) good calls) :
    FileEnsures allows (call.perform >>= next) good (call :: calls) :=
  Program.Ensures.observed_call (fun response => by simp [observe, observed]) rest

theorem FileEnsures.performAll (calls : List FileCall) :
    FileEnsures allows (Program.performAll calls) (fun _ => True)
      (calls.filter FileCall.isObserved) := by
  induction calls with
  | nil => exact Program.Ensures.pure trivial
  | cons call calls ih =>
      show FileEnsures allows (call.perform >>= fun _ => Program.performAll calls) _ _
      cases observed : call.isObserved with
      | true =>
          rw [List.filter_cons_of_pos observed]
          exact FileEnsures.observed_call observed fun _ _ => ih
      | false =>
          rw [List.filter_cons_of_neg (by simp [observed])]
          exact FileEnsures.quiet_call observed fun _ _ => ih

theorem ensures_bacnetShellLockHandler {handler : FileProgram Int} {good : Int → Prop}
    (ensures : FileEnsures allows handler good calls) :
    FileEnsures allows (bacnetShellLockHandler handler) good calls := by
  simp only [bacnetShellLockHandler]
  apply FileEnsures.quiet_call rfl
  intro _ _
  apply Program.Ensures.bind_quiet ensures
  intro status holds
  apply FileEnsures.quiet_call rfl
  intro _ _
  exact Program.Ensures.pure holds

end Rules

/-! ## Configuration and libraries -/

abbrev fileImportCommandOverhead : ℕ := 74

/-- The build configuration of the file shell; it passes the build assertion. -/
structure FileShellConfig where
  chunkSize : ℕ
  cmdBuffSize : ℕ
  chunkSize_range : 1 ≤ chunkSize ∧ chunkSize ≤ 64
  buildAssert : 2 * chunkSize + fileImportCommandOverhead < cmdBuffSize

/-- `struct bacnet_file_import_chunk`; a null pointer is `none`. -/
structure BacnetFileImportChunk where
  objectInstance : Option CString
  offset : Option CString
  data : Option CString
deriving DecidableEq

def importChunkText (objectInstance offset : ℕ) (hex : CString) : CString :=
  "\x7b\"instance\":".toList ++ unsignedText objectInstance ++ ",\"offset\":".toList ++
    unsignedText offset ++ ",\"data\":\"".toList ++ hex ++ "\"\x7d".toList

/-- The pure library functions of the transfer commands. -/
structure FileShellLibrary where
  bacnetStringToUint32 : CString → Option UInt32
  /-- `json_obj_parse` for the import chunk: the value returned and the chunk. -/
  jsonObjParse : CString → Int × BacnetFileImportChunk
  /-- `bin2hex`: the text stored in a buffer of the given size. -/
  bin2hex : List UInt8 → ℕ → CString
  /-- `hex2bin`: the bytes stored in a buffer of the given size. -/
  hex2bin : CString → ℕ → List UInt8
  crc32IeeeUpdate : UInt32 → List UInt8 → UInt32
  /-- The chunk of a JSON object with the three fields. -/
  jsonObjParse_chunk : ∀ objectInstance offset hex, (∀ c ∈ hex, isDigitOf 16 c) →
    jsonObjParse (importChunkText objectInstance offset hex) =
      (7, ⟨some (unsignedText objectInstance), some (unsignedText offset), some hex⟩)
  /-- The text is stored when there is room for it and its terminator. -/
  bin2hex_eq : ∀ data size, 2 * data.length < size → bin2hex data size = hexText data
  /-- Nothing is stored for text that is not made of pairs of digits. -/
  hex2bin_eq : ∀ hex size, hex.length % 2 = 0 → hex.length / 2 ≤ size →
    hex2bin hex size = (hexPairs hex).getD []

end BacnetZephyr
