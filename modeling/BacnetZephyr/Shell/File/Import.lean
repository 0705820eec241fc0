import BacnetZephyr.Shell.File.Export
import BacnetZephyr.Shell.File.Reference

/-!
# Importing a file

`cmd_file_import` takes one chunk as JSON text and writes its bytes at its offset.
`exportImport` says that the entries of an export, imported one after the other into an
empty file, reproduce the exported file.
-/

namespace BacnetZephyr

open CLib Program ByteStream

abbrev uint32Max : ℕ := 4294967295

/-- The digits of a number token, after the value of the digits before them. -/
def importDigits : ℕ → CString → Option ℕ
  | parsed, [] => some parsed
  | parsed, character :: rest =>
      if character.toNat < '0'.toNat ∨ '9'.toNat < character.toNat then none
      else
        let digit := character.toNat - '0'.toNat
        if (uint32Max - digit) / 10 < parsed then none
        else importDigits ((parsed * 10 + digit) % 2 ^ 32) rest

def fileImportUint32Parse (token : Option CString) : Option UInt32 :=
  match token with
  | none => none
  | some token =>
      if token.length = 0 ∨ 10 < token.length then none
      else (importDigits 0 token).map UInt32.ofNat

section Commands

variable (config : FileShellConfig) (library : FileShellLibrary)

def fileWriteHex (objectInstance : UInt32) (offset : ℕ) (hex : CString) : FileProgram Int := do
  if hex.length = 0 then
    shellError "Hex data must not be empty".toList
    return -Errno.einval
  else if 2 * config.chunkSize < hex.length then
    shellError ("Hex data exceeds the ".toList ++ unsignedText config.chunkSize ++
      "-byte chunk limit".toList)
    return -Errno.e2big
  else if hex.length % 2 ≠ 0 then
    shellError "Hex data must contain an even number of characters".toList
    return -Errno.einval
  else
    let dataLen := hex.length / 2
    let data := library.hex2bin hex config.chunkSize
    if data.length ≠ dataLen then
      shellError "Hex data contains a non-hexadecimal character".toList
      return -Errno.einval
    else
      match ← fileWritablePathRequire objectInstance with
      | .error err => return err
      | .ok _ =>
          let err ← fileStreamRequire objectInstance
          if err ≠ 0 then return err
          else
            let bytesWritten ← bacfileWriteOffset objectInstance offset data
            if bytesWritten ≠ dataLen then
              shellError ("Wrote ".toList ++ unsignedText bytesWritten ++ " of ".toList ++
                unsignedText dataLen ++ " bytes to file ".toList ++
                unsignedText objectInstance.toNat ++ " at offset ".toList ++ unsignedText offset)
              return -Errno.eio
            else
              shellPrint ("\x7b\"instance\":".toList ++ unsignedText objectInstance.toNat ++
                ",\"offset\":".toList ++ unsignedText offset ++ ",\"length\":".toList ++
                unsignedText dataLen ++ "\x7d".toList)
              return 0

def cmdFileWrite (argv : List CString) : FileProgram Int := do
  match argv with
  | [_, instanceText, offsetText, hex] =>
      match ← fileInstanceParse library instanceText with
      | .error err => return err
      | .ok objectInstance =>
          match ← fileOffsetParse library offsetText with
          | .error err => return err
          | .ok offset => fileWriteHex config library objectInstance offset hex
  | _ =>
      shellError "Usage: bacnet file write <instance> <offset> <hex>".toList
      return -Errno.einval

def cmdFileImport (argv : List CString) : FileProgram Int := do
  match argv with
  | [_, json] =>
      let (parsedFields, chunk) := library.jsonObjParse json
      if parsedFields ≠ 7 then
        shellError ("Import requires instance, offset, and data fields: ".toList ++
          (if parsedFields < 0 then "-".toList else []) ++ unsignedText parsedFields.natAbs)
        return -Errno.einval
      else
        match fileImportUint32Parse chunk.objectInstance, fileImportUint32Parse chunk.offset,
            chunk.data with
        | some objectInstance, some offset, some data =>
            if !(← bacfileValidInstance objectInstance) then
              shellError ("File instance ".toList ++ unsignedText objectInstance.toNat ++
                " does not exist".toList)
              return -Errno.einval
            else if int32Max < offset.toNat then
              shellError "Import offset is too large".toList
              return -Errno.einval
            else fileWriteHex config library objectInstance offset.toNat data
        | _, _, _ =>
            shellError "Import instance, offset, and data must be valid".toList
            return -Errno.einval
  | _ =>
      shellError ("Usage: bacnet file import ".toList ++
        "'\x7b\"instance\":N,\"offset\":N,\"data\":\"<hex>\"\x7d'".toList)
      return -Errno.einval

/-- The command `bacnet file import` given the entries one after the other. -/
def importEntries : List CString → FileProgram (List Int)
  | [] => return []
  | entry :: rest => do
      let rc ← bacnetShellLockHandler (cmdFileImport config library ["import".toList, entry])
      let rcs ← importEntries rest
      return rc :: rcs

def importCommandLine (entry : CString) : CString :=
  "bacnet file import '".toList ++ entry ++ "'".toList

end Commands

/-! ## Numbers of a chunk -/

theorem le_ofDigitChars (digits : CString) (parsed : ℕ) :
    parsed ≤ Nat.ofDigitChars 10 digits parsed := by
  induction digits generalizing parsed with
  | nil => simp
  | cons first rest ih =>
      rw [Nat.ofDigitChars_cons]
      have grown := ih (10 * parsed + (first.toNat - '0'.toNat))
      omega

/-- A digit is added to the value before it where the sum has 32 bits. -/
theorem importDigits_cons {first : Char} (digit : first.isDigit) (rest : CString) (parsed : ℕ) :
    importDigits parsed (first :: rest) =
      if 10 * parsed + (first.toNat - '0'.toNat) ≤ uint32Max then
        importDigits (10 * parsed + (first.toNat - '0'.toNat)) rest
      else none := by
  have bounds := (isDigit_iff first).mp digit
  have zero : '0'.toNat = 48 := rfl
  have nine : '9'.toNat = 57 := rfl
  rw [importDigits, if_neg (by omega)]
  simp only [uint32Max]
  by_cases room : 10 * parsed + (first.toNat - '0'.toNat) ≤ 4294967295
  · have value : (parsed * 10 + (first.toNat - '0'.toNat)) % 2 ^ 32 =
        10 * parsed + (first.toNat - '0'.toNat) := by
      rw [Nat.mul_comm, Nat.mod_eq_of_lt]
      omega
    rw [if_pos room, if_neg (by omega), value]
  · rw [if_neg room, if_pos (by omega)]

/-- Digits are read without overflow as long as their value has 32 bits. -/
theorem importDigits_of_le {digits : CString} {parsed : ℕ}
    (digit : ∀ character ∈ digits, character.isDigit)
    (fits : Nat.ofDigitChars 10 digits parsed ≤ uint32Max) :
    importDigits parsed digits = some (Nat.ofDigitChars 10 digits parsed) := by
  induction digits generalizing parsed with
  | nil => simp [importDigits]
  | cons first rest ih =>
      rw [List.forall_mem_cons] at digit
      rw [Nat.ofDigitChars_cons] at fits ⊢
      have extended := le_ofDigitChars rest (10 * parsed + (first.toNat - '0'.toNat))
      rw [importDigits_cons digit.1, if_pos (Nat.le_trans extended fits)]
      exact ih digit.2 fits

theorem length_unsignedText_le {number : ℕ} (fits : number ≤ uint32Max) :
    (unsignedText number).length ≤ 10 := by
  rw [Nat.length_toDigits_le_iff (by decide) (by decide)]
  simp only [uint32Max] at fits
  omega

theorem fileImportUint32Parse_unsignedText {number : ℕ} (fits : number ≤ uint32Max) :
    fileImportUint32Parse (some (unsignedText number)) = some (UInt32.ofNat number) := by
  have nonempty : 0 < (unsignedText number).length := Nat.length_toDigits_pos
  have short := length_unsignedText_le fits
  have value : Nat.ofDigitChars 10 (unsignedText number) 0 = number :=
    Nat.ofDigitChars_toDigits (by decide) (by decide)
  have digits : importDigits 0 (unsignedText number) =
      some (Nat.ofDigitChars 10 (unsignedText number) 0) :=
    importDigits_of_le (fun _ mem => isDigit_of_mem_toDigits mem) (by rw [value]; exact fits)
  have sized : ¬((unsignedText number).length = 0 ∨ 10 < (unsignedText number).length) := by omega
  simp only [fileImportUint32Parse]
  rw [if_neg sized, digits, value]
  rfl

/-! ## Importing into a writable file -/

structure WritableFile where
  objectInstance : UInt32
  pathname : CString
  pathname_ne : pathname ≠ []

/-- The answers of the file; data is stored as a whole. -/
def WritableFile.Answers (target : WritableFile) : (call : FileCall) → call.Response → Prop
  | .bacfileValidInstance objectInstance, valid =>
      objectInstance = target.objectInstance → valid = true
  | .bacfilePathname objectInstance, pathname =>
      objectInstance = target.objectInstance → pathname = some target.pathname
  | .bacfileFileAccessStream objectInstance, stream =>
      objectInstance = target.objectInstance → stream = true
  | .bacfileReadOnly objectInstance, readOnly =>
      objectInstance = target.objectInstance → readOnly = false
  | .bacfileWriteOffset objectInstance _ data, written =>
      objectInstance = target.objectInstance → written = data.length
  | _, _ => True

def fileWrites (objectInstance : UInt32) (calls : List FileCall) : List (ℕ × List UInt8) :=
  calls.filterMap fun call =>
    match call with
    | .bacfileWriteOffset written offset data =>
        if written = objectInstance then some (offset, data) else none
    | _ => none

/--
A world with the writable file, which stores what is written to it. Other File objects
do not exist.
-/
def WritableFile.world (target : WritableFile) : FileWorld where
  State := List UInt8
  respond := fun content call =>
    match call with
    | .bacfileValidInstance objectInstance => (objectInstance = target.objectInstance, content)
    | .bacfilePathname objectInstance =>
        (if objectInstance = target.objectInstance then some target.pathname else none, content)
    | .bacfileNameAnsi _ | .bacfileFileType _ => (none, content)
    | .bacfileFileAccessStream objectInstance =>
        (objectInstance = target.objectInstance, content)
    | .bacfileReadOnly _ => (false, content)
    | .bacfileFileSize objectInstance =>
        (if objectInstance = target.objectInstance then content.length else 0, content)
    | .bacfileReadOffset objectInstance offset requested =>
        if objectInstance = target.objectInstance then
          (⟨(content.drop offset).take requested, List.length_take_le _ _⟩, content)
        else (⟨[], Nat.zero_le _⟩, content)
    | .bacfileWriteOffset objectInstance offset data =>
        if objectInstance = target.objectInstance then
          (data.length, storeAt 0 content offset data)
        else (0, content)
    | .deviceIsConfigurationFile _ => (false, content)
    | .deviceObjectFunctionsFind _ => (false, content)
    | .kMalloc _ => (none, content)
    | .bacnetLock | .bacnetUnlock | .kFree _ | .blockAccess _ | .shellFprintf _ | .shellPrint _
    | .shellError _ => ((), content)

theorem WritableFile.world_answers (target : WritableFile) (content : List UInt8)
    (call : FileCall) : target.Answers call (target.world.respond content call).1 := by
  cases call <;> simp +contextual [WritableFile.Answers, WritableFile.world]

section Writable

variable {config : FileShellConfig} {library : FileShellLibrary} {target : WritableFile}

theorem ensures_fileWritablePathRequire :
    FileEnsures target.Answers (fileWritablePathRequire target.objectInstance)
      (fun required => required = .ok target.pathname) [] := by
  simp only [fileWritablePathRequire, filePathRequire]
  apply FileEnsures.quiet_call rfl
  intro pathname pathnameAllowed
  rw [pathnameAllowed rfl]
  rcases List.exists_cons_of_ne_nil target.pathname_ne with ⟨first, rest, path⟩
  simp only [path]
  apply FileEnsures.quiet_call rfl
  intro readOnly readOnlyAllowed
  rw [readOnlyAllowed rfl]
  exact Ensures.pure rfl

theorem ensures_fileStreamRequire :
    FileEnsures target.Answers (fileStreamRequire target.objectInstance) (fun err => err = 0)
      [] := by
  simp only [fileStreamRequire]
  apply FileEnsures.quiet_call rfl
  intro stream streamAllowed
  rw [streamAllowed rfl]
  exact Ensures.pure rfl

def importCalls (objectInstance : UInt32) (chunk : ℕ × List UInt8) : List FileCall :=
  [.bacfileWriteOffset objectInstance chunk.1 chunk.2,
    .shellPrint ("\x7b\"instance\":".toList ++ unsignedText objectInstance.toNat ++
      ",\"offset\":".toList ++ unsignedText chunk.1 ++ ",\"length\":".toList ++
      unsignedText chunk.2.length ++ "\x7d".toList)]

theorem ensures_fileWriteHex {data : List UInt8} (offset : ℕ) (nonempty : data ≠ [])
    (small : data.length ≤ config.chunkSize) :
    FileEnsures target.Answers
      (fileWriteHex config library target.objectInstance offset (hexText data)) (fun rc => rc = 0)
      (importCalls target.objectInstance (offset, data)) := by
  have positive := List.length_pos_iff.mpr nonempty
  have length := length_hexText data
  have half : (hexText data).length / 2 = data.length := by omega
  have decoded : library.hex2bin (hexText data) config.chunkSize = data := by
    rw [library.hex2bin_eq _ _ (by omega) (by omega), hexPairs_hexText, Option.getD_some]
  simp only [fileWriteHex, decoded, half]
  rw [if_neg (by omega), if_neg (by omega), if_neg (by omega), if_neg (by simp)]
  apply Ensures.quiet_bind ensures_fileWritablePathRequire
  rintro _ rfl
  apply Ensures.quiet_bind ensures_fileStreamRequire
  rintro _ rfl
  apply FileEnsures.observed_call rfl
  intro written writtenAllowed
  rw [writtenAllowed rfl, if_neg (by simp)]
  apply FileEnsures.observed_call rfl
  intro _ _
  exact Ensures.pure rfl

theorem ensures_cmdFileImport {command : CString} {offset : ℕ} {data : List UInt8}
    (inside : offset ≤ int32Max) (nonempty : data ≠ [])
    (small : data.length ≤ config.chunkSize) :
    FileEnsures target.Answers
      (cmdFileImport config library
        [command, importChunkText target.objectInstance.toNat offset (hexText data)])
      (fun rc => rc = 0) (importCalls target.objectInstance (offset, data)) := by
  have instanceBound := target.objectInstance.toNat_lt
  have offsetBack : (UInt32.ofNat offset).toNat = offset := by
    rw [UInt32.toNat_ofNat', Nat.mod_eq_of_lt]
    simp only [int32Max] at inside
    omega
  have number : fileImportUint32Parse (some (unsignedText target.objectInstance.toNat)) =
      some target.objectInstance := by
    rw [fileImportUint32Parse_unsignedText (by simp only [uint32Max]; omega), UInt32.ofNat_toNat]
  have place : fileImportUint32Parse (some (unsignedText offset)) = some (UInt32.ofNat offset) :=
    fileImportUint32Parse_unsignedText (by simp only [int32Max, uint32Max] at inside ⊢; omega)
  simp only [cmdFileImport,
    library.jsonObjParse_chunk _ _ _ (fun _ mem => isDigitOf_of_mem_hexText mem), number, place,
    offsetBack]
  rw [if_neg (by simp)]
  apply FileEnsures.quiet_call rfl
  intro valid validAllowed
  rw [validAllowed rfl]
  simp only [Bool.not_true, Bool.false_eq_true, if_false]
  rw [if_neg (by omega)]
  exact ensures_fileWriteHex offset nonempty small

theorem ensures_importEntries {chunks : List (ℕ × List UInt8)}
    (inside : ∀ chunk ∈ chunks, chunk.1 ≤ int32Max) (nonempty : ∀ chunk ∈ chunks, chunk.2 ≠ [])
    (small : ∀ chunk ∈ chunks, chunk.2.length ≤ config.chunkSize) :
    FileEnsures target.Answers
      (importEntries config library (chunks.map fun chunk =>
        importChunkText target.objectInstance.toNat chunk.1 (hexText chunk.2)))
      (fun rcs => rcs = List.replicate chunks.length 0)
      (chunks.flatMap (importCalls target.objectInstance)) := by
  induction chunks with
  | nil => exact Ensures.pure rfl
  | cons chunk chunks ih =>
      simp only [List.mem_cons, forall_eq_or_imp] at inside nonempty small
      have imported : FileEnsures target.Answers
          (cmdFileImport config library ["import".toList,
            importChunkText target.objectInstance.toNat chunk.1 (hexText chunk.2)])
          (fun rc => rc = 0) (importCalls target.objectInstance chunk) :=
        ensures_cmdFileImport inside.1 nonempty.1 small.1
      simp only [List.map_cons, List.flatMap_cons, importEntries]
      apply Ensures.bind (ensures_bacnetShellLockHandler imported)
      rintro _ rfl
      apply Ensures.bind_quiet (ih inside.2 nonempty.2 small.2)
      rintro _ rfl
      exact Ensures.pure rfl

theorem fileWrites_importCalls (objectInstance : UInt32) (chunks : List (ℕ × List UInt8)) :
    fileWrites objectInstance (chunks.flatMap (importCalls objectInstance)) = chunks := by
  induction chunks with
  | nil => rfl
  | cons chunk chunks ih =>
      rw [List.flatMap_cons, fileWrites, List.filterMap_append, ← fileWrites, ← fileWrites, ih]
      simp [fileWrites, importCalls]

end Writable

/-! ## The round trip -/

/-- The fixed text of an import command and ten digits for each number are 74 characters. -/
theorem length_importCommandLine (objectInstance offset : UInt32) (hex : CString) :
    (importCommandLine (importChunkText objectInstance.toNat offset.toNat hex)).length ≤
      hex.length + fileImportCommandOverhead := by
  have instanceBound := objectInstance.toNat_lt
  have offsetBound := offset.toNat_lt
  have instanceDigits : (unsignedText objectInstance.toNat).length ≤ 10 :=
    length_unsignedText_le (by simp only [uint32Max]; omega)
  have offsetDigits : (unsignedText offset.toNat).length ≤ 10 :=
    length_unsignedText_le (by simp only [uint32Max]; omega)
  have command : ("bacnet file import '".toList).length = 20 := rfl
  have quote : ("'".toList).length = 1 := rfl
  have instanceName : ("\x7b\"instance\":".toList).length = 12 := rfl
  have offsetName : (",\"offset\":".toList).length = 10 := rfl
  have dataName : (",\"data\":\"".toList).length = 9 := rfl
  have closing : ("\"\x7d".toList).length = 2 := rfl
  have overhead : fileImportCommandOverhead = 74 := rfl
  have sum : ∀ a b c d e f g h i : CString, (a ++ (b ++ c ++ d ++ e ++ f ++ g ++ h) ++ i).length =
      a.length + (b.length + c.length + d.length + e.length + f.length + g.length + h.length) +
        i.length := by
    simp only [List.length_append, implies_true]
  unfold importCommandLine importChunkText
  rw [sum, command, instanceName, offsetName, dataName, closing, quote]
  omega

theorem importCommandLine_fits (config : FileShellConfig) (objectInstance offset : UInt32)
    {hex : CString} (chunk : hex.length ≤ 2 * config.chunkSize) :
    (importCommandLine (importChunkText objectInstance.toNat offset.toNat hex)).length <
      config.cmdBuffSize := by
  have length := length_importCommandLine objectInstance offset hex
  have assertion := config.buildAssert
  omega

/--
A file that does not change is exported as its document, and the entries of the document,
imported one after the other into an empty file, leave the content of the file. All
command lines fit into the command buffer.
-/
theorem exportImport (config : FileShellConfig) (library : FileShellLibrary) (file : StoredFile)
    (world : FileWorld) (state : world.State) (command value : CString)
    (parsed : library.bacnetStringToUint32 value = some file.objectInstance)
    (unchanged : ∀ event ∈ ((cmdFileExport config library [command, value]).run world state).trace,
      file.Answers event.1 event.2) :
    ((cmdFileExport config library [command, value]).run world state).value = 0 ∧
    standardOutput
        (observations ((cmdFileExport config library [command, value]).run world state).trace) =
      joinLines (exportDocument config library file) ∧
    (∀ (target : WritableFile), target.objectInstance = file.objectInstance →
      ∀ (world' : FileWorld) (state' : world'.State),
      (∀ event ∈ ((importEntries config library (exportEntries config file)).run world'
        state').trace, target.Answers event.1 event.2) →
      ((importEntries config library (exportEntries config file)).run world' state').value =
        List.replicate (exportEntries config file).length 0 ∧
      ∀ content, Written 0 []
          (fileWrites file.objectInstance (observations
            ((importEntries config library (exportEntries config file)).run world' state').trace))
          content ↔
        content = file.content) ∧
    (∀ entry ∈ exportEntries config file, (importCommandLine entry).length < config.cmdBuffSize) ∧
    ∀ (objectInstance offset : UInt32) (hex : CString), hex.length ≤ 2 * config.chunkSize →
      (importCommandLine (importChunkText objectInstance.toNat offset.toNat hex)).length <
        config.cmdBuffSize := by
  have serves : Serves file file.Answers := fun _ _ allowed => allowed
  have exported := (ensures_cmdFileExport serves parsed).sound world state unchanged
  have fits := fun (objectInstance offset : UInt32) (hex : CString) =>
    @importCommandLine_fits config objectInstance offset hex
  refine ⟨exported.1, ?_, ?_, ?_, fits⟩
  · rw [observations, exported.2]
    exact standardOutput_exportObservations config library file
  · intro target same world' state' accepted
    have inside : ∀ chunk ∈ exportChunks config 0 file.content, chunk.1 ≤ int32Max := by
      intro chunk mem
      have := (mem_pieces mem).2.2
      have := file.content_le
      omega
    have imported := @ensures_importEntries config library target _ inside
      (fun _ mem => (mem_pieces mem).1) (fun _ mem => (mem_pieces mem).2.1)
    rw [same, ← exportEntries] at imported
    have outcome := imported.sound world' state' accepted
    have written : ∀ content, Written 0 [] (exportChunks config 0 file.content) content ↔
        content = [] ++ pieceData (exportChunks config 0 file.content) := fun content =>
      written_iff_of_contiguous (contiguous_pieces)
    simp only [List.nil_append, pieceData_pieces] at written
    refine ⟨?_, ?_⟩
    · rw [outcome.1, exportEntries, List.length_map]
    · rw [observations, outcome.2, fileWrites_importCalls]
      exact written
  · intro entry mem
    rcases List.mem_map.mp mem with ⟨chunk, memChunk, rfl⟩
    have properties := mem_pieces memChunk
    have bound := file.content_le
    have offset : chunk.1 = (UInt32.ofNat chunk.1).toNat := by
      rw [UInt32.toNat_ofNat', Nat.mod_eq_of_lt]
      simp only [int32Max] at bound
      omega
    rw [offset]
    apply fits
    rw [length_hexText]
    omega

/-- Two bytes in a chunk. -/
def FileShellConfig.pairs : FileShellConfig where
  chunkSize := 2
  cmdBuffSize := 256
  chunkSize_range := by decide
  buildAssert := by decide

/-- File 7 with five bytes. -/
def StoredFile.five : StoredFile :=
  { StoredFile.plain 7 [0, 1, 254, 255, 16] (by decide) with
    name := some "File \"7\"".toList
    readOnly := true }

/-- An empty file 7 that can be written. -/
def WritableFile.seven : WritableFile where
  objectInstance := 7
  pathname := "/restore".toList
  pathname_ne := by decide

/-- The round trip of five bytes in three chunks. -/
theorem exportImport_five :
    ((cmdFileExport .pairs .reference ["export".toList, "7".toList]).run
      StoredFile.five.world (0 : ℕ)).value = 0 ∧
    ((importEntries .pairs .reference (exportEntries .pairs .five)).run
      WritableFile.seven.world ([] : List UInt8)).value =
        List.replicate (exportEntries .pairs .five).length 0 ∧
    ∀ content, Written 0 [] (fileWrites 7 (observations
        ((importEntries .pairs .reference (exportEntries .pairs .five)).run
          WritableFile.seven.world ([] : List UInt8)).trace)) content ↔
      content = [0, 1, 254, 255, 16] := by
  have exported := exportImport .pairs .reference .five StoredFile.five.world (0 : ℕ)
    "export".toList "7".toList rfl (mem_trace_allowed StoredFile.five.world_answers _ _)
  have imported := exported.2.2.1 .seven rfl WritableFile.seven.world ([] : List UInt8)
    (mem_trace_allowed WritableFile.seven.world_answers _ _)
  exact ⟨exported.1, imported⟩

end BacnetZephyr
