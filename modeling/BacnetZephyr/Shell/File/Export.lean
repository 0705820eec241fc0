import BacnetZephyr.Foundation.ByteStream
import BacnetZephyr.Shell.File.Transfer

/-!
# Exporting a file

`cmd_file_export` prints a JSON document with the metadata of a file and its content in
chunks. `ensures_cmdFileExport` gives the document of a file that does not change.
-/

namespace BacnetZephyr

open CLib Program ByteStream

/-- The chunks of the rest of a file, with their offsets. -/
abbrev exportChunks (config : FileShellConfig) (offset : ℕ) (rest : List UInt8) :
    List (ℕ × List UInt8) :=
  pieces config.chunkSize config.chunkSize_range.1 offset rest

section Command

variable (config : FileShellConfig) (library : FileShellLibrary)

/--
The loop of `cmd_file_export`: the checksum, or the value the command returns after
having released the transfer.
-/
def fileExportLoop (transfer : FileTransfer) (offset : ℕ) (crc : UInt32) :
    FileProgram (Except Int UInt32) :=
  if offset < transfer.fileSize then do
    let requested := min (transfer.fileSize - offset) config.chunkSize
    match ← fileTransferRead transfer offset requested with
    | .error err =>
        transfer.release
        return .error (← fileTransferChanged transfer.objectInstance err)
    | .ok data =>
        let bytesRead := data.1.length
        if bytesRead ≠ requested then
          shellError ("Short read while exporting at offset ".toList ++ unsignedText offset)
          transfer.release
          return .error (-Errno.eio)
        else
          let crc := library.crc32IeeeUpdate crc data.1
          let hex := library.bin2hex data.1 (2 * config.chunkSize + 1)
          if hex.length ≠ 2 * bytesRead then
            shellError "Unable to encode export data as hex".toList
            transfer.release
            return .error (-Errno.eio)
          else
            shellPrint (importChunkText transfer.objectInstance.toNat offset hex ++
              if offset + bytesRead < transfer.fileSize then ",".toList else [])
            fileExportLoop transfer (offset + bytesRead) crc
  else return .ok crc
termination_by transfer.fileSize - offset
decreasing_by
  have := config.chunkSize_range
  omega

def cmdFileExport (argv : List CString) : FileProgram Int := do
  match argv with
  | [_, value] =>
      match ← fileInstanceNumberParse library value with
      | .error err => return err
      | .ok objectInstance =>
          match ← fileTransferOpen objectInstance with
          | .error err => return err
          | .ok transfer =>
              shellPrint "\x7b".toList
              shellPrint ("\"instance\":".toList ++ unsignedText objectInstance.toNat ++
                ",".toList)
              shellFprintf "\"name\":".toList
              blockAccess transfer.name.block
              shellFprintf (fileJsonString transfer.name.text)
              shellPrint ",".toList
              shellFprintf "\"mime_type\":".toList
              blockAccess transfer.mimeType.block
              shellFprintf (fileJsonString transfer.mimeType.text)
              shellPrint ",".toList
              shellPrint ("\"size\":".toList ++ unsignedText transfer.fileSize ++ ",".toList)
              shellPrint ("\"read_only\":".toList ++
                (if transfer.readOnly then "true" else "false").toList ++ ",".toList)
              shellPrint "\"data\":[".toList
              match ← fileExportLoop config library transfer 0 0 with
              | .error err => return err
              | .ok crc =>
                  shellPrint "],".toList
                  shellPrint ("\"crc32\":\"".toList ++ hexWord crc.toNat ++ "\"".toList)
                  shellPrint "\x7d".toList
                  transfer.release
                  return 0
  | _ =>
      shellError "Usage: bacnet file export <instance>".toList
      return -Errno.einval

/-- The calls before the loop: the members in front of the data. -/
def exportOpening (objectInstance : UInt32) (transfer : FileTransfer) : List FileCall :=
  [.shellPrint "\x7b".toList,
    .shellPrint ("\"instance\":".toList ++ unsignedText objectInstance.toNat ++ ",".toList),
    .shellFprintf "\"name\":".toList,
    .blockAccess transfer.name.block,
    .shellFprintf (fileJsonString transfer.name.text),
    .shellPrint ",".toList,
    .shellFprintf "\"mime_type\":".toList,
    .blockAccess transfer.mimeType.block,
    .shellFprintf (fileJsonString transfer.mimeType.text),
    .shellPrint ",".toList,
    .shellPrint ("\"size\":".toList ++ unsignedText transfer.fileSize ++ ",".toList),
    .shellPrint ("\"read_only\":".toList ++
      (if transfer.readOnly then "true" else "false").toList ++ ",".toList),
    .shellPrint "\"data\":[".toList]

/-- The calls after a loop that has ended with a checksum. -/
def exportClosing (crc : UInt32) : List FileCall :=
  [.shellPrint "],".toList,
    .shellPrint ("\"crc32\":\"".toList ++ hexWord crc.toNat ++ "\"".toList),
    .shellPrint "\x7d".toList]

theorem cmdFileExport_eq (command value : CString) :
    cmdFileExport config library [command, value] = (do
      match ← fileInstanceNumberParse library value with
      | .error err => return err
      | .ok objectInstance =>
          match ← fileTransferOpen objectInstance with
          | .error err => return err
          | .ok transfer =>
              performAll (exportOpening objectInstance transfer)
              match ← fileExportLoop config library transfer 0 0 with
              | .error err => return err
              | .ok crc =>
                  performAll (exportClosing crc)
                  transfer.release
                  return 0) :=
  rfl

end Command

/-! ## The exported document -/

section Document

variable (config : FileShellConfig) (library : FileShellLibrary) (file : StoredFile)

def exportEntries : List CString :=
  (exportChunks config 0 file.content).map fun chunk =>
    importChunkText file.objectInstance.toNat chunk.1 (hexText chunk.2)

/-- The lines of the data entries: a comma follows every entry but the last. -/
def entryLines : List CString → List CString
  | [] => []
  | [entry] => [entry]
  | entry :: next :: rest => (entry ++ ",".toList) :: entryLines (next :: rest)

def exportCrc : UInt32 :=
  (exportChunks config 0 file.content).foldl
    (fun crc chunk => library.crc32IeeeUpdate crc chunk.2) 0

def exportHeader : List CString :=
  ["\x7b".toList,
    "\"instance\":".toList ++ unsignedText file.objectInstance.toNat ++ ",".toList,
    "\"name\":".toList ++ fileJsonString (file.name.getD []) ++ ",".toList,
    "\"mime_type\":".toList ++ fileJsonString (file.mimeType.getD []) ++ ",".toList,
    "\"size\":".toList ++ unsignedText file.content.length ++ ",".toList,
    "\"read_only\":".toList ++ (if file.readOnly then "true" else "false").toList ++
      ",".toList,
    "\"data\":[".toList]

def exportFooter : List CString :=
  ["],".toList,
    "\"crc32\":\"".toList ++ hexWord (exportCrc config library file).toNat ++ "\"".toList,
    "\x7d".toList]

def exportDocument : List CString :=
  exportHeader file ++ entryLines (exportEntries config file) ++ exportFooter config library file

end Document

/-! ## Exporting a file that does not change -/

section Unchanging

variable {config : FileShellConfig} {library : FileShellLibrary} {file : StoredFile}
  {allows : (call : FileCall) → call.Response → Prop}

def exportCalls (file : StoredFile) (chunk : ℕ × List UInt8) : List FileCall :=
  [.bacfileReadOffset file.objectInstance chunk.1 chunk.2.length,
    .shellPrint (importChunkText file.objectInstance.toNat chunk.1 (hexText chunk.2) ++
      if chunk.1 + chunk.2.length < file.content.length then ",".toList else [])]

/-- From an offset on, the loop prints the remaining chunks of the file. -/
theorem ensures_fileExportLoop (serves : Serves file allows) {transfer : FileTransfer}
    (captured : transfer.Of file) (offset : ℕ) (crc : UInt32) :
    FileEnsures allows (fileExportLoop config library transfer offset crc)
      (fun result => result =
        .ok ((exportChunks config offset (file.content.drop offset)).foldl
          (fun crc chunk => library.crc32IeeeUpdate crc chunk.2) crc))
      ((exportChunks config offset (file.content.drop offset)).flatMap (exportCalls file)) := by
  induction remaining : file.content.length - offset using Nat.strong_induction_on
    generalizing offset crc with
  | _ remaining ih =>
      have chunkSize := config.chunkSize_range
      rw [fileExportLoop, captured.fileSize]
      by_cases inside : offset < file.content.length
      · have notEmpty : file.content.drop offset ≠ [] := by
          intro empty
          have := List.drop_eq_nil_iff.mp empty
          omega
        have length : ((file.content.drop offset).take config.chunkSize).length =
            min (file.content.length - offset) config.chunkSize := by
          rw [List.length_take, List.length_drop, Nat.min_comm]
        have chunk : (file.content.drop offset).take
            (min (file.content.length - offset) config.chunkSize) =
              (file.content.drop offset).take config.chunkSize := by
          rw [List.take_eq_take_iff, List.length_drop]
          omega
        rw [if_pos inside, exportChunks, pieces_of_ne_nil notEmpty, List.flatMap_cons,
          List.foldl_cons, List.drop_drop, exportCalls, length]
        apply Ensures.observed_bind (ensures_fileTransferRead serves captured offset _)
        rintro _ ⟨⟨data, small⟩, rfl, bytes⟩
        have isChunk : data = (file.content.drop offset).take config.chunkSize :=
          bytes.trans chunk
        rw [← isChunk] at length
        have hex : library.bin2hex data (2 * config.chunkSize + 1) = hexText data :=
          library.bin2hex_eq _ _ (by omega)
        simp only [length, hex, length_hexText, ne_eq, not_true_eq_false, if_false]
        rw [← isChunk, captured.objectInstance]
        apply FileEnsures.observed_call rfl
        intro _ _
        have next := ih (file.content.length -
            (offset + min (file.content.length - offset) config.chunkSize)) (by omega)
          (offset + min (file.content.length - offset) config.chunkSize)
          (library.crc32IeeeUpdate crc data) rfl
        by_cases full : config.chunkSize ≤ file.content.length - offset
        · rw [Nat.min_eq_right full] at next ⊢
          exact next
        · -- the last chunk: nothing is left either way
          rw [exportChunks, List.drop_of_length_le (by omega), pieces_nil] at next
          rw [List.drop_of_length_le (by omega), pieces_nil]
          exact next
      · have empty : file.content.drop offset = [] := List.drop_eq_nil_iff.mpr (by omega)
        rw [if_neg inside, empty, exportChunks, pieces_nil]
        exact Ensures.pure rfl

def exportObservations (config : FileShellConfig) (library : FileShellLibrary)
    (file : StoredFile) : List FileCall :=
  [.shellPrint "\x7b".toList,
    .shellPrint ("\"instance\":".toList ++ unsignedText file.objectInstance.toNat ++
      ",".toList),
    .shellFprintf "\"name\":".toList,
    .shellFprintf (fileJsonString (file.name.getD [])),
    .shellPrint ",".toList,
    .shellFprintf "\"mime_type\":".toList,
    .shellFprintf (fileJsonString (file.mimeType.getD [])),
    .shellPrint ",".toList,
    .shellPrint ("\"size\":".toList ++ unsignedText file.content.length ++ ",".toList),
    .shellPrint ("\"read_only\":".toList ++
      (if file.readOnly then "true" else "false").toList ++ ",".toList),
    .shellPrint "\"data\":[".toList] ++
  ((exportChunks config 0 file.content).flatMap (exportCalls file) ++
  [.shellPrint "],".toList,
    .shellPrint ("\"crc32\":\"".toList ++
      hexWord (exportCrc config library file).toNat ++ "\"".toList),
    .shellPrint "\x7d".toList])

theorem ensures_cmdFileExport (serves : Serves file allows) {command value : CString}
    (parsed : library.bacnetStringToUint32 value = some file.objectInstance) :
    FileEnsures allows (cmdFileExport config library [command, value]) (fun rc => rc = 0)
      (exportObservations config library file) := by
  rw [cmdFileExport_eq]
  apply Ensures.quiet_bind (ensures_fileInstanceNumberParse parsed)
  rintro _ rfl
  apply Ensures.quiet_bind (ensures_fileTransferOpen serves)
  rintro _ ⟨transfer, rfl, captured⟩
  have document : exportObservations config library file =
      (exportOpening file.objectInstance transfer).filter FileCall.isObserved ++
        ((exportChunks config 0 file.content).flatMap (exportCalls file) ++
          exportClosing (exportCrc config library file)) := by
    rw [exportOpening, captured.name, captured.mimeType, captured.fileSize, captured.readOnly]
    rfl
  rw [document]
  apply Ensures.bind (FileEnsures.performAll _)
  intro _ _
  apply Ensures.bind (ensures_fileExportLoop serves captured 0 0)
  rintro _ rfl
  apply Ensures.bind_quiet (FileEnsures.performAll (exportClosing _))
  intro _ _
  apply Ensures.quiet_bind (ensures_fileTransferRelease _ _ _)
  intro _ _
  exact Ensures.pure rfl

end Unchanging

/-! ## The printed text -/

section Text

variable (config : FileShellConfig) (library : FileShellLibrary) (file : StoredFile)

theorem entryLines_cons (entry : CString) {rest : List CString} (more : rest ≠ []) :
    entryLines (entry :: rest) = (entry ++ ",".toList) :: entryLines rest := by
  rcases List.exists_cons_of_ne_nil more with ⟨next, others, rfl⟩
  rfl

/-- The lines of the chunks are the entries, with a comma after all but the last. -/
theorem standardOutput_exportCalls (offset : ℕ) (rest : List UInt8)
    (total : offset + rest.length = file.content.length) :
    standardOutput ((exportChunks config offset rest).flatMap (exportCalls file)) =
      joinLines (entryLines ((exportChunks config offset rest).map fun chunk =>
        importChunkText file.objectInstance.toNat chunk.1 (hexText chunk.2))) := by
  induction remaining : rest.length using Nat.strong_induction_on generalizing offset rest with
  | _ remaining ih =>
      have chunkSize := config.chunkSize_range
      by_cases empty : rest = []
      · rw [empty, exportChunks, pieces_nil]
        rfl
      · have positive := List.length_pos_iff.mpr empty
        rw [exportChunks, pieces_of_ne_nil empty]
        by_cases last : rest.drop config.chunkSize = []
        · have short : rest.length ≤ config.chunkSize := List.drop_eq_nil_iff.mp last
          rw [last, pieces_nil, List.take_of_length_le short]
          simp [standardOutput, joinLines, exportCalls, FileCall.output, entryLines, total]
        · have long : config.chunkSize < rest.length := by
            have := mt List.drop_eq_nil_iff.mpr last
            omega
          have more : (exportChunks config (offset + config.chunkSize)
              (rest.drop config.chunkSize)).map (fun chunk =>
                importChunkText file.objectInstance.toNat chunk.1 (hexText chunk.2)) ≠ [] := by
            rw [ne_eq, List.map_eq_nil_iff, exportChunks, pieces_eq_nil_iff]
            exact last
          have length : (rest.take config.chunkSize).length = config.chunkSize := by
            rw [List.length_take]
            omega
          have next := ih (rest.drop config.chunkSize).length (by rw [List.length_drop]; omega)
            (offset + config.chunkSize) (rest.drop config.chunkSize)
            (by rw [List.length_drop]; omega) rfl
          rw [List.map_cons, entryLines_cons _ more, List.flatMap_cons, joinLines,
            List.flatMap_cons, ← joinLines, standardOutput, List.flatMap_append, ← standardOutput,
            ← standardOutput, next]
          have comma : offset + config.chunkSize < file.content.length := by omega
          simp [standardOutput, exportCalls, FileCall.output, length, comma]

theorem standardOutput_exportObservations :
    standardOutput (exportObservations config library file) =
      joinLines (exportDocument config library file) := by
  have lines := standardOutput_exportCalls config file 0 file.content (by omega)
  rw [standardOutput] at lines
  simp only [exportDocument, exportHeader, exportFooter, exportEntries, exportObservations,
    joinLines, standardOutput, List.flatMap_append, List.flatMap_cons, List.flatMap_nil,
    FileCall.output, lines, List.append_assoc, List.append_nil]

end Text

end BacnetZephyr
