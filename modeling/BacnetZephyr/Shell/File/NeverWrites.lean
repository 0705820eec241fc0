import BacnetZephyr.Shell.File.Threads

/-!
# The long file commands never write

They only look at the objects, whatever the answers: `neverWrites_longFileCommand`.
-/

namespace BacnetZephyr

open CLib Program Sections

/-- The program never writes a file. -/
abbrev NeverWrites {α : Type} (program : FileProgram α) : Prop :=
  Avoids (fun call => call.isWrite = true) program

section NeverWrites

variable {config : FileShellConfig} {library : FileShellLibrary} {α : Type}

theorem OnlyLooks.neverWrites {handler : FileProgram α} (looks : OnlyLooks handler) :
    NeverWrites handler :=
  Avoids.mono looks fun _ => Or.inr

/-- The rule of a call that does not write. -/
theorem neverWrites_call {call : FileCall} (other : call.isWrite = false)
    {next : call.Response → FileProgram α} (rest : ∀ response, NeverWrites (next response)) :
    NeverWrites (call.perform >>= next) := by
  apply Avoids.call _ rest
  rw [other]
  exact Bool.false_ne_true

theorem neverWrites_reported (text : CString) (result : α) :
    NeverWrites (do
      shellError text
      return result) :=
  neverWrites_call rfl fun _ => Avoids.pure result

theorem neverWrites_bacnetShellLockHandler {handler : FileProgram Int}
    (never : NeverWrites handler) : NeverWrites (bacnetShellLockHandler handler) := by
  unfold bacnetShellLockHandler
  apply neverWrites_call rfl
  intro _
  apply never.bind
  intro status
  apply neverWrites_call rfl
  exact fun _ => Avoids.pure status

theorem neverWrites_fileCstringOwn (value : Option CString) :
    NeverWrites (fileCstringOwn value) := by
  unfold fileCstringOwn
  apply neverWrites_call rfl
  intro allocated
  split
  · exact Avoids.pure _
  · apply neverWrites_call rfl
    exact fun _ => Avoids.pure _

theorem neverWrites_fileTransferRelease (pathname name mimeType : Option OwnedString) :
    NeverWrites (fileTransferRelease pathname name mimeType) := by
  unfold fileTransferRelease
  apply neverWrites_call rfl
  intro _
  apply neverWrites_call rfl
  intro _
  exact neverWrites_call rfl fun _ => Avoids.pure _

theorem FileTransfer.neverWrites_release (transfer : FileTransfer) :
    NeverWrites transfer.release :=
  neverWrites_fileTransferRelease _ _ _

theorem neverWrites_fileTransferCapture (objectInstance : UInt32) :
    NeverWrites (fileTransferCapture objectInstance) := by
  unfold fileTransferCapture
  apply neverWrites_call rfl
  intro valid
  split
  · exact Avoids.pure _
  apply neverWrites_call rfl
  intro pathname
  split
  · exact Avoids.pure _
  · exact Avoids.pure _
  apply neverWrites_call rfl
  intro stream
  split
  · exact Avoids.pure _
  apply neverWrites_call rfl
  intro fileSize
  split
  · apply (neverWrites_fileCstringOwn _).bind
    intro pathname
    split
    · exact Avoids.pure _
    apply neverWrites_call rfl
    intro name
    apply (neverWrites_fileCstringOwn _).bind
    intro name
    split
    · exact (neverWrites_fileTransferRelease _ _ _).bind fun _ => Avoids.pure _
    apply neverWrites_call rfl
    intro mimeType
    apply (neverWrites_fileCstringOwn _).bind
    intro mimeType
    split
    · exact (neverWrites_fileTransferRelease _ _ _).bind fun _ => Avoids.pure _
    apply neverWrites_call rfl
    exact fun _ => Avoids.pure _
  · exact Avoids.pure _

theorem neverWrites_fileTransferRevalidate (transfer : FileTransfer) :
    NeverWrites (fileTransferRevalidate transfer) := by
  unfold fileTransferRevalidate
  apply neverWrites_call rfl
  intro valid
  split
  · exact Avoids.pure _
  apply neverWrites_call rfl
  intro pathname
  split
  · exact Avoids.pure _
  apply neverWrites_call rfl
  intro _
  split
  · exact Avoids.pure _
  apply neverWrites_call rfl
  intro stream
  split
  · exact Avoids.pure _
  apply neverWrites_call rfl
  intro fileSize
  split
  · exact Avoids.pure _
  · exact Avoids.pure _

theorem neverWrites_fileTransferStatus (objectInstance : UInt32) (err : Int) (backup : Bool) :
    NeverWrites (fileTransferStatus objectInstance err backup) := by
  unfold fileTransferStatus
  dsimp only
  split_ifs
  all_goals first | exact neverWrites_reported _ _ | exact Avoids.pure _

theorem neverWrites_fileTransferChanged (objectInstance : UInt32) (err : Int) :
    NeverWrites (fileTransferChanged objectInstance err) := by
  unfold fileTransferChanged
  split
  · exact neverWrites_reported _ _
  · exact neverWrites_reported _ _

theorem neverWrites_fileTransferOpen (objectInstance : UInt32) :
    NeverWrites (fileTransferOpen objectInstance) := by
  unfold fileTransferOpen
  apply neverWrites_call rfl
  intro _
  apply (neverWrites_fileTransferCapture objectInstance).bind
  intro captured
  apply neverWrites_call rfl
  intro _
  split
  · exact (neverWrites_fileTransferStatus _ _ _).bind fun _ => Avoids.pure _
  · exact Avoids.pure _

theorem neverWrites_fileBackupOpen (objectInstance : UInt32) :
    NeverWrites (fileBackupOpen objectInstance) := by
  unfold fileBackupOpen
  apply neverWrites_call rfl
  intro _
  apply (neverWrites_fileTransferCapture objectInstance).bind
  intro captured
  split
  · apply neverWrites_call rfl
    intro _
    exact (neverWrites_fileTransferStatus _ _ _).bind fun _ => Avoids.pure _
  · apply neverWrites_call rfl
    intro configured
    split
    · apply (FileTransfer.neverWrites_release _).bind
      intro _
      apply neverWrites_call rfl
      intro _
      exact (neverWrites_fileTransferStatus _ _ _).bind fun _ => Avoids.pure _
    · apply neverWrites_call rfl
      exact fun _ => Avoids.pure _

theorem neverWrites_fileTransferRead (transfer : FileTransfer) (offset requested : ℕ) :
    NeverWrites (fileTransferRead transfer offset requested) := by
  unfold fileTransferRead
  apply neverWrites_call rfl
  intro _
  apply (neverWrites_fileTransferRevalidate transfer).bind
  intro err
  split
  · apply neverWrites_call rfl
    intro data
    apply neverWrites_call rfl
    exact fun _ => Avoids.pure _
  · apply neverWrites_call rfl
    exact fun _ => Avoids.pure _

theorem neverWrites_fileInstanceNumberParse (value : CString) :
    NeverWrites (fileInstanceNumberParse library value) := by
  unfold fileInstanceNumberParse
  split
  · exact neverWrites_reported _ _
  · exact Avoids.pure _

theorem neverWrites_fileDumpOffset (options : List CString) :
    NeverWrites (fileDumpOffset library options) := by
  unfold fileDumpOffset
  split
  · exact Avoids.pure _
  · exact (onlyLooks_fileOffsetParse _).neverWrites

theorem neverWrites_fileDumpLength (options : List CString) :
    NeverWrites (fileDumpLength library options) := by
  unfold fileDumpLength
  split
  · split
    · exact neverWrites_reported _ _
    · exact Avoids.pure _
  · exact Avoids.pure _

/-- The release of a transfer before a result. -/
theorem neverWrites_release_pure (transfer : FileTransfer) (result : α) :
    NeverWrites (do
      transfer.release
      return result) :=
  transfer.neverWrites_release.bind fun _ => Avoids.pure result

theorem neverWrites_reject (transfer : FileTransfer) (text : CString) (result : α) :
    NeverWrites (do
      shellError text
      transfer.release
      return result) :=
  neverWrites_call rfl fun _ => neverWrites_release_pure transfer result

theorem neverWrites_fileDumpLoop (transfer : FileTransfer) (offset remaining : ℕ) :
    NeverWrites (fileDumpLoop transfer offset remaining) := by
  induction remaining using Nat.strong_induction_on generalizing offset with
  | _ remaining ih =>
      rw [fileDumpLoop]
      split
      · apply (neverWrites_fileTransferRead transfer offset _).bind
        rintro (err | data)
        · exact transfer.neverWrites_release.bind fun _ => neverWrites_fileTransferChanged _ _
        dsimp only
        split
        · exact neverWrites_release_pure transfer _
        apply neverWrites_call rfl
        intro _
        split
        · exact neverWrites_release_pure transfer _
        · exact ih (remaining - data.1.length) (by omega) _
      · exact neverWrites_release_pure transfer _

theorem neverWrites_cmdFileDump (argv : List CString) :
    NeverWrites (cmdFileDump library argv) := by
  unfold cmdFileDump
  split
  · exact neverWrites_reported _ _
  apply (neverWrites_fileInstanceNumberParse _).bind
  rintro (err | objectInstance)
  · exact Avoids.pure _
  apply (neverWrites_fileDumpOffset _).bind
  rintro (err | offset)
  · exact Avoids.pure _
  apply (neverWrites_fileDumpLength _).bind
  rintro (err | length)
  · exact Avoids.pure _
  apply (neverWrites_fileTransferOpen objectInstance).bind
  rintro (err | transfer)
  · exact Avoids.pure _
  dsimp only
  split
  · exact neverWrites_reject transfer _ _
  split
  · exact neverWrites_fileDumpLoop transfer _ _
  · split
    · exact neverWrites_reject transfer _ _
    · exact neverWrites_fileDumpLoop transfer _ _

theorem neverWrites_fileExportLoop (transfer : FileTransfer) (offset : ℕ) (crc : UInt32) :
    NeverWrites (fileExportLoop config library transfer offset crc) := by
  have positive := config.chunkSize_range.1
  induction remaining : transfer.fileSize - offset using Nat.strong_induction_on
    generalizing offset crc with
  | _ remaining ih =>
      rw [fileExportLoop]
      split
      · apply (neverWrites_fileTransferRead transfer offset _).bind
        rintro (err | data)
        · apply transfer.neverWrites_release.bind
          intro _
          exact (neverWrites_fileTransferChanged _ _).bind fun _ => Avoids.pure _
        dsimp only
        split
        · exact neverWrites_reject transfer _ _
        · rename_i whole
          split
          · exact neverWrites_reject transfer _ _
          apply neverWrites_call rfl
          intro _
          rw [ne_eq, not_not] at whole
          exact ih (transfer.fileSize - (offset + data.1.length)) (by omega) _ _ rfl
      · exact Avoids.pure _

theorem neverWrites_cmdFileExport (argv : List CString) :
    NeverWrites (cmdFileExport config library argv) := by
  unfold cmdFileExport
  split
  · rename_i command value
    show NeverWrites (cmdFileExport config library [command, value])
    rw [cmdFileExport_eq]
    apply (neverWrites_fileInstanceNumberParse _).bind
    rintro (err | objectInstance)
    · exact Avoids.pure _
    apply (neverWrites_fileTransferOpen objectInstance).bind
    rintro (err | transfer)
    · exact Avoids.pure _
    have opening : NeverWrites (performAll (exportOpening objectInstance transfer)) :=
      Avoids.performAll (by simp [exportOpening, FileCall.isWrite])
    apply opening.bind
    intro _
    apply (neverWrites_fileExportLoop transfer 0 0).bind
    rintro (err | crc)
    · exact Avoids.pure _
    have closing : NeverWrites (performAll (exportClosing crc)) :=
      Avoids.performAll (by simp [exportClosing, FileCall.isWrite])
    exact closing.bind fun _ => neverWrites_release_pure transfer 0
  · exact neverWrites_reported _ _

theorem neverWrites_fileObjectSupported (transfer : FileTransfer) (objectType : UInt32) :
    NeverWrites (fileObjectSupported transfer objectType) := by
  unfold fileObjectSupported
  apply neverWrites_call rfl
  intro _
  apply (neverWrites_fileTransferRevalidate transfer).bind
  intro err
  split
  · apply neverWrites_call rfl
    intro supported
    apply neverWrites_call rfl
    exact fun _ => Avoids.pure _
  · apply neverWrites_call rfl
    exact fun _ => Avoids.pure _

theorem neverWrites_fileDecodeRecord (backup : BackupLibrary) (transfer : FileTransfer)
    (offset : ℕ) (apdu : List UInt8) :
    NeverWrites (fileDecodeRecord backup transfer offset apdu) := by
  unfold fileDecodeRecord
  dsimp only
  split
  · apply (neverWrites_fileObjectSupported transfer _).bind
    rintro (err | supported)
    · apply transfer.neverWrites_release.bind
      intro _
      exact (neverWrites_fileTransferChanged _ _).bind fun _ => Avoids.pure _
    dsimp only
    split
    · exact neverWrites_reject transfer _ _
    split
    · exact neverWrites_reject transfer _ _
    · apply neverWrites_call rfl
      exact fun _ => Avoids.pure _
  · exact neverWrites_reject transfer _ _

theorem neverWrites_fileDecodeLoop (backup : BackupLibrary) (transfer : FileTransfer)
    (offset : ℕ) : NeverWrites (fileDecodeLoop backup transfer offset) := by
  induction remaining : transfer.fileSize - offset using Nat.strong_induction_on
    generalizing offset with
  | _ remaining ih =>
      rw [fileDecodeLoop]
      split
      · apply (neverWrites_fileTransferRead transfer offset _).bind
        rintro (err | apdu)
        · exact transfer.neverWrites_release.bind fun _ => neverWrites_fileTransferChanged _ _
        dsimp only
        split
        · exact neverWrites_reject transfer _ _
        apply (neverWrites_fileDecodeRecord backup transfer offset _).bind
        rintro (err | decodedLen)
        · exact Avoids.pure _
        · have positive := decodedLen.2
          exact ih (transfer.fileSize - (offset + decodedLen.1)) (by omega) _ rfl
      · exact neverWrites_release_pure transfer _

theorem neverWrites_cmdFileDecode (backup : BackupLibrary) (argv : List CString) :
    NeverWrites (cmdFileDecode library backup argv) := by
  unfold cmdFileDecode
  split
  · apply (neverWrites_fileInstanceNumberParse _).bind
    rintro (err | objectInstance)
    · exact Avoids.pure _
    apply (neverWrites_fileBackupOpen objectInstance).bind
    rintro (err | transfer)
    · exact Avoids.pure _
    · exact neverWrites_fileDecodeLoop backup transfer 0
  · exact neverWrites_reported _ _

theorem neverWrites_longFileCommand (command : LongFileCommand) (argv : List CString) :
    NeverWrites (command.program library argv) := by
  cases command with
  | dump => exact neverWrites_cmdFileDump argv
  | exportFile config => exact neverWrites_cmdFileExport argv
  | decode backup => exact neverWrites_cmdFileDecode backup argv

end NeverWrites

end BacnetZephyr
