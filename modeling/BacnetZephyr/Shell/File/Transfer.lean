import BacnetZephyr.Shell.File.Json

/-!
# File transfers

A transfer holds its own copy of the identity and metadata of a File object, taken
under the task lock. Every later read takes the lock again and first confirms that the
object is still the same.

The second half gives the behaviour of these steps in runs in which the file does not
change: opening succeeds with the metadata of the file, and a read returns the bytes of
the file.
-/

namespace BacnetZephyr

open CLib Program

structure OwnedString where
  block : ℕ
  text : CString
deriving DecidableEq

/-- `struct file_transfer` after a successful capture. -/
structure FileTransfer where
  objectInstance : UInt32
  fileSize : ℕ
  readOnly : Bool
  pathname : OwnedString
  name : OwnedString
  mimeType : OwnedString
  fileSize_le : fileSize ≤ int32Max

section Commands

variable (library : FileShellLibrary)

def fileInstanceParse (value : CString) : FileProgram (Except Int UInt32) :=
  match library.bacnetStringToUint32 value with
  | none => do
      shellError ("Invalid file instance: ".toList ++ value)
      return .error (-Errno.einval)
  | some objectInstance => do
      if ← bacfileValidInstance objectInstance then return .ok objectInstance
      else
        shellError ("File instance ".toList ++ unsignedText objectInstance.toNat ++
          " does not exist".toList)
        return .error (-Errno.einval)

def fileOffsetParse (value : CString) : FileProgram (Except Int ℕ) :=
  match library.bacnetStringToUint32 value with
  | none => do
      shellError ("Invalid file offset: ".toList ++ value)
      return .error (-Errno.einval)
  | some offset => do
      if int32Max < offset.toNat then
        shellError ("Invalid file offset: ".toList ++ value)
        return .error (-Errno.einval)
      else return .ok offset.toNat

def fileInstanceNumberParse (value : CString) : FileProgram (Except Int UInt32) :=
  match library.bacnetStringToUint32 value with
  | none => do
      shellError ("Invalid file instance: ".toList ++ value)
      return .error (-Errno.einval)
  | some objectInstance => return .ok objectInstance

end Commands

def filePathRequire (objectInstance : UInt32) : FileProgram (Except Int CString) := do
  let pathname ← bacfilePathname objectInstance
  match pathname with
  | some (first :: rest) => return .ok (first :: rest)
  | _ =>
      shellError ("File ".toList ++ unsignedText objectInstance.toNat ++
        " has no pathname".toList)
      return .error (-Errno.einval)

def fileWritablePathRequire (objectInstance : UInt32) : FileProgram (Except Int CString) := do
  match ← filePathRequire objectInstance with
  | .error err => return .error err
  | .ok pathname =>
      if ← bacfileReadOnly objectInstance then
        shellError ("File ".toList ++ unsignedText objectInstance.toNat ++
          " is read-only".toList)
        return .error (-Errno.eperm)
      else return .ok pathname

def fileStreamRequire (objectInstance : UInt32) : FileProgram Int := do
  if ← bacfileFileAccessStream objectInstance then return 0
  else
    shellError ("File ".toList ++ unsignedText objectInstance.toNat ++
      " does not use stream access".toList)
    return -Errno.enotsup

def fileCstringOwn (value : Option CString) : FileProgram (Except Int OwnedString) := do
  let text := value.getD []
  match ← kMalloc (text.length + 1) with
  | none => return .error (-Errno.enomem)
  | some block =>
      blockAccess block
      return .ok { block, text }

/-- `file_transfer_release` of the copies made so far. -/
def fileTransferRelease (pathname name mimeType : Option OwnedString) : FileProgram Unit := do
  kFree (pathname.map OwnedString.block)
  kFree (name.map OwnedString.block)
  kFree (mimeType.map OwnedString.block)

def FileTransfer.release (transfer : FileTransfer) : FileProgram Unit :=
  fileTransferRelease (some transfer.pathname) (some transfer.name) (some transfer.mimeType)

def fileTransferCapture (objectInstance : UInt32) : FileProgram (Except Int FileTransfer) := do
  if !(← bacfileValidInstance objectInstance) then return .error (-Errno.enoent)
  else
    match ← bacfilePathname objectInstance with
    | none | some [] => return .error (-Errno.einval)
    | some pathname =>
        if !(← bacfileFileAccessStream objectInstance) then return .error (-Errno.enotsup)
        else
          let fileSize ← bacfileFileSize objectInstance
          if fits : fileSize ≤ int32Max then
            match ← fileCstringOwn (some pathname) with
            | .error err => return .error err
            | .ok pathname =>
                match ← fileCstringOwn (← bacfileNameAnsi objectInstance) with
                | .error err =>
                    fileTransferRelease (some pathname) none none
                    return .error err
                | .ok name =>
                    match ← fileCstringOwn (← bacfileFileType objectInstance) with
                    | .error err =>
                        fileTransferRelease (some pathname) (some name) none
                        return .error err
                    | .ok mimeType =>
                        let readOnly ← bacfileReadOnly objectInstance
                        return .ok
                          { objectInstance, fileSize, readOnly, pathname, name, mimeType
                            fileSize_le := fits }
          else return .error (-Errno.eoverflow)

def fileTransferRevalidate (transfer : FileTransfer) : FileProgram Int := do
  if !(← bacfileValidInstance transfer.objectInstance) then return -Errno.enoent
  else
    match ← bacfilePathname transfer.objectInstance with
    | none => return -Errno.enoent
    | some pathname =>
        blockAccess transfer.pathname.block
        if pathname ≠ transfer.pathname.text then return -Errno.enoent
        else if !(← bacfileFileAccessStream transfer.objectInstance) then return -Errno.enoent
        else if int32Max < (← bacfileFileSize transfer.objectInstance) then
          return -Errno.eoverflow
        else return 0

def fileTransferStatus (objectInstance : UInt32) (err : Int) (backup : Bool) :
    FileProgram Int := do
  let number := unsignedText objectInstance.toNat
  if err = -Errno.enoent then
    shellError ("File instance ".toList ++ number ++ " does not exist".toList)
  else if err = -Errno.einval then
    shellError ("File ".toList ++ number ++ " has no pathname".toList)
  else if err = -Errno.enotsup then
    shellError ("File ".toList ++ number ++ " does not use stream access".toList)
  else if err = -Errno.eoverflow then
    shellError
      (if backup then "Backup file is too large for stream offsets".toList
       else "File is too large for stream offsets".toList)
  else if err = -Errno.eperm then
    shellError ("File ".toList ++ number ++ " is not a configured backup file".toList)
  else if err = -Errno.enomem then
    shellError "Unable to copy file metadata".toList
  return err

def fileTransferOpen (objectInstance : UInt32) : FileProgram (Except Int FileTransfer) := do
  bacnetLock
  let captured ← fileTransferCapture objectInstance
  bacnetUnlock
  match captured with
  | .error err => return .error (← fileTransferStatus objectInstance err false)
  | .ok transfer => return .ok transfer

def fileBackupOpen (objectInstance : UInt32) : FileProgram (Except Int FileTransfer) := do
  bacnetLock
  match ← fileTransferCapture objectInstance with
  | .error err =>
      bacnetUnlock
      return .error (← fileTransferStatus objectInstance err true)
  | .ok transfer =>
      if !(← deviceIsConfigurationFile objectInstance) then
        transfer.release
        bacnetUnlock
        return .error (← fileTransferStatus objectInstance (-Errno.eperm) true)
      else
        bacnetUnlock
        return .ok transfer

def fileTransferRead (transfer : FileTransfer) (offset requested : ℕ) :
    FileProgram (Except Int { bytes : List UInt8 // bytes.length ≤ requested }) := do
  bacnetLock
  let err ← fileTransferRevalidate transfer
  if err = 0 then
    let bytes ← bacfileReadOffset transfer.objectInstance offset requested
    bacnetUnlock
    return .ok bytes
  else
    bacnetUnlock
    return .error err

def fileTransferChanged (objectInstance : UInt32) (err : Int) : FileProgram Int := do
  if err = -Errno.enoent then
    shellError ("File ".toList ++ unsignedText objectInstance.toNat ++
      " changed during transfer".toList)
  else shellError "File is too large for stream offsets".toList
  return err

/-! ## Files that do not change -/

/-- A stream File object with its content and metadata. -/
structure StoredFile where
  objectInstance : UInt32
  content : List UInt8
  pathname : CString
  name : Option CString
  mimeType : Option CString
  readOnly : Bool
  pathname_ne : pathname ≠ []
  content_le : content.length ≤ int32Max

/-- A writable file with nothing but a content and a pathname. -/
def StoredFile.plain (objectInstance : UInt32) (content : List UInt8)
    (content_le : content.length ≤ int32Max) : StoredFile where
  objectInstance
  content
  pathname := "/backup".toList
  name := none
  mimeType := none
  readOnly := false
  pathname_ne := by decide
  content_le

/-- The answers of the file as long as it does not change; memory is not exhausted. -/
def StoredFile.Answers (file : StoredFile) : (call : FileCall) → call.Response → Prop
  | .bacfileValidInstance objectInstance, valid =>
      objectInstance = file.objectInstance → valid = true
  | .bacfilePathname objectInstance, pathname =>
      objectInstance = file.objectInstance → pathname = some file.pathname
  | .bacfileNameAnsi objectInstance, name =>
      objectInstance = file.objectInstance → name = file.name
  | .bacfileFileType objectInstance, mimeType =>
      objectInstance = file.objectInstance → mimeType = file.mimeType
  | .bacfileFileAccessStream objectInstance, stream =>
      objectInstance = file.objectInstance → stream = true
  | .bacfileReadOnly objectInstance, readOnly =>
      objectInstance = file.objectInstance → readOnly = file.readOnly
  | .bacfileFileSize objectInstance, size =>
      objectInstance = file.objectInstance → size = file.content.length
  | .bacfileReadOffset objectInstance offset requested, bytes =>
      objectInstance = file.objectInstance →
        bytes.1 = (file.content.drop offset).take requested
  | .kMalloc _, block => block.isSome
  | _, _ => True

/--
A world in which the file does not change. Its state is the address of the next block;
other File objects do not exist.
-/
def StoredFile.world (file : StoredFile) : FileWorld where
  State := ℕ
  respond := fun block call =>
    match call with
    | .bacfileValidInstance objectInstance => (objectInstance = file.objectInstance, block)
    | .bacfilePathname objectInstance =>
        (if objectInstance = file.objectInstance then some file.pathname else none, block)
    | .bacfileNameAnsi objectInstance =>
        (if objectInstance = file.objectInstance then file.name else none, block)
    | .bacfileFileType objectInstance =>
        (if objectInstance = file.objectInstance then file.mimeType else none, block)
    | .bacfileFileAccessStream objectInstance => (objectInstance = file.objectInstance, block)
    | .bacfileReadOnly objectInstance =>
        (if objectInstance = file.objectInstance then file.readOnly else false, block)
    | .bacfileFileSize objectInstance =>
        (if objectInstance = file.objectInstance then file.content.length else 0, block)
    | .bacfileReadOffset objectInstance offset requested =>
        if objectInstance = file.objectInstance then
          (⟨(file.content.drop offset).take requested, List.length_take_le _ _⟩, block)
        else (⟨[], Nat.zero_le _⟩, block)
    | .bacfileWriteOffset _ _ _ => (0, block)
    | .deviceIsConfigurationFile objectInstance => (objectInstance = file.objectInstance, block)
    | .deviceObjectFunctionsFind _ => (true, block)
    | .kMalloc size => (some block, block + size)
    | .bacnetLock | .bacnetUnlock | .kFree _ | .blockAccess _ | .shellFprintf _ | .shellPrint _
    | .shellError _ => ((), block)

theorem StoredFile.world_answers (file : StoredFile) (block : ℕ) (call : FileCall) :
    file.Answers call (file.world.respond block call).1 := by
  cases call <;> simp +contextual [StoredFile.Answers, StoredFile.world]

structure FileTransfer.Of (transfer : FileTransfer) (file : StoredFile) : Prop where
  objectInstance : transfer.objectInstance = file.objectInstance
  fileSize : transfer.fileSize = file.content.length
  readOnly : transfer.readOnly = file.readOnly
  pathname : transfer.pathname.text = file.pathname
  name : transfer.name.text = file.name.getD []
  mimeType : transfer.mimeType.text = file.mimeType.getD []

/-- The allowed answers are answers of the file. -/
def Serves (file : StoredFile) (allows : (call : FileCall) → call.Response → Prop) : Prop :=
  ∀ call response, allows call response → file.Answers call response

section Unchanging

variable {file : StoredFile} {allows : (call : FileCall) → call.Response → Prop}

theorem ensures_fileCstringOwn (serves : Serves file allows) (value : Option CString) :
    FileEnsures allows (fileCstringOwn value)
      (fun owned => ∃ block, owned = .ok ⟨block, value.getD []⟩) [] := by
  simp only [fileCstringOwn]
  apply FileEnsures.quiet_call rfl
  intro block allocated
  cases block with
  | none =>
      have := serves _ _ allocated
      simp [StoredFile.Answers] at this
  | some block =>
      apply FileEnsures.quiet_call rfl
      intro _ _
      exact Ensures.pure ⟨block, rfl⟩

theorem ensures_fileTransferCapture (serves : Serves file allows) :
    FileEnsures allows (fileTransferCapture file.objectInstance)
      (fun captured => ∃ transfer, captured = .ok transfer ∧ transfer.Of file) [] := by
  simp only [fileTransferCapture]
  apply FileEnsures.quiet_call rfl
  intro valid validAllowed
  rw [serves _ _ validAllowed rfl]
  apply FileEnsures.quiet_call rfl
  intro pathname pathnameAllowed
  rw [serves _ _ pathnameAllowed rfl]
  rcases List.exists_cons_of_ne_nil file.pathname_ne with ⟨first, rest, path⟩
  simp only [path]
  apply FileEnsures.quiet_call rfl
  intro stream streamAllowed
  rw [serves _ _ streamAllowed rfl]
  apply FileEnsures.quiet_call rfl
  intro fileSize sizeAllowed
  obtain rfl : fileSize = file.content.length := serves _ _ sizeAllowed rfl
  rw [dif_pos file.content_le]
  apply Ensures.quiet_bind (ensures_fileCstringOwn serves (some (first :: rest)))
  rintro _ ⟨pathBlock, rfl⟩
  apply FileEnsures.quiet_call rfl
  intro name nameAllowed
  apply Ensures.quiet_bind (ensures_fileCstringOwn serves name)
  rintro _ ⟨nameBlock, rfl⟩
  apply FileEnsures.quiet_call rfl
  intro mimeType mimeTypeAllowed
  apply Ensures.quiet_bind (ensures_fileCstringOwn serves mimeType)
  rintro _ ⟨mimeTypeBlock, rfl⟩
  apply FileEnsures.quiet_call rfl
  intro readOnly readOnlyAllowed
  refine Ensures.pure ⟨_, rfl, ?_⟩
  exact
    { objectInstance := rfl
      fileSize := rfl
      readOnly := serves _ _ readOnlyAllowed rfl
      pathname := path.symm
      name := by rw [serves _ _ nameAllowed rfl]
      mimeType := by rw [serves _ _ mimeTypeAllowed rfl] }

theorem ensures_fileTransferRelease (pathname name mimeType : Option OwnedString) :
    FileEnsures allows (fileTransferRelease pathname name mimeType) (fun _ => True) [] := by
  simp only [fileTransferRelease]
  apply FileEnsures.quiet_call rfl
  intro _ _
  apply FileEnsures.quiet_call rfl
  intro _ _ _ _
  exact ⟨trivial, rfl⟩

theorem ensures_fileTransferOpen (serves : Serves file allows) :
    FileEnsures allows (fileTransferOpen file.objectInstance)
      (fun opened => ∃ transfer, opened = .ok transfer ∧ transfer.Of file) [] := by
  simp only [fileTransferOpen]
  apply FileEnsures.quiet_call rfl
  intro _ _
  apply Ensures.quiet_bind (ensures_fileTransferCapture serves)
  rintro _ ⟨transfer, rfl, captured⟩
  apply FileEnsures.quiet_call rfl
  intro _ _
  exact Ensures.pure ⟨transfer, rfl, captured⟩

/-- An unchanging file is confirmed to be the captured one. -/
theorem ensures_fileTransferRevalidate (serves : Serves file allows) {transfer : FileTransfer}
    (captured : transfer.Of file) :
    FileEnsures allows (fileTransferRevalidate transfer) (fun err => err = 0) [] := by
  simp only [fileTransferRevalidate]
  apply FileEnsures.quiet_call rfl
  intro valid validAllowed
  rw [serves _ _ validAllowed captured.objectInstance]
  apply FileEnsures.quiet_call rfl
  intro pathname pathnameAllowed
  rw [serves _ _ pathnameAllowed captured.objectInstance]
  apply FileEnsures.quiet_call rfl
  intro _ _
  rw [if_neg (by simp [captured.pathname])]
  apply FileEnsures.quiet_call rfl
  intro stream streamAllowed
  rw [serves _ _ streamAllowed captured.objectInstance]
  apply FileEnsures.quiet_call rfl
  intro size sizeAllowed
  rw [serves _ _ sizeAllowed captured.objectInstance, if_neg (by have := file.content_le; omega)]
  exact Ensures.pure rfl

theorem ensures_fileTransferRead (serves : Serves file allows) {transfer : FileTransfer}
    (captured : transfer.Of file) (offset requested : ℕ) :
    FileEnsures allows (fileTransferRead transfer offset requested)
      (fun result => ∃ bytes, result = .ok bytes ∧
        bytes.1 = (file.content.drop offset).take requested)
      [.bacfileReadOffset file.objectInstance offset requested] := by
  simp only [fileTransferRead]
  apply FileEnsures.quiet_call rfl
  intro _ _
  apply Ensures.quiet_bind (ensures_fileTransferRevalidate serves captured)
  rintro _ rfl
  rw [if_pos rfl, ← captured.objectInstance]
  apply FileEnsures.observed_call rfl
  intro bytes bytesAllowed
  apply FileEnsures.quiet_call rfl
  intro _ _
  exact Ensures.pure ⟨bytes, rfl, serves _ _ bytesAllowed captured.objectInstance⟩

theorem ensures_fileInstanceNumberParse {library : FileShellLibrary} {value : CString}
    {objectInstance : UInt32}
    (parsed : library.bacnetStringToUint32 value = some objectInstance) :
    FileEnsures allows (fileInstanceNumberParse library value)
      (fun result => result = .ok objectInstance) [] := by
  simp only [fileInstanceNumberParse, parsed]
  exact Ensures.pure rfl

theorem ensures_fileOffsetParse {library : FileShellLibrary} {value : CString}
    {offset : UInt32} (parsed : library.bacnetStringToUint32 value = some offset)
    (inside : offset.toNat ≤ int32Max) :
    FileEnsures allows (fileOffsetParse library value)
      (fun result => result = .ok offset.toNat) [] := by
  simp only [fileOffsetParse, parsed]
  rw [if_neg (by omega)]
  exact Ensures.pure rfl

end Unchanging

end BacnetZephyr
