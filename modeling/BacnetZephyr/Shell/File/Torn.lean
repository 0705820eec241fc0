import BacnetZephyr.Foundation.NamedStore
import BacnetZephyr.Shell.File.ExportRun
import BacnetZephyr.Shell.File.Import

/-!
# Exports of a file that is written to

Another thread writes to the File object while `cmd_file_export` does not hold the task
lock. The command takes the lock once to capture the metadata and once for every chunk;
what is written in between is not noticed as long as the object is the same and no read
is short. Every chunk is then the content of the moment of its read, and
`cmdFileExport_moments` says when the chunks together are the content of one moment.
-/

namespace BacnetZephyr

open CLib Program ByteStream

/-! ## A file and its writers -/

/-- A write of another thread under the lock. -/
inductive FileWrite where
  | write (offset : ℕ) (data : List UInt8)
  | shorten (length : ℕ)

def FileWrite.apply : FileWrite → List UInt8 → List UInt8
  | .write offset data, content => storeAt 0 content offset data
  | .shorten length, content => content.take length

def applyWrites (writes : List FileWrite) (content : List UInt8) : List UInt8 :=
  writes.foldl (fun content write => write.apply content) content

/--
A stream File object with its writers, on a device that supports some object types. Gap 0
is the time from the start of the command to its first acquisition of the lock, gap `n` the
time after its `n`-th release.
-/
structure SharedFile where
  objectInstance : UInt32
  pathname : CString
  name : Option CString
  mimeType : Option CString
  readOnly : Bool
  pathname_ne : pathname ≠ []
  initial : List UInt8
  writes : ℕ → List FileWrite
  supported : UInt32 → Bool

namespace SharedFile

variable (file : SharedFile)

/-- The content at the end of a gap, and while the lock is held after it. -/
def contentAt : ℕ → List UInt8
  | 0 => applyWrites (file.writes 0) file.initial
  | gap + 1 => applyWrites (file.writes (gap + 1)) (contentAt gap)

def contentBefore : ℕ → List UInt8
  | 0 => file.initial
  | gap + 1 => file.contentAt gap

/-- The file has the content at some moment of the gaps up to the last one. -/
def Moment (last : ℕ) (content : List UInt8) : Prop :=
  ∃ gap ≤ last, ∃ done, done <+: file.writes gap ∧
    content = applyWrites done (file.contentBefore gap)

/-- The object with a content. -/
def stored (content : List UInt8) (fits : content.length ≤ int32Max) : StoredFile where
  objectInstance := file.objectInstance
  content
  pathname := file.pathname
  name := file.name
  mimeType := file.mimeType
  readOnly := file.readOnly
  pathname_ne := file.pathname_ne
  content_le := fits

end SharedFile

/-- How often the lock has been taken, and the address of the next block. -/
structure SharedState where
  locks : ℕ
  block : ℕ

/-- While the lock is held the file has the content at the end of the gap before. -/
def SharedState.gap (state : SharedState) : ℕ := state.locks - 1

def SharedFile.world (file : SharedFile) : FileWorld where
  State := SharedState
  respond := fun state call =>
    match call with
    | .bacnetLock => ((), { state with locks := state.locks + 1 })
    | .bacfileValidInstance objectInstance => (objectInstance = file.objectInstance, state)
    | .bacfilePathname objectInstance =>
        (if objectInstance = file.objectInstance then some file.pathname else none, state)
    | .bacfileNameAnsi objectInstance =>
        (if objectInstance = file.objectInstance then file.name else none, state)
    | .bacfileFileType objectInstance =>
        (if objectInstance = file.objectInstance then file.mimeType else none, state)
    | .bacfileFileAccessStream objectInstance => (objectInstance = file.objectInstance, state)
    | .bacfileReadOnly objectInstance =>
        (if objectInstance = file.objectInstance then file.readOnly else false, state)
    | .bacfileFileSize objectInstance =>
        (if objectInstance = file.objectInstance then (file.contentAt state.gap).length else 0,
          state)
    | .bacfileReadOffset objectInstance offset requested =>
        if objectInstance = file.objectInstance then
          (⟨((file.contentAt state.gap).drop offset).take requested, List.length_take_le _ _⟩,
            state)
        else (⟨[], Nat.zero_le _⟩, state)
    | .bacfileWriteOffset _ _ _ => (0, state)
    | .deviceIsConfigurationFile objectInstance => (objectInstance = file.objectInstance, state)
    | .deviceObjectFunctionsFind objectType => (file.supported objectType, state)
    | .kMalloc size => (some state.block, { state with block := state.block + size })
    | .bacnetUnlock | .kFree _ | .blockAccess _ | .shellFprintf _ | .shellPrint _
    | .shellError _ => ((), state)

/-! ## Steps of the command in the world of the file -/

section Steps

variable {file : SharedFile}

/-- The transfer has been captured from the file. -/
structure FileTransfer.Shares (transfer : FileTransfer) (file : SharedFile) : Prop where
  sameInstance : transfer.objectInstance = file.objectInstance
  pathname : transfer.pathname.text = file.pathname
  size : transfer.fileSize = (file.contentAt 0).length
  name : transfer.name.text = file.name.getD []
  mimeType : transfer.mimeType.text = file.mimeType.getD []
  readOnly : transfer.readOnly = file.readOnly

theorem yields_fileCstringOwn (value : Option CString) (state : SharedState) :
    Yields file.world state (fileCstringOwn value) fun owned _ last =>
      (∃ block, owned = .ok ⟨block, value.getD []⟩) ∧ last.locks = state.locks :=
  ⟨⟨state.block, rfl⟩, rfl⟩

theorem yields_fileTransferRelease (pathname name mimeType : Option OwnedString)
    (state : SharedState) :
    Yields file.world state (fileTransferRelease pathname name mimeType) fun _ _ last =>
      last = state :=
  rfl

theorem answer_validInstance (state : SharedState) :
    file.world.respond state (.bacfileValidInstance file.objectInstance) = (true, state) := by
  simp [SharedFile.world]

theorem answer_pathname (state : SharedState) :
    file.world.respond state (.bacfilePathname file.objectInstance) =
      (some file.pathname, state) := by
  simp [SharedFile.world]

/-- Taking the lock lets the writers of the gap before it come first. -/
theorem answer_bacnetLock (state : SharedState) :
    file.world.respond state .bacnetLock = ((), { state with locks := state.locks + 1 }) := rfl

theorem answer_bacnetUnlock (state : SharedState) :
    file.world.respond state .bacnetUnlock = ((), state) := rfl

theorem answer_blockAccess (state : SharedState) (block : ℕ) :
    file.world.respond state (.blockAccess block) = ((), state) := rfl

theorem answer_shellError (state : SharedState) (text : CString) :
    file.world.respond state (.shellError text) = ((), state) := rfl

theorem answer_shellPrint (state : SharedState) (text : CString) :
    file.world.respond state (.shellPrint text) = ((), state) := rfl

theorem answer_fileAccessStream (state : SharedState) :
    file.world.respond state (.bacfileFileAccessStream file.objectInstance) = (true, state) := by
  simp [SharedFile.world]

theorem answer_fileSize (state : SharedState) :
    file.world.respond state (.bacfileFileSize file.objectInstance) =
      ((file.contentAt state.gap).length, state) := by
  simp [SharedFile.world]

theorem answer_nameAnsi (state : SharedState) :
    file.world.respond state (.bacfileNameAnsi file.objectInstance) = (file.name, state) := by
  simp [SharedFile.world]

theorem answer_fileType (state : SharedState) :
    file.world.respond state (.bacfileFileType file.objectInstance) = (file.mimeType, state) := by
  simp [SharedFile.world]

theorem answer_readOnly (state : SharedState) :
    file.world.respond state (.bacfileReadOnly file.objectInstance) = (file.readOnly, state) := by
  simp [SharedFile.world]

theorem answer_readOffset (state : SharedState) (offset requested : ℕ) :
    file.world.respond state (.bacfileReadOffset file.objectInstance offset requested) =
      (⟨((file.contentAt state.gap).drop offset).take requested, List.length_take_le _ _⟩,
        state) := by
  simp [SharedFile.world]

theorem yields_fileTransferCapture (state : SharedState) (locks : state.locks = 1) :
    Yields file.world state (fileTransferCapture file.objectInstance) fun captured _ last =>
      last.locks = 1 ∧
        (∀ transfer, captured = .ok transfer → transfer.Shares file) ∧
        ((file.contentAt 0).length ≤ int32Max → ∃ transfer, captured = .ok transfer) := by
  have gap : state.gap = 0 := by rw [SharedState.gap, locks]
  rcases List.exists_cons_of_ne_nil file.pathname_ne with ⟨first, rest, path⟩
  simp only [fileTransferCapture]
  apply Yields.call (answer_validInstance state)
  rw [if_neg (by simp)]
  apply Yields.call (answer_pathname state)
  simp only [path]
  apply Yields.call (answer_fileAccessStream state)
  rw [if_neg (by simp)]
  apply Yields.call (answer_fileSize state)
  rw [gap]
  split
  · apply Yields.bind (yields_fileCstringOwn _ state)
    rintro _ _ afterPath ⟨⟨pathBlock, rfl⟩, pathLocks⟩
    apply Yields.call (answer_nameAnsi afterPath)
    apply Yields.bind (yields_fileCstringOwn _ afterPath)
    rintro _ _ afterName ⟨⟨nameBlock, rfl⟩, nameLocks⟩
    apply Yields.call (answer_fileType afterName)
    apply Yields.bind (yields_fileCstringOwn _ afterName)
    rintro _ _ afterType ⟨⟨typeBlock, rfl⟩, typeLocks⟩
    apply Yields.call (answer_readOnly afterType)
    apply Yields.pure
    refine ⟨by rw [typeLocks, nameLocks, pathLocks, locks], ?_, fun _ => ⟨_, rfl⟩⟩
    rintro _ ⟨⟩
    exact
      { sameInstance := rfl
        pathname := path.symm
        size := rfl
        name := rfl
        mimeType := rfl
        readOnly := rfl }
  · rename_i large
    exact Yields.pure ⟨locks, fun _ failed => by contradiction, fun fits => absurd fits large⟩

/-- The file is still the same object; only its size may have become too large. -/
theorem yields_fileTransferRevalidate {transfer : FileTransfer} (shares : transfer.Shares file)
    (state : SharedState) :
    Yields file.world state (fileTransferRevalidate transfer) fun err _ last =>
      last = state ∧
        err = if int32Max < (file.contentAt state.gap).length then -Errno.eoverflow else 0 := by
  simp only [fileTransferRevalidate, shares.sameInstance]
  apply Yields.call (answer_validInstance state)
  rw [if_neg (by simp)]
  apply Yields.call (answer_pathname state)
  apply Yields.call (answer_blockAccess state _)
  rw [if_neg (by simp [shares.pathname])]
  apply Yields.call (answer_fileAccessStream state)
  rw [if_neg (by simp)]
  apply Yields.call (answer_fileSize state)
  split
  · exact Yields.pure ⟨rfl, rfl⟩
  · exact Yields.pure ⟨rfl, rfl⟩

/-- A chunk is read from the content the file has when the lock is taken. -/
theorem yields_fileTransferRead {transfer : FileTransfer} (shares : transfer.Shares file)
    (offset requested : ℕ) (state : SharedState) :
    Yields file.world state (fileTransferRead transfer offset requested) fun result _ last =>
      last.locks = state.locks + 1 ∧
        result = if int32Max < (file.contentAt state.locks).length then .error (-Errno.eoverflow)
          else .ok ⟨((file.contentAt state.locks).drop offset).take requested,
            List.length_take_le _ _⟩ := by
  simp only [fileTransferRead]
  apply Yields.call (answer_bacnetLock state)
  apply Yields.bind (yields_fileTransferRevalidate shares _)
  rintro err _ _ ⟨rfl, rfl⟩
  rw [show SharedState.gap { state with locks := state.locks + 1 } = state.locks from rfl]
  by_cases large : int32Max < (file.contentAt state.locks).length
  · rw [if_pos large, if_pos large, if_neg (by decide)]
    apply Yields.call (answer_bacnetUnlock _)
    exact Yields.pure ⟨rfl, rfl⟩
  · rw [if_neg large, if_neg large, if_pos rfl, shares.sameInstance]
    apply Yields.call (answer_readOffset _ offset requested)
    apply Yields.call (answer_bacnetUnlock _)
    exact Yields.pure ⟨rfl, rfl⟩

end Steps

/-! ## The loop -/

section Loop

variable {config : FileShellConfig} {library : FileShellLibrary} {file : SharedFile}

/-- When the turn of a chunk comes, the file is long enough for it and not too large. -/
def SharedFile.ReadsWhole (file : SharedFile) (chunkSize index : ℕ) : Prop :=
  min (index * chunkSize + chunkSize) (file.contentAt 0).length ≤
      (file.contentAt (index + 1)).length ∧
    (file.contentAt (index + 1)).length ≤ int32Max

/-- What the loop returns and reads from an offset on. -/
structure SharedLoop (config : FileShellConfig) (file : SharedFile) (index offset : ℕ)
    (result : Except Int UInt32) (trace : List FileEvent) : Prop where
  whole : (∀ later, index ≤ later → later * config.chunkSize < (file.contentAt 0).length →
    file.ReadsWhole config.chunkSize later) → ∃ checksum, result = .ok checksum
  bytes : ∀ checksum, result = .ok checksum → ∀ position, offset ≤ position →
    position < (file.contentAt 0).length →
      (bytesRead trace)[position - offset]? =
        (file.contentAt (position / config.chunkSize + 1))[position]?

theorem SharedLoop.of_error {index offset : ℕ} {err : Int} {trace : List FileEvent}
    (more : index * config.chunkSize < (file.contentAt 0).length)
    (notWhole : ¬file.ReadsWhole config.chunkSize index) :
    SharedLoop config file index offset (.error err) trace where
  whole := fun whole => absurd (whole index le_rfl more) notWhole
  bytes := fun _ failed => by contradiction

/-- A round whose chunk is read whole before the rest of the loop. -/
theorem SharedLoop.round {index : ℕ} {data : List UInt8} {result : Except Int UInt32}
    {readTrace restTrace : List FileEvent} {event : FileEvent}
    (rest : SharedLoop config file (index + 1) (index * config.chunkSize + data.length)
      result restTrace)
    (isData : data = ((file.contentAt (index + 1)).drop (index * config.chunkSize)).take
      (min ((file.contentAt 0).length - index * config.chunkSize) config.chunkSize))
    (whole : data.length =
      min ((file.contentAt 0).length - index * config.chunkSize) config.chunkSize)
    (read : bytesRead readTrace = data) (nothing : readData event = []) :
    SharedLoop config file index (index * config.chunkSize) result
      (readTrace ++ event :: restTrace) where
  whole := fun whole => rest.whole fun later after => whole later (by omega)
  bytes := by
    intro checksum success position after inside
    have chunkSize := config.chunkSize_range
    have trace : bytesRead (readTrace ++ event :: restTrace) = data ++ bytesRead restTrace := by
      rw [bytesRead_append, read, bytesRead, List.flatMap_cons, nothing, List.nil_append,
        ← bytesRead]
    rw [trace]
    by_cases here : position - index * config.chunkSize < data.length
    · have round : position / config.chunkSize = index :=
        Nat.div_eq_of_lt_le (by omega) (by rw [Nat.add_mul]; omega)
      rw [List.getElem?_append_left here, round, isData, List.getElem?_take_of_lt (by omega),
        List.getElem?_drop]
      congr 1
      omega
    · rw [List.getElem?_append_right (by omega), Nat.sub_sub]
      exact rest.bytes checksum success position (by omega) inside

theorem yields_fileTransferChanged (objectInstance : UInt32) (err : Int) (state : SharedState) :
    Yields file.world state (fileTransferChanged objectInstance err) fun status _ _ =>
      status = err := by
  simp only [fileTransferChanged]
  split <;> rfl

/-- Every byte the loop has read is a byte of the content at the time of its chunk. -/
theorem yields_fileExportLoop {transfer : FileTransfer} (shares : transfer.Shares file)
    {index offset : ℕ} (start : offset < transfer.fileSize → offset = index * config.chunkSize)
    (crc : UInt32) (state : SharedState) (locks : state.locks = index + 1) :
    Yields file.world state (fileExportLoop config library transfer offset crc)
      fun result trace _ => SharedLoop config file index offset result trace := by
  induction remaining : transfer.fileSize - offset using Nat.strong_induction_on
    generalizing index offset crc state with
  | _ remaining ih =>
      have chunkSize := config.chunkSize_range
      have size := shares.size
      rw [fileExportLoop]
      split
      · rename_i more
        rcases start more with rfl
        rw [size] at more
        apply Yields.bind ((yields_fileTransferRead shares (index * config.chunkSize)
          (min (transfer.fileSize - index * config.chunkSize) config.chunkSize) state).and_wp
            (always_fileTransferRead transfer _ _))
        rintro result readTrace after ⟨⟨afterLocks, isResult⟩, outcome⟩
        rw [locks] at isResult afterLocks
        by_cases large : int32Max < (file.contentAt (index + 1)).length
        · -- the file has become too large
          rw [if_pos large] at isResult
          rcases isResult with rfl
          apply Yields.bind (yields_fileTransferRelease _ _ _ _)
          rintro _ _ _ rfl
          apply Yields.bind (yields_fileTransferChanged _ _ _)
          rintro status _ _ rfl
          apply Yields.pure
          exact SharedLoop.of_error more fun whole => by
            have := whole.2
            omega
        · rw [if_neg large] at isResult
          rcases isResult with rfl
          rcases outcome with ⟨-, read, -⟩
          simp only
          split
          · -- the file has become too short for the chunk
            rename_i short
            apply Yields.call (answer_shellError after _)
            apply Yields.bind (yields_fileTransferRelease _ _ _ _)
            rintro _ _ _ rfl
            apply Yields.pure
            refine SharedLoop.of_error more fun whole => ?_
            have long := whole.1
            rw [List.length_take, List.length_drop, size] at short
            omega
          · rename_i whole
            rw [ne_eq, not_not] at whole
            have hex := library.bin2hex_eq
              (((file.contentAt (index + 1)).drop (index * config.chunkSize)).take
                (min (transfer.fileSize - index * config.chunkSize) config.chunkSize))
              (2 * config.chunkSize + 1) (by omega)
            rw [hex, if_neg (by simp)]
            apply Yields.call (answer_shellPrint after _)
            apply Yields.mono (ih _ (by omega) (fun later => ?_) _ after afterLocks rfl)
            · intro result trace _ rest
              exact rest.round (by rw [size]) (by rw [whole, size]) read rfl
            · rw [whole, Nat.add_mul]
              omega
      · rename_i finished
        apply Yields.pure
        exact
          { whole := fun _ => ⟨crc, rfl⟩
            bytes := by
              intro _ _ position after inside
              omega }

end Loop

/-! ## The command -/

section Command

variable {config : FileShellConfig} {library : FileShellLibrary} {file : SharedFile}

theorem yields_fileTransferOpen (state : SharedState) (locks : state.locks = 0) :
    Yields file.world state (fileTransferOpen file.objectInstance) fun opened _ last =>
      (∀ transfer, opened = .ok transfer → transfer.Shares file ∧ last.locks = 1) ∧
        ((file.contentAt 0).length ≤ int32Max → ∃ transfer, opened = .ok transfer) := by
  simp only [fileTransferOpen]
  apply Yields.call (answer_bacnetLock state)
  apply Yields.bind (yields_fileTransferCapture _ (by simp only; omega))
  rintro (err | transfer) _ after ⟨afterLocks, shares, fits⟩
  · apply Yields.call (answer_bacnetUnlock after)
    have status : Yields file.world after (fileTransferStatus file.objectInstance err false)
        fun _ _ _ => True := trivial
    apply Yields.bind status
    intro _ _ _ _
    refine Yields.pure ⟨fun _ failed => by contradiction, fun small => ?_⟩
    rcases fits small with ⟨_, ⟨⟩⟩
  · apply Yields.call (answer_bacnetUnlock after)
    refine Yields.pure ⟨?_, fun _ => ⟨transfer, rfl⟩⟩
    rintro _ ⟨⟩
    exact ⟨shares transfer rfl, afterLocks⟩

/-- What the command returns and reads. -/
structure SharedExport (config : FileShellConfig) (file : SharedFile) (value : Int)
    (trace : List FileEvent) : Prop where
  whole : (file.contentAt 0).length ≤ int32Max →
    (∀ index, index * config.chunkSize < (file.contentAt 0).length →
      file.ReadsWhole config.chunkSize index) → value = 0
  length : value = 0 → (bytesRead trace).length = (file.contentAt 0).length
  bytes : value = 0 → ∀ position < (file.contentAt 0).length,
    (bytesRead trace)[position]? =
      (file.contentAt (position / config.chunkSize + 1))[position]?

theorem SharedExport.of_loop {checksum : UInt32} {loopTrace trace : List FileEvent}
    (loop : SharedLoop config file 0 0 (.ok checksum) loopTrace)
    (length : (bytesRead loopTrace).length = (file.contentAt 0).length)
    (read : bytesRead trace = bytesRead loopTrace) : SharedExport config file 0 trace where
  whole := fun _ _ => rfl
  length := fun _ => by rw [read, length]
  bytes := by
    intro _ position inside
    rw [read]
    exact loop.bytes checksum rfl position (Nat.zero_le _) inside

/-- Printing changes nothing for the file and the lock. -/
theorem keeps_printing {calls : List FileCall}
    (printing : ∀ call ∈ calls, call.isPrinting = true) (state : SharedState) :
    ∀ call ∈ calls, (file.world.respond state call).2 = state := by
  intro call mem
  have isPrinting := printing call mem
  cases call <;> first | rfl | simp [FileCall.isPrinting] at isPrinting

theorem yields_cmdFileExport {command value : CString}
    (parsed : library.bacnetStringToUint32 value = some file.objectInstance) (block : ℕ) :
    Yields file.world ⟨0, block⟩ (cmdFileExport config library [command, value])
      fun rc trace _ => SharedExport config file rc trace := by
  rw [cmdFileExport_eq]
  simp only [fileInstanceNumberParse, parsed]
  apply Yields.bind ((yields_fileTransferOpen ⟨0, block⟩ rfl).and_wp (always_fileTransferOpen _))
  rintro (err | transfer) openTrace after ⟨⟨shared, opens⟩, outcome⟩
  · have failed := outcome.1
    apply Yields.pure
    exact
      { whole := by
          intro small
          rcases opens small with ⟨_, ⟨⟩⟩
        length := fun success => absurd success failed
        bytes := fun success => absurd success failed }
  rcases shared transfer rfl with ⟨shares, locks⟩
  rcases outcome with ⟨quiet, -⟩
  apply Yields.bind ((Yields.performAll (keeps_printing printed_exportOpening after)).and_wp
    (always_performAll printed_exportOpening))
  rintro _ openingTrace _ ⟨rfl, opening⟩
  apply Yields.bind ((yields_fileExportLoop shares
    (fun _ => (Nat.zero_mul config.chunkSize).symm) 0 _ locks).and_wp
      (always_fileExportLoop transfer (Nat.zero_le _) 0))
  rintro (err | checksum) loopTrace last ⟨loop, -, outcome⟩
  · have failed := outcome.1
    apply Yields.pure
    exact
      { whole := by
          intro _ whole
          rcases loop.whole (fun later _ => whole later) with ⟨_, ⟨⟩⟩
        length := fun success => absurd success failed
        bytes := fun success => absurd success failed }
  rcases outcome with ⟨bytes, run⟩
  apply Yields.bind ((Yields.performAll (keeps_printing printed_exportClosing last)).and_wp
    (always_performAll printed_exportClosing))
  rintro _ closingTrace _ ⟨rfl, closing⟩
  apply Yields.bind ((yields_fileTransferRelease _ _ _ _).and_wp
    (always_fileTransferRelease _ _ _))
  rintro _ releaseTrace _ ⟨-, released⟩
  apply Yields.pure
  apply SharedExport.of_loop loop (by rw [run.read, ← shares.size, ← run.total, Nat.zero_add])
  simp only [bytesRead_append, quiet.bytesRead_eq, opening.bytesRead, closing.bytesRead,
    released.quiet.bytesRead_eq, List.nil_append, List.append_nil]

end Command

/-! ## The document determines the content -/

section Document

variable {config : FileShellConfig} {library : FileShellLibrary}

theorem hexText_injective : Function.Injective hexText := by
  intro first second same
  have pairs := congrArg hexPairs same
  rw [hexPairs_hexText, hexPairs_hexText] at pairs
  exact Option.some.inj pairs

theorem importChunkText_inj {objectInstance offset : ℕ} {first second : List UInt8}
    {tail tail' : CString} (length : first.length = second.length)
    (same : importChunkText objectInstance offset (hexText first) ++ tail =
      importChunkText objectInstance offset (hexText second) ++ tail') :
    first = second ∧ tail = tail' := by
  delta importChunkText at same
  simp only [List.append_assoc, List.append_cancel_left_eq] at same
  have hex : (hexText first).length = (hexText second).length := by
    rw [length_hexText, length_hexText, length]
  rcases List.append_inj same hex with ⟨sameHex, rest⟩
  exact ⟨hexText_injective sameHex, List.append_cancel_left rest⟩

/-- The text of a decimal number before a comma determines the number. -/
theorem unsignedText_inj {first second : ℕ} {tail tail' : CString}
    (same : unsignedText first ++ (",".toList ++ tail) =
      unsignedText second ++ (",".toList ++ tail')) : first = second ∧ tail = tail' := by
  have comma : ∀ number, ',' ∉ unsignedText number := fun _ => notMem_toDigits (by decide)
  have determined := NamedStore.append_separator_inj (comma first) (comma second) same
  exact ⟨toDigits_injective determined.1, determined.2⟩

/-- The text of the chunks of a content of known size determines the content. -/
theorem chunkText_inj (objectInstance : UInt32) (size : ℕ) {offset : ℕ} {first second : List UInt8}
    {tail tail' : CString} (length : first.length = second.length)
    (same : standardOutput ((exportChunks config offset first).flatMap
        (entryCalls objectInstance size)) ++ tail =
      standardOutput ((exportChunks config offset second).flatMap
        (entryCalls objectInstance size)) ++ tail') :
    first = second := by
  induction remaining : first.length using Nat.strong_induction_on
    generalizing offset first second with
  | _ remaining ih =>
      have chunkSize := config.chunkSize_range
      by_cases empty : first = []
      · rw [empty, List.length_nil] at length
        rw [empty, List.eq_nil_of_length_eq_zero length.symm]
      have positive := List.length_pos_iff.mpr empty
      have nonempty : second ≠ [] := List.ne_nil_of_length_pos (by omega)
      have lengths : (first.take config.chunkSize).length =
          (second.take config.chunkSize).length := by
        rw [List.length_take, List.length_take, length]
      rw [exportChunks, exportChunks, pieces_of_ne_nil empty, pieces_of_ne_nil nonempty] at same
      simp only [List.flatMap_cons, entryCalls, standardOutput, List.flatMap_append,
        FileCall.output, List.flatMap_nil, List.nil_append, List.append_assoc, lengths] at same
      rcases importChunkText_inj lengths same with ⟨chunk, rest⟩
      have later := ih (first.drop config.chunkSize).length (by rw [List.length_drop]; omega)
        (by rw [List.length_drop, List.length_drop, length])
        (List.append_cancel_left (List.append_cancel_left rest)) rfl
      rw [← List.take_append_drop config.chunkSize first, chunk, later, List.take_append_drop]

/-- The document of a file determines its content. -/
theorem exportDocument_inj {first second : StoredFile}
    (sameInstance : first.objectInstance = second.objectInstance)
    (name : first.name = second.name) (mimeType : first.mimeType = second.mimeType)
    (readOnly : first.readOnly = second.readOnly)
    (same : joinLines (exportDocument config library first) =
      joinLines (exportDocument config library second)) : first.content = second.content := by
  rw [← standardOutput_exportObservations, ← standardOutput_exportObservations] at same
  simp only [exportObservations, standardOutput, List.flatMap_append, List.flatMap_cons,
    List.flatMap_nil, FileCall.output, sameInstance, name, mimeType, readOnly,
    List.append_assoc, List.nil_append, List.append_cancel_left_eq] at same
  rcases unsignedText_inj same with ⟨size, rest⟩
  have calls : exportCalls first = exportCalls second := by
    funext chunk
    rw [exportCalls, exportCalls, sameInstance, size]
  simp only [calls, List.append_cancel_left_eq] at rest
  exact chunkText_inj second.objectInstance second.content.length size rest

end Document
/-! ## Exports and moments -/

section Moments

variable {config : FileShellConfig} {library : FileShellLibrary} {file : SharedFile}

/-- The calls have printed the document of the file with the content. -/
def SharedFile.Exports (file : SharedFile) (config : FileShellConfig)
    (library : FileShellLibrary) (calls : List FileCall) (content : List UInt8) : Prop :=
  ∃ fits : content.length ≤ int32Max,
    standardOutput calls = joinLines (exportDocument config library (file.stored content fits))

theorem SharedFile.Exports.unique {calls : List FileCall} {first second : List UInt8}
    (isFirst : file.Exports config library calls first)
    (isSecond : file.Exports config library calls second) : first = second := by
  rcases isFirst with ⟨fits, text⟩
  rcases isSecond with ⟨fits', text'⟩
  rw [text] at text'
  exact @exportDocument_inj config library (file.stored first fits) (file.stored second fits')
    rfl rfl rfl rfl text'

/-- Every byte of the content is the one the file has when the chunk of the byte is read. -/
structure SharedFile.Agrees (file : SharedFile) (chunkSize : ℕ) (content : List UInt8) : Prop where
  length : content.length = (file.contentAt 0).length
  bytes : ∀ position < content.length,
    content[position]? = (file.contentAt (position / chunkSize + 1))[position]?

theorem SharedFile.Agrees.unique {chunkSize : ℕ} {first second : List UInt8}
    (isFirst : file.Agrees chunkSize first) (isSecond : file.Agrees chunkSize second) :
    first = second := by
  have lengths : first.length = second.length := isFirst.length.trans isSecond.length.symm
  apply List.ext_getElem?
  intro position
  by_cases inside : position < first.length
  · rw [isFirst.bytes position inside, isSecond.bytes position (lengths ▸ inside)]
  · rw [List.getElem?_eq_none (by omega), List.getElem?_eq_none (by omega)]

theorem SharedExport.agrees {value : Int} {trace : List FileEvent}
    (shared : SharedExport config file value trace) (success : value = 0) :
    file.Agrees config.chunkSize (bytesRead trace) where
  length := shared.length success
  bytes := fun position inside =>
    shared.bytes success position (shared.length success ▸ inside)

/-- What the world answers about the file. -/
def SharedFile.Answers (file : SharedFile) : (call : FileCall) → call.Response → Prop
  | .bacfileValidInstance objectInstance, valid =>
      valid = true → objectInstance = file.objectInstance
  | .bacfileNameAnsi objectInstance, name =>
      objectInstance = file.objectInstance → name = file.name
  | .bacfileFileType objectInstance, mimeType =>
      objectInstance = file.objectInstance → mimeType = file.mimeType
  | .bacfileReadOnly objectInstance, readOnly =>
      objectInstance = file.objectInstance → readOnly = file.readOnly
  | _, _ => True

theorem SharedFile.world_answers (state : SharedState) (call : FileCall) :
    file.Answers call (file.world.respond state call).1 := by
  cases call <;> simp +contextual [SharedFile.Answers, SharedFile.world]

/-- A successful export prints the document of the file with the bytes read. -/
theorem exports_bytesRead {argv : List CString} {exported : StoredFile} {trace : List FileEvent}
    (run : ExportRun config library argv exported trace)
    (answers : ∀ event ∈ trace, file.Answers event.1 event.2) :
    file.Exports config library (observations trace) (bytesRead trace) := by
  have sameInstance : exported.objectInstance = file.objectInstance := answers _ run.valid rfl
  have name : exported.name = file.name := answers _ run.name sameInstance
  have mimeType : exported.mimeType = file.mimeType := answers _ run.mimeType sameInstance
  have readOnly : exported.readOnly = file.readOnly := answers _ run.readOnly sameInstance
  refine ⟨run.content ▸ exported.content_le, ?_⟩
  rw [run.calls, standardOutput_exportObservations]
  simp only [exportDocument, exportHeader, exportEntries, exportFooter, exportCrc,
    SharedFile.stored, sameInstance, name, mimeType, readOnly, run.content]

/-- The gap after the last release: the lock is released after the capture and every chunk. -/
def SharedFile.lastGap (file : SharedFile) (config : FileShellConfig) : ℕ :=
  (exportChunks config 0 (file.contentAt 0)).length + 1

/-- What is printed is the document of the content of one moment of the command. -/
def SharedFile.ExportsMoment (file : SharedFile) (config : FileShellConfig)
    (library : FileShellLibrary) (calls : List FileCall) : Prop :=
  ∃ content, file.Moment (file.lastGap config) content ∧ file.Exports config library calls content

theorem exportsMoment_iff {calls : List FileCall} {bytes : List UInt8}
    (exports : file.Exports config library calls bytes)
    (agrees : file.Agrees config.chunkSize bytes) :
    file.ExportsMoment config library calls ↔
      ∃ content, file.Moment (file.lastGap config) content ∧
        file.Agrees config.chunkSize content := by
  constructor
  · rintro ⟨content, moment, isContent⟩
    rcases exports.unique isContent with rfl
    exact ⟨bytes, moment, agrees⟩
  · rintro ⟨content, moment, isContent⟩
    rcases agrees.unique isContent with rfl
    exact ⟨bytes, moment, exports⟩

/-- Nothing is written between the capture and the read of the last chunk. -/
def SharedFile.Undisturbed (file : SharedFile) (config : FileShellConfig) : Prop :=
  ∀ gap, 1 ≤ gap → gap < file.lastGap config → file.writes gap = []

theorem contentAt_of_undisturbed (undisturbed : file.Undisturbed config) {gap : ℕ}
    (inside : gap < file.lastGap config) : file.contentAt gap = file.contentAt 0 := by
  induction gap with
  | zero => rfl
  | succ gap ih =>
      have step : file.contentAt (gap + 1) =
          applyWrites (file.writes (gap + 1)) (file.contentAt gap) := rfl
      rw [step, undisturbed (gap + 1) (by omega) inside]
      exact ih (by omega)

theorem agrees_of_undisturbed (undisturbed : file.Undisturbed config) :
    file.Agrees config.chunkSize (file.contentAt 0) where
  length := rfl
  bytes := by
    intro position inside
    have chunk :
        (exportChunks config 0 (file.contentAt 0))[position / config.chunkSize]? ≠ none := by
      have start := Nat.div_mul_le_self position config.chunkSize
      rw [exportChunks, getElem?_pieces, if_pos (by omega)]
      simp
    rw [ne_eq, List.getElem?_eq_none_iff, not_le] at chunk
    rw [contentAt_of_undisturbed undisturbed (Nat.succ_lt_succ chunk)]

/-- The file has the content of the start of a gap at a moment of the command. -/
theorem SharedFile.moment_contentAt {last gap : ℕ} (inside : gap ≤ last) :
    file.Moment last (file.contentAt gap) := by
  refine ⟨gap, inside, file.writes gap, List.prefix_rfl, ?_⟩
  cases gap <;> rfl

/-- The run of the command while the writers are at work. -/
def SharedFile.exportRun (file : SharedFile) (config : FileShellConfig)
    (library : FileShellLibrary) (argv : List CString) (block : ℕ) :
    Outcome FileCall FileCall.Response Int SharedState :=
  (cmdFileExport config library argv).run file.world ⟨0, block⟩

/-- A successful export prints the document of a content that every chunk agrees with. -/
theorem exports_of_success {argv : List CString} {block : ℕ}
    (success : (file.exportRun config library argv block).value = 0) :
    ∃ bytes, file.Agrees config.chunkSize bytes ∧ file.Exports config library
      (observations (file.exportRun config library argv block).trace) bytes := by
  have outcome := wp_sound (@always_cmdFileExport config library argv) file.world ⟨0, block⟩
    fun _ _ => trivial
  rcases outcome.success success with ⟨exported, run⟩
  have answers := @mem_trace_allowed _ _ _ file.Answers file.world SharedFile.world_answers
    (cmdFileExport config library argv) ⟨0, block⟩
  rcases run.argument with ⟨command, value, rfl, parsed⟩
  have sameInstance : exported.objectInstance = file.objectInstance := answers _ run.valid rfl
  rw [sameInstance] at parsed
  have shared := @yields_cmdFileExport config library file command value parsed block
  exact ⟨_, shared.agrees success, exports_bytesRead run answers⟩

/--
A successful export prints a document of the file in which every chunk is the content of
the file when the chunk is read. It is the document of one moment if and only if some
moment's content agrees with the file at the read of every chunk, in particular when
nothing is written from the capture to the last read. Otherwise an error is printed.
-/
theorem cmdFileExport_moments (config : FileShellConfig) (library : FileShellLibrary)
    (file : SharedFile) (argv : List CString) (block : ℕ) :
    ((file.exportRun config library argv block).value = 0 →
      (∃ bytes, file.Agrees config.chunkSize bytes ∧ file.Exports config library
        (observations (file.exportRun config library argv block).trace) bytes) ∧
      (file.ExportsMoment config library
        (observations (file.exportRun config library argv block).trace) ↔
          ∃ content, file.Moment (file.lastGap config) content ∧
            file.Agrees config.chunkSize content) ∧
      (file.Undisturbed config → file.ExportsMoment config library
        (observations (file.exportRun config library argv block).trace))) ∧
    ((file.exportRun config library argv block).value ≠ 0 →
      printedErrors (observations (file.exportRun config library argv block).trace) ≠ []) := by
  constructor
  · intro success
    rcases @exports_of_success config library file argv block success with ⟨bytes, agrees, exports⟩
    have momentIff := exportsMoment_iff exports agrees
    refine ⟨⟨bytes, agrees, exports⟩, momentIff, fun undisturbed => momentIff.mpr ?_⟩
    exact ⟨file.contentAt 0, SharedFile.moment_contentAt (Nat.zero_le _),
      agrees_of_undisturbed undisturbed⟩
  · have outcome := wp_sound (@always_cmdFileExport config library argv) file.world ⟨0, block⟩
      fun _ _ => trivial
    exact outcome.failure

/-- A file that is replaced while the first of its two chunks is printed. -/
def SharedFile.replaced : SharedFile where
  objectInstance := 7
  pathname := "/lfs/seven".toList
  name := none
  mimeType := none
  readOnly := false
  pathname_ne := by decide
  initial := [1, 2, 3, 4]
  writes := fun gap => if gap = 2 then [.write 0 [9, 9, 9, 9]] else []
  supported := fun _ => true

theorem SharedFile.replaced_contentAt (gap : ℕ) :
    replaced.contentAt gap = if gap < 2 then [1, 2, 3, 4] else [9, 9, 9, 9] := by
  induction gap with
  | zero => rfl
  | succ gap ih =>
      have step : replaced.contentAt (gap + 1) =
          applyWrites (replaced.writes (gap + 1)) (replaced.contentAt gap) := rfl
      rw [step, ih]
      rcases gap with _ | _ | gap
      · rfl
      · decide
      · rw [if_neg (by omega), if_neg (by omega)]
        rfl

theorem SharedFile.replaced_moment {last : ℕ} {content : List UInt8}
    (moment : replaced.Moment last content) :
    content = [1, 2, 3, 4] ∨ content = [9, 9, 9, 9] := by
  rcases moment with ⟨gap, -, done, before, rfl⟩
  by_cases second : gap = 2
  · subst second
    rcases List.prefix_cons_iff.mp before with rfl | ⟨rest, rfl, others⟩
    · left
      decide
    · rcases List.prefix_nil.mp others with rfl
      right
      decide
  · have nothing : replaced.writes gap = [] := if_neg second
    rw [nothing, List.prefix_nil] at before
    subst before
    cases gap with
    | zero => exact .inl rfl
    | succ gap =>
        show replaced.contentAt gap = _ ∨ replaced.contentAt gap = _
        rw [replaced_contentAt]
        split <;> simp

/-- The export of the replaced file joins the first half of one content to the second of another. -/
theorem cmdFileExport_torn :
    ¬∀ (config : FileShellConfig) (library : FileShellLibrary) (file : SharedFile)
      (argv : List CString) (block : ℕ),
      ((file.exportRun config library argv block).value = 0 → file.ExportsMoment config library
        (observations (file.exportRun config library argv block).trace)) ∧
      ((file.exportRun config library argv block).value ≠ 0 →
        printedErrors (observations (file.exportRun config library argv block).trace) ≠ []) := by
  intro claim
  have success : (SharedFile.replaced.exportRun .pairs .reference
      ["export".toList, "7".toList] 0).value = 0 := by
    apply (@yields_cmdFileExport .pairs .reference .replaced "export".toList "7".toList rfl 0).whole
    · decide
    · intro index inside
      have chunk : index * 2 < 4 := inside
      rcases index with _ | _ | index
      · exact ⟨by decide, by decide⟩
      · exact ⟨by decide, by decide⟩
      · omega
  have isMoment := (claim .pairs .reference .replaced ["export".toList, "7".toList] 0).1 success
  rcases exports_of_success success with ⟨bytes, agrees, exports⟩
  rcases (exportsMoment_iff exports agrees).mp isMoment with ⟨content, moment, isContent⟩
  rcases SharedFile.replaced_moment moment with rfl | rfl
  · have third := isContent.bytes 2 (by decide)
    revert third
    decide
  · have first := isContent.bytes 0 (by decide)
    revert first
    decide

end Moments

end BacnetZephyr
