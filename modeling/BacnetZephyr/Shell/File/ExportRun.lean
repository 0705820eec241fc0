import BacnetZephyr.Shell.File.Export

/-!
# Runs of the export

Nothing is assumed of the answers: the file may change, shrink or disappear between two
chunks. `always_cmdFileExport` says what is known of every run of `cmd_file_export`. A run
that succeeds has printed the document of a file, the one whose content are the bytes
read; a run that fails has printed an error.
-/

namespace BacnetZephyr

open CLib Program ByteStream

/-! ## What a trace says about the file -/

/-- The bytes a call has read from the file. -/
def readData : FileEvent → List UInt8
  | ⟨.bacfileReadOffset _ _ _, bytes⟩ => bytes.1
  | _ => []

def bytesRead (trace : List FileEvent) : List UInt8 := trace.flatMap readData

/-- The answer is one of the same File object, and the read is not short. -/
def Confirms (pathname : CString) : FileEvent → Prop
  | ⟨.bacfileValidInstance _, valid⟩ => valid = true
  | ⟨.bacfilePathname _, answer⟩ => answer = some pathname
  | ⟨.bacfileFileAccessStream _, stream⟩ => stream = true
  | ⟨.bacfileReadOffset _ _ requested, bytes⟩ => bytes.1.length = requested
  | _ => True

theorem observations_append (first second : List FileEvent) :
    observations (first ++ second) = observations first ++ observations second :=
  List.filterMap_append

theorem bytesRead_append (first second : List FileEvent) :
    bytesRead (first ++ second) = bytesRead first ++ bytesRead second :=
  List.flatMap_append

/-- Nothing that can be seen of a run. -/
def Quiet (trace : List FileEvent) : Prop := ∀ event ∈ trace, event.1.isObserved = false

@[simp]
theorem quiet_nil : Quiet [] := by simp [Quiet]

@[simp]
theorem quiet_cons (event : FileEvent) (trace : List FileEvent) :
    Quiet (event :: trace) ↔ event.1.isObserved = false ∧ Quiet trace :=
  List.forall_mem_cons

@[simp]
theorem quiet_append (first second : List FileEvent) :
    Quiet (first ++ second) ↔ Quiet first ∧ Quiet second :=
  List.forall_mem_append

theorem Quiet.observations_eq {trace : List FileEvent} (quiet : Quiet trace) :
    observations trace = [] := by
  rw [observations, List.filterMap_eq_nil_iff]
  intro event mem
  rw [observe, quiet event mem]
  rfl

theorem Quiet.bytesRead_eq {trace : List FileEvent} (quiet : Quiet trace) :
    bytesRead trace = [] := by
  rw [bytesRead, List.flatMap_eq_nil_iff]
  rintro ⟨op, response⟩ mem
  have unobserved := quiet _ mem
  cases op <;> first | rfl | contradiction

/-! ## Rules for all answers -/

/-- Whatever the answers, the postcondition holds of the value and the trace. -/
abbrev Always {α : Type} (program : FileProgram α) (post : α → List FileEvent → Prop) : Prop :=
  program.wp (fun _ _ => True) post

section Rules

variable {α β : Type} {post : α → List FileEvent → Prop}

theorem Always.call {op : FileCall} {next : op.Response → FileProgram α}
    (rest : ∀ response, Always (next response) fun value trace =>
      post value (⟨op, response⟩ :: trace)) : Always (op.perform >>= next) post := by
  rw [Always, wp_bind]
  intro response _
  exact rest response

theorem Always.bind {program : FileProgram β} {next : β → FileProgram α}
    {middle : β → List FileEvent → Prop} (first : Always program middle)
    (rest : ∀ value trace, middle value trace →
      Always (next value) fun value' trace' => post value' (trace ++ trace')) :
    Always (program >>= next) post := by
  rw [Always, wp_bind]
  apply wp_mono first
  intro value trace holds
  exact rest value trace holds

theorem Always.pure {value : α} (holds : post value []) : Always (pure value) post := holds

end Rules

/-! ## The steps of an export -/

/-- The codes a capture fails with; `file_transfer_status` has a message for each. -/
def IsCaptureError (err : Int) : Prop :=
  err = -Errno.enoent ∨ err = -Errno.einval ∨ err = -Errno.enotsup ∨ err = -Errno.eoverflow ∨
    err = -Errno.enomem

/-- What a transfer takes over from the answers of its capture. -/
structure CapturedFrom (objectInstance : UInt32) (transfer : FileTransfer)
    (trace : List FileEvent) : Prop where
  sameInstance : transfer.objectInstance = objectInstance
  valid : (⟨.bacfileValidInstance objectInstance, true⟩ : FileEvent) ∈ trace
  pathname : transfer.pathname.text ≠ []
  name : ∃ name, transfer.name.text = name.getD [] ∧
    (⟨.bacfileNameAnsi objectInstance, name⟩ : FileEvent) ∈ trace
  mimeType : ∃ mimeType, transfer.mimeType.text = mimeType.getD [] ∧
    (⟨.bacfileFileType objectInstance, mimeType⟩ : FileEvent) ∈ trace
  readOnly : (⟨.bacfileReadOnly objectInstance, transfer.readOnly⟩ : FileEvent) ∈ trace
  confirms : ∀ event ∈ trace, Confirms transfer.pathname.text event

/-- The calls are not observed and say nothing about the identity of the file. -/
structure Silent (trace : List FileEvent) : Prop where
  quiet : Quiet trace
  confirms : ∀ pathname, ∀ event ∈ trace, Confirms pathname event

theorem always_fileCstringOwn (value : Option CString) :
    Always (fileCstringOwn value) fun owned trace => Silent trace ∧
      match owned with
      | .error err => err = -Errno.enomem
      | .ok copy => copy.text = value.getD [] := by
  simp only [fileCstringOwn]
  apply Always.call
  intro block
  cases block with
  | none => exact Always.pure ⟨⟨by simp [FileCall.isObserved], by simp [Confirms]⟩, rfl⟩
  | some block =>
      apply Always.call
      intro _
      exact Always.pure ⟨⟨by simp [FileCall.isObserved], by simp [Confirms]⟩, rfl⟩

theorem always_fileTransferRelease (pathname name mimeType : Option OwnedString) :
    Always (fileTransferRelease pathname name mimeType) fun _ trace => Silent trace := by
  simp only [fileTransferRelease]
  apply Always.call
  intro _
  apply Always.call
  intro _ _ _
  exact ⟨by simp [FileCall.isObserved], by simp [Confirms]⟩

def FileCall.isPrinting : FileCall → Bool
  | .shellFprintf _ | .shellPrint _ | .shellError _ | .blockAccess _ => true
  | _ => false

/-- The trace of calls that print says nothing about the file. -/
structure Printed (calls : List FileCall) (trace : List FileEvent) : Prop where
  observations : observations trace = calls.filter FileCall.isObserved
  bytesRead : bytesRead trace = []
  confirms : ∀ pathname, ∀ event ∈ trace, Confirms pathname event

theorem always_performAll {calls : List FileCall}
    (printing : ∀ call ∈ calls, call.isPrinting = true) :
    Always (performAll calls) fun _ trace => Printed calls trace := by
  induction calls with
  | nil => exact Always.pure ⟨rfl, rfl, by simp⟩
  | cons call calls ih =>
      rw [List.forall_mem_cons] at printing
      show Always (call.perform >>= fun _ => performAll calls) _
      apply Always.call
      intro response
      apply wp_mono (ih printing.2)
      rintro _ trace ⟨seen, read, confirms⟩
      have nothing : readData ⟨call, response⟩ = [] ∧
          ∀ pathname, Confirms pathname ⟨call, response⟩ := by
        cases call <;> simp_all [FileCall.isPrinting, readData, Confirms]
      refine ⟨?_, ?_, ?_⟩
      · rw [List.filter_cons, ← seen]
        cases observed : call.isObserved <;> simp [observations, observe, observed]
      · rw [bytesRead, List.flatMap_cons, nothing.1, List.nil_append]
        exact read
      · intro pathname
        rw [List.forall_mem_cons]
        exact ⟨nothing.2 pathname, confirms pathname⟩

theorem always_fileTransferCapture (objectInstance : UInt32) :
    Always (fileTransferCapture objectInstance) fun captured trace => Quiet trace ∧
      match captured with
      | .error err => IsCaptureError err
      | .ok transfer => CapturedFrom objectInstance transfer trace := by
  simp only [fileTransferCapture]
  apply Always.call
  intro valid
  split
  · exact Always.pure ⟨by simp [FileCall.isObserved], by simp [IsCaptureError]⟩
  rename_i isValid
  obtain rfl : valid = true := by simpa using isValid
  apply Always.call
  intro answer
  split
  · exact Always.pure ⟨by simp [FileCall.isObserved], by simp [IsCaptureError]⟩
  · exact Always.pure ⟨by simp [FileCall.isObserved], by simp [IsCaptureError]⟩
  rename_i path nonempty
  apply Always.call
  intro stream
  split
  · exact Always.pure ⟨by simp [FileCall.isObserved], by simp [IsCaptureError]⟩
  rename_i isStream
  apply Always.call
  intro fileSize
  split
  · apply Always.bind (always_fileCstringOwn (some path))
    rintro (err | pathname) pathTrace ⟨pathSilent, isPath⟩
    · refine Always.pure ⟨?_, by simp [IsCaptureError, isPath]⟩
      simp [FileCall.isObserved, pathSilent.quiet]
    apply Always.call
    intro nameAnswer
    apply Always.bind (always_fileCstringOwn nameAnswer)
    rintro (err | name) nameTrace ⟨nameSilent, isName⟩
    · apply Always.bind (always_fileTransferRelease _ _ _)
      intro _ releaseTrace released
      refine Always.pure ⟨?_, by simp [IsCaptureError, isName]⟩
      simp [FileCall.isObserved, pathSilent.quiet, nameSilent.quiet, released.quiet]
    apply Always.call
    intro typeAnswer
    apply Always.bind (always_fileCstringOwn typeAnswer)
    rintro (err | mimeType) typeTrace ⟨typeSilent, isType⟩
    · apply Always.bind (always_fileTransferRelease _ _ _)
      intro _ releaseTrace released
      refine Always.pure ⟨?_, by simp [IsCaptureError, isType]⟩
      simp [FileCall.isObserved, pathSilent.quiet, nameSilent.quiet, typeSilent.quiet,
        released.quiet]
    apply Always.call
    intro readOnly
    refine Always.pure ⟨?_, rfl, by simp, ?_, ⟨nameAnswer, isName, by simp⟩,
      ⟨typeAnswer, isType, by simp⟩, by simp, ?_⟩
    · simp [FileCall.isObserved, pathSilent.quiet, nameSilent.quiet, typeSilent.quiet]
    · rw [isPath]
      exact nonempty
    · simp only [List.forall_mem_cons, List.forall_mem_append]
      have confirmed : stream = true := by simpa using isStream
      simpa [Confirms, isPath, confirmed] using
        ⟨pathSilent.confirms _, nameSilent.confirms _, typeSilent.confirms _⟩
  · exact Always.pure ⟨by simp [FileCall.isObserved], by simp [IsCaptureError]⟩

theorem always_fileTransferRevalidate (transfer : FileTransfer) :
    Always (fileTransferRevalidate transfer) fun err trace => Quiet trace ∧
      (err = 0 → ∀ event ∈ trace, Confirms transfer.pathname.text event) := by
  simp only [fileTransferRevalidate]
  apply Always.call
  intro valid
  split
  · exact Always.pure ⟨by simp [FileCall.isObserved], by simp [Errno.enoent]⟩
  rename_i isValid
  apply Always.call
  rintro (_ | pathname)
  · exact Always.pure ⟨by simp [FileCall.isObserved], by simp [Errno.enoent]⟩
  apply Always.call
  intro _
  split
  · exact Always.pure ⟨by simp [FileCall.isObserved], by simp [Errno.enoent]⟩
  rename_i isPath
  apply Always.call
  intro stream
  split
  · exact Always.pure ⟨by simp [FileCall.isObserved], by simp [Errno.enoent]⟩
  rename_i isStream
  have confirmed : valid = true ∧ pathname = transfer.pathname.text ∧ stream = true :=
    ⟨by simpa using isValid, by simpa using isPath, by simpa using isStream⟩
  apply Always.call
  intro size
  split
  · exact Always.pure ⟨by simp [FileCall.isObserved], by simp [Errno.eoverflow]⟩
  · refine Always.pure ⟨by simp [FileCall.isObserved], ?_⟩
    simp [Confirms, confirmed]

/-- What is known of a read, whatever the answers. -/
def ReadOutcome (transfer : FileTransfer) (offset requested : ℕ)
    (result : Except Int { bytes : List UInt8 // bytes.length ≤ requested })
    (trace : List FileEvent) : Prop :=
  match result with
  | .error err => err ≠ 0 ∧ Quiet trace
  | .ok bytes =>
      observations trace = [.bacfileReadOffset transfer.objectInstance offset requested] ∧
        bytesRead trace = bytes.1 ∧
        (bytes.1.length = requested → ∀ event ∈ trace, Confirms transfer.pathname.text event)

theorem always_fileTransferRead (transfer : FileTransfer) (offset requested : ℕ) :
    Always (fileTransferRead transfer offset requested)
      (ReadOutcome transfer offset requested) := by
  simp only [fileTransferRead]
  apply Always.call
  intro _
  apply Always.bind (always_fileTransferRevalidate transfer)
  rintro err trace ⟨quiet, confirms⟩
  split
  · rename_i same
    apply Always.call
    intro bytes
    apply Always.call
    intro _
    apply Always.pure
    refine ⟨?_, ?_, ?_⟩
    · have before : observations trace = [] := quiet.observations_eq
      rw [observations] at before
      simp [observations, observe, FileCall.isObserved, before]
    · have before : bytesRead trace = [] := quiet.bytesRead_eq
      rw [bytesRead] at before
      simp [bytesRead, readData, before]
    · intro whole
      simp only [List.forall_mem_cons, List.forall_mem_append]
      simpa [Confirms, whole] using confirms same
  · rename_i changed
    apply Always.call
    intro _
    exact Always.pure ⟨changed, by simp [FileCall.isObserved, quiet]⟩

theorem always_fileTransferChanged (objectInstance : UInt32) (err : Int) :
    Always (fileTransferChanged objectInstance err) fun status trace =>
      status = err ∧ ∃ message, observations trace = [.shellError message] := by
  simp only [fileTransferChanged]
  split
  · apply Always.call
    intro _
    exact Always.pure ⟨rfl, _, rfl⟩
  · apply Always.call
    intro _
    exact Always.pure ⟨rfl, _, rfl⟩

theorem always_fileTransferStatus (objectInstance : UInt32) {err : Int}
    (known : IsCaptureError err) :
    Always (fileTransferStatus objectInstance err false) fun status trace =>
      status = err ∧ ∃ message, observations trace = [.shellError message] := by
  have printed : ∀ text : CString, Always
      (do
        shellError text
        return err)
      fun status trace => status = err ∧ ∃ message, observations trace = [.shellError message] := by
    intro text
    apply Always.call
    intro _
    exact Always.pure ⟨rfl, _, rfl⟩
  simp only [fileTransferStatus]
  rcases known with rfl | rfl | rfl | rfl | rfl
  all_goals exact printed _

/-! ## The loop -/

section Loop

variable (config : FileShellConfig) (library : FileShellLibrary)

/-- The calls of a round that reads and prints a chunk. -/
def entryCalls (objectInstance : UInt32) (size : ℕ) (chunk : ℕ × List UInt8) : List FileCall :=
  [.bacfileReadOffset objectInstance chunk.1 chunk.2.length,
    .shellPrint (importChunkText objectInstance.toNat chunk.1 (hexText chunk.2) ++
      if chunk.1 + chunk.2.length < size then ",".toList else [])]

/-- The loop has read the bytes up to the end and printed their chunks. -/
structure LoopRun (transfer : FileTransfer) (offset : ℕ) (crc checksum : UInt32)
    (bytes : List UInt8) (trace : List FileEvent) : Prop where
  total : offset + bytes.length = transfer.fileSize
  calls : observations trace =
    (exportChunks config offset bytes).flatMap
      (entryCalls transfer.objectInstance transfer.fileSize)
  checksum : checksum = (exportChunks config offset bytes).foldl
    (fun crc chunk => library.crc32IeeeUpdate crc chunk.2) crc
  read : bytesRead trace = bytes
  confirms : ∀ event ∈ trace, Confirms transfer.pathname.text event

/-- The reads start at an offset, stay inside the size and advance. -/
structure ReadsInside (offset size : ℕ) (calls : List FileCall) : Prop where
  inside : ∀ request ∈ readRequests calls, request.1 + request.2 ≤ size
  rounds : (readRequests calls).length ≤ size - offset

def LoopOutcome (transfer : FileTransfer) (offset : ℕ) (crc : UInt32)
    (result : Except Int UInt32) (trace : List FileEvent) : Prop :=
  ReadsInside offset transfer.fileSize (observations trace) ∧
    match result with
    | .error err => err ≠ 0 ∧ printedErrors (observations trace) ≠ []
    | .ok checksum => ∃ bytes, LoopRun config library transfer offset crc checksum bytes trace

variable {config library}

theorem readRequests_append (first second : List FileCall) :
    readRequests (first ++ second) = readRequests first ++ readRequests second :=
  List.filterMap_append

theorem printedErrors_append (first second : List FileCall) :
    printedErrors (first ++ second) = printedErrors first ++ printedErrors second :=
  List.filterMap_append

theorem observations_print (text : CString) (trace : List FileEvent) :
    observations (⟨.shellPrint text, ()⟩ :: trace) = .shellPrint text :: observations trace :=
  rfl

theorem observations_error (text : CString) (trace : List FileEvent) :
    observations (⟨.shellError text, ()⟩ :: trace) = .shellError text :: observations trace :=
  rfl

/-- A round that reads a whole chunk before the rest of the loop. -/
theorem LoopRun.round {transfer : FileTransfer} {offset : ℕ} {crc checksum : UInt32}
    {data bytes : List UInt8} {readTrace restTrace : List FileEvent}
    (run : LoopRun config library transfer (offset + data.length)
      (library.crc32IeeeUpdate crc data) checksum bytes restTrace)
    (more : offset < transfer.fileSize)
    (whole : data.length = min (transfer.fileSize - offset) config.chunkSize)
    (readCall : observations readTrace = [.bacfileReadOffset transfer.objectInstance offset
      (min (transfer.fileSize - offset) config.chunkSize)])
    (read : bytesRead readTrace = data)
    (confirms : ∀ event ∈ readTrace, Confirms transfer.pathname.text event) :
    LoopRun config library transfer offset crc checksum (data ++ bytes)
      (readTrace ++ ⟨.shellPrint (importChunkText transfer.objectInstance.toNat offset
        (hexText data) ++
          if offset + data.length < transfer.fileSize then ",".toList else []), ()⟩ ::
        restTrace) := by
  have chunkSize := config.chunkSize_range
  have total := run.total
  have nonempty : data ≠ [] := List.ne_nil_of_length_pos (by omega)
  have isPiece : data.length = config.chunkSize ∨
      (data.length ≤ config.chunkSize ∧ bytes = []) := by
    by_cases full : config.chunkSize ≤ transfer.fileSize - offset
    · left
      omega
    · right
      exact ⟨by omega, List.eq_nil_of_length_eq_zero (by omega)⟩
  have chunks : exportChunks config offset (data ++ bytes) =
      (offset, data) :: exportChunks config (offset + data.length) bytes :=
    pieces_append nonempty isPiece
  exact
    { total := by
        rw [List.length_append]
        omega
      calls := by
        rw [observations_append, readCall, observations_print, run.calls, chunks,
          List.flatMap_cons, entryCalls, whole]
        rfl
      checksum := by rw [chunks, List.foldl_cons, run.checksum]
      read := by
        rw [bytesRead_append, read, bytesRead, List.flatMap_cons, ← bytesRead, run.read]
        rfl
      confirms := by
        simp only [List.forall_mem_append, List.forall_mem_cons]
        exact ⟨confirms, trivial, run.confirms⟩ }

/-- At the end of the file the loop has nothing left to read. -/
theorem LoopRun.finished {transfer : FileTransfer} {offset : ℕ}
    (atEnd : offset = transfer.fileSize) (crc : UInt32) :
    LoopRun config library transfer offset crc crc [] [] :=
  { total := atEnd
    calls := by
      rw [exportChunks, pieces_nil]
      rfl
    checksum := by
      rw [exportChunks, pieces_nil]
      rfl
    read := rfl
    confirms := by simp }

/-- A round reads once, in front of the reads of the rounds after it. -/
theorem ReadsInside.round {objectInstance : UInt32} {offset amount advance size : ℕ}
    {text : CString} {calls : List FileCall} (reads : ReadsInside (offset + advance) size calls)
    (inside : offset + amount ≤ size) (more : offset < size) (positive : 0 < advance) :
    ReadsInside offset size
      (.bacfileReadOffset objectInstance offset amount :: .shellPrint text :: calls) := by
  have requests : readRequests (.bacfileReadOffset objectInstance offset amount ::
      .shellPrint text :: calls) = (offset, amount) :: readRequests calls := rfl
  constructor
  · rw [requests, List.forall_mem_cons]
    exact ⟨inside, reads.inside⟩
  · have rounds := reads.rounds
    rw [requests, List.length_cons]
    omega

theorem always_fileExportLoop (transfer : FileTransfer) {offset : ℕ}
    (inside : offset ≤ transfer.fileSize) (crc : UInt32) :
    Always (fileExportLoop config library transfer offset crc)
      (LoopOutcome config library transfer offset crc) := by
  induction remaining : transfer.fileSize - offset using Nat.strong_induction_on
    generalizing offset crc with
  | _ remaining ih =>
      have chunkSize := config.chunkSize_range
      rw [fileExportLoop]
      split
      · rename_i more
        apply Always.bind (always_fileTransferRead transfer offset _)
        rintro (err | data) readTrace outcome
        · -- the object has changed
          rcases outcome with ⟨failed, quiet⟩
          apply Always.bind (always_fileTransferRelease _ _ _)
          intro _ releaseTrace released
          apply Always.bind (always_fileTransferChanged _ err)
          rintro status changedTrace ⟨rfl, message, printed⟩
          apply Always.pure
          have calls : observations (readTrace ++ (releaseTrace ++ (changedTrace ++ []))) =
              [.shellError message] := by
            simp only [observations_append, quiet.observations_eq,
              released.quiet.observations_eq, printed]
            rfl
          rw [LoopOutcome, calls]
          exact ⟨⟨by simp [readRequests], by simp [readRequests]⟩, failed, by simp [printedErrors]⟩
        · rcases outcome with ⟨readCall, read, confirms⟩
          simp only
          split
          · -- the read is short
            apply Always.call
            intro _
            apply Always.bind (always_fileTransferRelease _ _ _)
            intro _ releaseTrace released
            apply Always.pure
            rw [LoopOutcome, observations_append, readCall, observations_error,
              observations_append, released.quiet.observations_eq]
            refine ⟨⟨?_, ?_⟩, by decide, by simp [printedErrors]⟩
            · intro request mem
              rcases List.mem_singleton.mp mem with rfl
              simp only
              omega
            · rw [show readRequests _ = [_] from rfl, List.length_singleton]
              omega
          · rename_i whole
            rw [ne_eq, not_not] at whole
            have hex : library.bin2hex data.1 (2 * config.chunkSize + 1) = hexText data.1 :=
              library.bin2hex_eq _ _ (by omega)
            rw [hex, if_neg (by simp)]
            apply Always.call
            intro _
            apply wp_mono (ih (transfer.fileSize - (offset + data.1.length)) (by omega)
              (by omega) (library.crc32IeeeUpdate crc data.1) rfl)
            rintro result restTrace ⟨reads, outcome⟩
            rw [LoopOutcome.eq_def, observations_append, readCall, observations_print]
            refine ⟨reads.round (by omega) (by omega) (by omega), ?_⟩
            cases result with
            | error err => exact ⟨outcome.1, outcome.2⟩
            | ok checksum =>
                rcases outcome with ⟨bytes, run⟩
                exact ⟨data.1 ++ bytes, run.round more whole readCall read (confirms whole)⟩
      · rename_i finished
        have atEnd : offset = transfer.fileSize := by omega
        refine Always.pure ⟨⟨?_, ?_⟩, [], LoopRun.finished atEnd crc⟩
        · simp [observations, readRequests]
        · simp [observations, readRequests]

end Loop

/-! ## The command -/

section Command

variable {config : FileShellConfig} {library : FileShellLibrary}

theorem IsCaptureError.ne_zero {err : Int} (known : IsCaptureError err) : err ≠ 0 := by
  rcases known with rfl | rfl | rfl | rfl | rfl <;> decide

theorem always_fileTransferOpen (objectInstance : UInt32) :
    Always (fileTransferOpen objectInstance) fun opened trace =>
      match opened with
      | .error err => err ≠ 0 ∧ ∃ message, observations trace = [.shellError message]
      | .ok transfer => Quiet trace ∧ CapturedFrom objectInstance transfer trace := by
  simp only [fileTransferOpen]
  apply Always.call
  intro _
  apply Always.bind (always_fileTransferCapture objectInstance)
  rintro (err | transfer) trace ⟨quiet, captured⟩
  · apply Always.call
    intro _
    apply Always.bind (always_fileTransferStatus objectInstance captured)
    rintro status statusTrace ⟨rfl, message, printed⟩
    apply Always.pure
    have before : observations (⟨.bacnetLock, ()⟩ :: (trace ++ [⟨.bacnetUnlock, ()⟩])) = [] := by
      apply Quiet.observations_eq
      simp [FileCall.isObserved, quiet]
    refine ⟨captured.ne_zero, message, ?_⟩
    rw [← printed]
    have split := observations_append (⟨.bacnetLock, ()⟩ :: (trace ++ [⟨.bacnetUnlock, ()⟩]))
      statusTrace
    rw [before] at split
    simpa using split
  · apply Always.call
    intro _
    apply Always.pure
    refine ⟨by simp [FileCall.isObserved, quiet], ?_⟩
    rcases captured.name with ⟨name, isName, memName⟩
    rcases captured.mimeType with ⟨mimeType, isType, memType⟩
    exact
      { sameInstance := captured.sameInstance
        valid := by simp [captured.valid]
        pathname := captured.pathname
        name := ⟨name, isName, by simp [memName]⟩
        mimeType := ⟨mimeType, isType, by simp [memType]⟩
        readOnly := by simp [captured.readOnly]
        confirms := by
          simp only [List.forall_mem_cons, List.forall_mem_append]
          simpa [Confirms] using captured.confirms }

/-- The file a transfer and the bytes read describe. -/
def exportedFile (transfer : FileTransfer) (pathname : transfer.pathname.text ≠ [])
    (name mimeType : Option CString) (bytes : List UInt8)
    (total : bytes.length = transfer.fileSize) : StoredFile where
  objectInstance := transfer.objectInstance
  content := bytes
  pathname := transfer.pathname.text
  name
  mimeType
  readOnly := transfer.readOnly
  pathname_ne := pathname
  content_le := total ▸ transfer.fileSize_le

/-- The run has printed the document of the file, and the file is what the answers say. -/
structure ExportRun (config : FileShellConfig) (library : FileShellLibrary) (argv : List CString)
    (file : StoredFile) (trace : List FileEvent) : Prop where
  argument : ∃ command value, argv = [command, value] ∧
    library.bacnetStringToUint32 value = some file.objectInstance
  calls : observations trace = exportObservations config library file
  content : bytesRead trace = file.content
  valid : (⟨.bacfileValidInstance file.objectInstance, true⟩ : FileEvent) ∈ trace
  name : (⟨.bacfileNameAnsi file.objectInstance, file.name⟩ : FileEvent) ∈ trace
  mimeType : (⟨.bacfileFileType file.objectInstance, file.mimeType⟩ : FileEvent) ∈ trace
  readOnly : (⟨.bacfileReadOnly file.objectInstance, file.readOnly⟩ : FileEvent) ∈ trace
  confirms : ∀ event ∈ trace, Confirms file.pathname event

def sizeLine (size : ℕ) : CString := "\"size\":".toList ++ unsignedText size ++ ",".toList

/-- What is known of every run of the command. -/
structure ExportOutcome (config : FileShellConfig) (library : FileShellLibrary)
    (argv : List CString) (value : Int) (trace : List FileEvent) : Prop where
  success : value = 0 → ∃ file, ExportRun config library argv file trace
  failure : value ≠ 0 → printedErrors (observations trace) ≠ []
  reads : ∃ size, ReadsInside 0 size (observations trace) ∧
    (readRequests (observations trace) ≠ [] → sizeLine size ∈ printedLines (observations trace))

/-- A run that ends with a message before anything is read. -/
theorem ExportOutcome.of_message {argv : List CString} {value : Int} {trace : List FileEvent}
    {message : CString} (failed : value ≠ 0)
    (printed : observations trace = [.shellError message]) :
    ExportOutcome config library argv value trace where
  success := fun success => absurd success failed
  failure := fun _ => by simp [printed, printedErrors]
  reads := by
    rw [printed]
    exact ⟨0, ⟨by simp [readRequests], by simp [readRequests]⟩, by simp [readRequests]⟩

/-- What is seen of the calls before the loop. -/
def headerCalls (transfer : FileTransfer) : List FileCall :=
  (exportOpening transfer.objectInstance transfer).filter FileCall.isObserved

theorem readRequests_headerCalls (transfer : FileTransfer) :
    readRequests (headerCalls transfer) = [] := rfl

theorem sizeLine_mem_headerCalls (transfer : FileTransfer) :
    sizeLine transfer.fileSize ∈ printedLines (headerCalls transfer) := by
  have fifth : (printedLines (headerCalls transfer))[4]? = some (sizeLine transfer.fileSize) := rfl
  exact List.mem_of_getElem? fifth

theorem printedLines_append (first second : List FileCall) :
    printedLines (first ++ second) = printedLines first ++ printedLines second :=
  List.filterMap_append

/-- The reads of the loop are those of the command. -/
theorem reads_of_loop {transfer : FileTransfer} {calls loopCalls rest : List FileCall}
    (isCalls : calls = headerCalls transfer ++ (loopCalls ++ rest))
    (nothing : readRequests rest = []) (reads : ReadsInside 0 transfer.fileSize loopCalls) :
    ∃ size, ReadsInside 0 size calls ∧
      (readRequests calls ≠ [] → sizeLine size ∈ printedLines calls) := by
  have requests : readRequests calls = readRequests loopCalls := by
    rw [isCalls, readRequests_append, readRequests_append, readRequests_headerCalls, nothing,
      List.append_nil, List.nil_append]
  refine ⟨transfer.fileSize, ⟨?_, ?_⟩, fun _ => ?_⟩
  · rw [requests]
    exact reads.inside
  · rw [requests]
    exact reads.rounds
  · rw [isCalls, printedLines_append]
    exact List.mem_append_left _ (sizeLine_mem_headerCalls transfer)

theorem ExportOutcome.of_failed {argv : List CString} {value : Int} {trace : List FileEvent}
    {transfer : FileTransfer} {loopCalls : List FileCall}
    (calls : observations trace = headerCalls transfer ++ (loopCalls ++ []))
    (reads : ReadsInside 0 transfer.fileSize loopCalls) (failed : value ≠ 0)
    (printed : printedErrors loopCalls ≠ []) :
    ExportOutcome config library argv value trace where
  success := fun success => absurd success failed
  failure := by
    intro _
    rw [calls, List.append_nil, printedErrors_append]
    exact List.append_ne_nil_of_right_ne_nil _ printed
  reads := reads_of_loop calls rfl reads

theorem ExportOutcome.of_success {command value : CString} {transfer : FileTransfer}
    {bytes : List UInt8} {checksum : UInt32} {openTrace loopTrace trace : List FileEvent}
    (parsed : library.bacnetStringToUint32 value = some transfer.objectInstance)
    (captured : CapturedFrom transfer.objectInstance transfer openTrace)
    (run : LoopRun config library transfer 0 0 checksum bytes loopTrace)
    (calls : observations trace =
      headerCalls transfer ++ (observations loopTrace ++ exportClosing checksum))
    (read : bytesRead trace = bytesRead loopTrace) (opened : ∀ event ∈ openTrace, event ∈ trace)
    (confirms : ∀ event ∈ trace, Confirms transfer.pathname.text event)
    (reads : ReadsInside 0 transfer.fileSize (observations loopTrace)) :
    ExportOutcome config library [command, value] 0 trace := by
  rcases captured.name with ⟨name, isName, memName⟩
  rcases captured.mimeType with ⟨mimeType, isType, memType⟩
  have total : bytes.length = transfer.fileSize := by
    have := run.total
    omega
  have run' : ExportRun config library [command, value]
      (exportedFile transfer captured.pathname name mimeType bytes total) trace :=
    { argument := ⟨command, value, rfl, parsed⟩
      calls := by
        rw [calls, run.calls, run.checksum, headerCalls, exportOpening, isName, isType, ← total]
        rfl
      content := by rw [read, run.read, exportedFile]
      valid := opened _ captured.valid
      name := opened _ memName
      mimeType := opened _ memType
      readOnly := opened _ captured.readOnly
      confirms }
  exact
    { success := fun _ => ⟨_, run'⟩
      failure := fun failed => absurd rfl failed
      reads := reads_of_loop calls rfl reads }

theorem printed_exportOpening {objectInstance : UInt32} {transfer : FileTransfer} :
    ∀ call ∈ exportOpening objectInstance transfer, call.isPrinting = true := by
  simp [exportOpening, FileCall.isPrinting]

theorem printed_exportClosing {crc : UInt32} :
    ∀ call ∈ exportClosing crc, call.isPrinting = true := by
  simp [exportClosing, FileCall.isPrinting]

theorem always_cmdFileExport (argv : List CString) :
    Always (cmdFileExport config library argv) (ExportOutcome config library argv) := by
  simp only [cmdFileExport]
  split
  · rename_i command value
    show Always (cmdFileExport config library [command, value]) _
    rw [cmdFileExport_eq]
    simp only [fileInstanceNumberParse]
    split
    · -- the instance is no number
      apply Always.call
      intro _
      apply Always.pure
      exact ExportOutcome.of_message (by decide) rfl
    rename_i objectInstance parsed
    apply Always.bind (always_fileTransferOpen objectInstance)
    rintro (err | transfer) openTrace opened
    · rcases opened with ⟨failed, message, printed⟩
      apply Always.pure
      rw [List.append_nil]
      exact ExportOutcome.of_message failed printed
    rcases opened with ⟨quiet, captured⟩
    rcases captured.sameInstance with rfl
    apply Always.bind (always_performAll printed_exportOpening)
    intro _ openingTrace opening
    have header : observations openingTrace = headerCalls transfer := opening.observations
    apply Always.bind (always_fileExportLoop transfer (Nat.zero_le _) 0)
    rintro (err | checksum) loopTrace ⟨reads, outcome⟩
    · apply Always.pure
      refine ExportOutcome.of_failed ?_ reads outcome.1 outcome.2
      simp only [observations_append, quiet.observations_eq, header, List.nil_append]
      rfl
    rcases outcome with ⟨bytes, run⟩
    apply Always.bind (always_performAll printed_exportClosing)
    intro _ closingTrace closing
    have footer : observations closingTrace = exportClosing checksum := closing.observations
    apply Always.bind (always_fileTransferRelease _ _ _)
    intro _ releaseTrace released
    apply Always.pure
    refine ExportOutcome.of_success parsed captured run ?_ ?_ ?_ ?_ reads
    · simp only [observations_append, quiet.observations_eq, header, footer,
        released.quiet.observations_eq, List.nil_append, List.append_nil]
    · simp only [bytesRead_append, quiet.bytesRead_eq, opening.bytesRead, closing.bytesRead,
        released.quiet.bytesRead_eq, List.nil_append, List.append_nil]
    · intro event mem
      exact List.mem_append_left _ mem
    · simp only [List.forall_mem_append, List.append_nil]
      exact ⟨captured.confirms, opening.confirms _, run.confirms, closing.confirms _,
        released.confirms _⟩
  · apply Always.call
    intro _
    apply Always.pure
    exact ExportOutcome.of_message (by decide) rfl

end Command

end BacnetZephyr
