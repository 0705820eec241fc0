import BacnetZephyr.Foundation.Sections
import BacnetZephyr.Shell.File.Discipline
import BacnetZephyr.Shell.File.Reference
import BacnetZephyr.Shell.File.Write

/-!
# File commands of several threads

Any number of threads run file commands, other commands under the task lock, and rounds
of the BACnet task; between any two of their calls the others may run. The commands that
transfer a whole file take the lock for each look at the objects, the others are wrapped
in `BACNET_SHELL_LOCK_HANDLER` as a whole.

`fileShell_serial` says that every interleaving does what the same sections do one after
the other. `fileShell_stores` says what the sections of the commands that write do to the
files: each stores the bytes of its request at once, or nothing.
-/

namespace BacnetZephyr

open CLib Program Transition Sections

/-! ## The lock and the objects -/

/-- What a call is to the task lock and to the objects it guards. -/
def FileCall.role (call : FileCall) : Role :=
  match call with
  | .bacnetLock => .lock
  | .bacnetUnlock => .unlock
  | call => if call.isObject then .shared else .own

/--
The File and Device objects, which answer the calls. A read gives bytes of the content,
maybe fewer than there are. A write that is not cut short stores its data; one at offset 0
may truncate the file first.
-/
structure FileObjects where
  State : Type
  content : State → UInt32 → List UInt8
  answers : State → (call : FileCall) → call.Response → State → Prop
  reads : ∀ state call response later, answers state call response later →
    call.isWrite = false → content later = content state
  served : ∀ state objectInstance offset requested
    (data : { bytes : List UInt8 // bytes.length ≤ requested }) later,
    answers state (.bacfileReadOffset objectInstance offset requested) data later →
    data.1 <+: (content state objectInstance).drop offset
  writes : ∀ state objectInstance offset data later,
    answers state (.bacfileWriteOffset objectInstance offset data) data.length later →
    (∀ other, other ≠ objectInstance → content later other = content state other) ∧
      ByteStream.Written 0 (content state objectInstance) [(offset, data)]
        (content later objectInstance)

def FileObjects.resource (objects : FileObjects) : Resource FileCall FileCall.Response where
  role := FileCall.role
  Shared := objects.State
  answers := objects.answers

section Roles

variable {call : FileCall}

theorem FileCall.eq_of_role_lock (role : call.role = .lock) : call = .bacnetLock := by
  cases call <;> simp [FileCall.role, FileCall.isObject] at role ⊢

theorem FileCall.eq_of_role_unlock (role : call.role = .unlock) : call = .bacnetUnlock := by
  cases call <;> simp [FileCall.role, FileCall.isObject] at role ⊢

theorem FileCall.isObject_of_role_shared (role : call.role = .shared) : call.isObject = true := by
  cases call <;> simp [FileCall.role, FileCall.isObject] at role ⊢

/-- Only the two lock functions move the lock. -/
theorem lockAfter_of_role {held : Bool} {response : call.Response}
    (other : call.role = .shared ∨ call.role = .own) : lockAfter held ⟨call, response⟩ = held := by
  cases call <;> simp [FileCall.role, FileCall.isObject] at other <;> rfl

theorem FileCall.answered (call : FileCall) : Nonempty call.Response := by
  cases call with
  | bacfileReadOffset => exact ⟨⟨[], Nat.zero_le _⟩⟩
  | _ => exact ⟨default⟩

end Roles

/-- A program that keeps the lock released between its sections is disciplined. -/
theorem disciplined_of_guarded (objects : FileObjects) {α : Type} {program : FileProgram α}
    {state : TransferState} {post : α → TransferState → Prop}
    (guarded : Guarded transferMonitor program state post)
    (released : ∀ value last, post value last → last.held = false) :
    Disciplined objects.resource 0 0 program state.held.toNat := by
  induction program generalizing state with
  | done value =>
      rcases guarded with ⟨last, follows, holds⟩
      simp only [Monitor.follow, Option.some.injEq] at follows
      simp [Disciplined, follows, released value last holds]
  | call op next ih =>
      have moves : ∀ response, lockAdmits state.held op ∧
          Disciplined objects.resource 0 0 (next response)
            (lockAfter state.held ⟨op, response⟩).toNat := by
        intro response
        rcases guarded.of_call FileCall.answered response with ⟨middle, accepted, rest⟩
        rcases transferMonitor_eq_some_iff.mp accepted with ⟨admitted, _, rfl⟩
        exact ⟨admitted, ih response rest⟩
      rcases op.answered with ⟨some⟩
      have admitted := (moves some).1
      simp only [Disciplined]
      split
      · rename_i role
        obtain rfl := FileCall.eq_of_role_lock role
        intro response
        have held := admitted.2.2.1 rfl
        simpa [held, lockAfter] using (moves response).2
      · rename_i role
        obtain rfl := FileCall.eq_of_role_unlock role
        have held := admitted.2.2.2 rfl
        refine ⟨by simp [held], fun response => ?_⟩
        simpa [held, lockAfter] using (moves response).2
      · rename_i role
        have held := admitted.1 (FileCall.isObject_of_role_shared role)
        refine ⟨by simp [held], fun response => ?_⟩
        have rest := (moves response).2
        rwa [lockAfter_of_role (Or.inl role)] at rest
      · rename_i role
        intro response
        have rest := (moves response).2
        rwa [lockAfter_of_role (Or.inr role)] at rest

/-! ## Handlers that leave the lock to their wrapper -/

/-- A call of the lock functions. -/
def FileCall.isLocking : FileCall → Bool
  | .bacnetLock | .bacnetUnlock => true
  | _ => false

/-- The handler leaves the lock alone. -/
abbrev LeavesLock {α : Type} (handler : FileProgram α) : Prop :=
  Avoids (fun call => call.isLocking = true) handler

/-- The handler leaves the lock and the contents of the files alone. -/
abbrev OnlyLooks {α : Type} (handler : FileProgram α) : Prop :=
  Avoids (fun call => call.isLocking = true ∨ call.isWrite = true) handler

section Handlers

variable {config : FileShellConfig} {library : FileShellLibrary} {α : Type}

theorem OnlyLooks.leavesLock {handler : FileProgram α} (looks : OnlyLooks handler) :
    LeavesLock handler :=
  Avoids.mono looks fun _ => Or.inl

theorem LeavesLock.disciplined (objects : FileObjects) {handler : FileProgram α}
    (leaves : LeavesLock handler) : Disciplined objects.resource 1 1 handler 1 := by
  apply Avoids.disciplined _ Nat.one_pos
  apply leaves.mono
  rintro call (lock | unlock)
  · rw [FileCall.eq_of_role_lock lock]
    rfl
  · rw [FileCall.eq_of_role_unlock unlock]
    rfl

/-- The rule of a call that neither locks nor writes. -/
theorem onlyLooks_call {call : FileCall} (looks : (call.isLocking || call.isWrite) = false)
    {next : call.Response → FileProgram α} (rest : ∀ response, OnlyLooks (next response)) :
    OnlyLooks (call.perform >>= next) := by
  rw [Bool.or_eq_false_iff] at looks
  apply Avoids.call _ rest
  rintro (locks | writes)
  · rw [looks.1] at locks
    cases locks
  · rw [looks.2] at writes
    cases writes

theorem onlyLooks_reported (text : CString) (result : α) :
    OnlyLooks (do
      shellError text
      return result) :=
  onlyLooks_call rfl fun _ => Avoids.pure result

theorem onlyLooks_fileInstanceParse (value : CString) :
    OnlyLooks (fileInstanceParse library value) := by
  unfold fileInstanceParse
  split
  · exact onlyLooks_reported _ _
  · apply onlyLooks_call rfl
    intro valid
    split
    · exact Avoids.pure _
    · exact onlyLooks_reported _ _

theorem onlyLooks_fileOffsetParse (value : CString) :
    OnlyLooks (fileOffsetParse library value) := by
  unfold fileOffsetParse
  split
  · exact onlyLooks_reported _ _
  · split
    · exact onlyLooks_reported _ _
    · exact Avoids.pure _

theorem onlyLooks_filePathRequire (objectInstance : UInt32) :
    OnlyLooks (filePathRequire objectInstance) := by
  unfold filePathRequire
  apply onlyLooks_call rfl
  intro pathname
  split
  · exact Avoids.pure _
  · exact onlyLooks_reported _ _

theorem onlyLooks_fileWritablePathRequire (objectInstance : UInt32) :
    OnlyLooks (fileWritablePathRequire objectInstance) := by
  unfold fileWritablePathRequire
  apply (onlyLooks_filePathRequire objectInstance).bind
  intro required
  split
  · exact Avoids.pure _
  · apply onlyLooks_call rfl
    intro readOnly
    split
    · exact onlyLooks_reported _ _
    · exact Avoids.pure _

theorem onlyLooks_fileStreamRequire (objectInstance : UInt32) :
    OnlyLooks (fileStreamRequire objectInstance) := by
  unfold fileStreamRequire
  apply onlyLooks_call rfl
  intro stream
  split
  · exact Avoids.pure _
  · exact onlyLooks_reported _ _

theorem onlyLooks_fileReadLength (options : List CString) :
    OnlyLooks (fileReadLength config library options) := by
  unfold fileReadLength
  split
  · exact Avoids.pure _
  · split
    · exact onlyLooks_reported _ _
    · split
      · exact onlyLooks_reported _ _
      · exact Avoids.pure _

theorem onlyLooks_cmdFileRead (argv : List CString) :
    OnlyLooks (cmdFileRead config library argv) := by
  unfold cmdFileRead
  split
  · exact onlyLooks_reported _ _
  apply (onlyLooks_fileInstanceParse _).bind
  intro parsed
  split
  · exact Avoids.pure _
  apply (onlyLooks_fileOffsetParse _).bind
  intro offset
  split
  · exact Avoids.pure _
  apply (onlyLooks_fileReadLength _).bind
  intro requested
  split
  · exact Avoids.pure _
  apply (onlyLooks_filePathRequire _).bind
  intro pathname
  split
  · exact Avoids.pure _
  apply (onlyLooks_fileStreamRequire _).bind
  intro err
  split
  · exact Avoids.pure _
  apply onlyLooks_call rfl
  intro fileSize
  split
  · apply onlyLooks_call rfl
    exact fun _ => onlyLooks_reported _ _
  · apply onlyLooks_call rfl
    intro data
    extract_lets bytesRead hex
    split
    · exact onlyLooks_reported _ _
    · apply onlyLooks_call rfl
      exact fun _ => Avoids.pure _

theorem leavesLock_fileWriteHex (objectInstance : UInt32) (offset : ℕ) (hex : CString) :
    LeavesLock (fileWriteHex config library objectInstance offset hex) := by
  unfold fileWriteHex
  split
  · exact (onlyLooks_reported _ _).leavesLock
  split
  · exact (onlyLooks_reported _ _).leavesLock
  split
  · exact (onlyLooks_reported _ _).leavesLock
  dsimp only
  split
  · exact (onlyLooks_reported _ _).leavesLock
  apply (onlyLooks_fileWritablePathRequire _).leavesLock.bind
  intro pathname
  split
  · exact Avoids.pure _
  apply (onlyLooks_fileStreamRequire _).leavesLock.bind
  intro err
  split
  · exact Avoids.pure _
  apply Avoids.call (by simp [FileCall.isLocking])
  intro bytesWritten
  split
  · exact (onlyLooks_reported _ _).leavesLock
  · apply Avoids.call (by simp [FileCall.isLocking])
    exact fun _ => Avoids.pure _

theorem leavesLock_cmdFileWrite (argv : List CString) :
    LeavesLock (cmdFileWrite config library argv) := by
  unfold cmdFileWrite
  split
  · apply (onlyLooks_fileInstanceParse _).leavesLock.bind
    intro parsed
    split
    · exact Avoids.pure _
    apply (onlyLooks_fileOffsetParse _).leavesLock.bind
    intro offset
    split
    · exact Avoids.pure _
    · exact leavesLock_fileWriteHex _ _ _
  · exact (onlyLooks_reported _ _).leavesLock

theorem leavesLock_cmdFileImport (argv : List CString) :
    LeavesLock (cmdFileImport config library argv) := by
  unfold cmdFileImport
  split
  · split
    split
    · exact (onlyLooks_reported _ _).leavesLock
    split
    · apply Avoids.call (by simp [FileCall.isLocking])
      intro valid
      split
      · exact (onlyLooks_reported _ _).leavesLock
      split
      · exact (onlyLooks_reported _ _).leavesLock
      · exact leavesLock_fileWriteHex _ _ _
    · exact (onlyLooks_reported _ _).leavesLock
  · exact (onlyLooks_reported _ _).leavesLock

end Handlers

/-! ## The threads -/

section Threads

variable (config : FileShellConfig) (library : FileShellLibrary) (objects : FileObjects)

/-- What threads run, one after the other in any order. -/
inductive FileShellJob : FileProgram Int → Prop where
  | read (argv : List CString) :
      FileShellJob (bacnetShellLockHandler (cmdFileRead config library argv))
  | write (argv : List CString) :
      FileShellJob (bacnetShellLockHandler (cmdFileWrite config library argv))
  | importChunk (argv : List CString) :
      FileShellJob (bacnetShellLockHandler (cmdFileImport config library argv))
  | long (command : LongFileCommand) (argv : List CString) :
      FileShellJob (command.program library argv)
  /-- Another wrapped command, or a round of the BACnet task. -/
  | other (handler : FileProgram Int) (leaves : LeavesLock handler) :
      FileShellJob (bacnetShellLockHandler handler)

variable {config library objects}

theorem bacnetShellLockHandler_eq (handler : FileProgram Int) :
    bacnetShellLockHandler handler = wrapped .bacnetLock .bacnetUnlock handler := rfl

theorem disciplined_bacnetShellLockHandler {handler : FileProgram Int}
    (leaves : LeavesLock handler) :
    Disciplined objects.resource 0 0 (bacnetShellLockHandler handler) 0 := by
  rw [bacnetShellLockHandler_eq]
  apply Disciplined.wrapped rfl rfl
  exact leaves.disciplined objects

theorem FileShellJob.disciplined {job : FileProgram Int}
    (member : FileShellJob config library job) : Disciplined objects.resource 0 0 job 0 := by
  cases member with
  | read argv =>
      exact disciplined_bacnetShellLockHandler (onlyLooks_cmdFileRead argv).leavesLock
  | write argv => exact disciplined_bacnetShellLockHandler (leavesLock_cmdFileWrite argv)
  | importChunk argv => exact disciplined_bacnetShellLockHandler (leavesLock_cmdFileImport argv)
  | long command argv =>
      have guarded : Guarded transferMonitor (command.program library argv) ⟨false, 0⟩
          fun _ last => last = ⟨false, 0⟩ := guarded_longFileCommand library argv command
      apply disciplined_of_guarded objects guarded
      rintro value last rfl
      rfl
  | other handler leaves => exact disciplined_bacnetShellLockHandler leaves

/-! ## Files in memory -/

/-- The answers of files in memory, all of which can be read and written. -/
def memoryRespond (files : UInt32 → List UInt8) :
    (call : FileCall) → call.Response × (UInt32 → List UInt8)
  | .bacfilePathname _ => (some "/restore".toList, files)
  | .bacfileNameAnsi _ | .bacfileFileType _ => (none, files)
  | .bacfileValidInstance _ | .bacfileFileAccessStream _ => (true, files)
  | .bacfileReadOnly _ | .deviceIsConfigurationFile _ | .deviceObjectFunctionsFind _ =>
      (false, files)
  | .bacfileFileSize objectInstance => ((files objectInstance).length, files)
  | .bacfileReadOffset objectInstance offset requested =>
      (⟨((files objectInstance).drop offset).take requested, List.length_take_le _ _⟩, files)
  | .bacfileWriteOffset objectInstance offset data =>
      (data.length, Function.update files objectInstance
        (ByteStream.storeAt 0 (files objectInstance) offset data))
  | .kMalloc _ => (none, files)
  | .bacnetLock | .bacnetUnlock | .kFree _ | .blockAccess _ | .shellFprintf _ | .shellPrint _
  | .shellError _ => ((), files)

def FileObjects.memory : FileObjects where
  State := UInt32 → List UInt8
  content := id
  answers files call response later := memoryRespond files call = (response, later)
  reads := by
    intro files call response later answered other
    cases call with
    | bacfileWriteOffset => cases other
    | _ =>
        cases answered
        rfl
  served := by
    intro files objectInstance offset requested data later answered
    cases answered
    exact List.take_prefix _ _
  writes := by
    intro files objectInstance offset data later answered
    cases answered
    refine ⟨fun other different => Function.update_of_ne different _ _, ?_⟩
    apply ByteStream.Written.store
    simp only [id, Function.update_self]
    exact .done _

theorem realizes_memory :
    @Realizes _ _ FileObjects.memory.resource memoryRespond where
  answers _ _ _ := rfl
  keeps := by
    intro files call other
    cases call with
    | bacfileWriteOffset => exact absurd rfl other
    | _ => rfl

/-- A thread runs a wrapped handler; another one starts its job meanwhile, and both end. -/
structure PairEnds (jobs : FileProgram Int → Prop) (handler : FileProgram Int)
    (job : FileProgram Int) (files : FileObjects.memory.resource.Shared)
    (taken : List (Taken (State FileObjects.memory.resource Int Bool)
      (Label Bool FileCall FileCall.Response Int)))
    (last : State FileObjects.memory.resource Int Bool) : Prop where
  run : Run (@Step _ _ _ FileObjects.memory.resource Bool _ jobs) (State.initial files) taken last
  /-- The second thread starts while the first one has the lock. -/
  begins : (taken.map Taken.label).take 3 =
    [(true, [.started (bacnetShellLockHandler handler)]), (true, [.called ⟨.bacnetLock, ()⟩]),
      (false, [.started job])]
  free : ∀ thread, last.depth thread = 0
  shared : last.shared = (job.run ⟨_, memoryRespond⟩
    ((bacnetShellLockHandler handler).run ⟨_, memoryRespond⟩ files).state).state
  returns : last.control false = some (.done (job.run ⟨_, memoryRespond⟩
    ((bacnetShellLockHandler handler).run ⟨_, memoryRespond⟩ files).state).value)

/-- A thread that starts a job while another one runs a wrapped handler. -/
theorem exists_run_memory {jobs : FileProgram Int → Prop} {handler job : FileProgram Int}
    (member : jobs (bacnetShellLockHandler handler)) (leaves : LeavesLock handler)
    (other : jobs job) (disciplined : Disciplined FileObjects.memory.resource 0 0 job 0)
    (files : FileObjects.memory.resource.Shared) :
    ∃ taken last, PairEnds jobs handler job files taken last := by
  let wrapped := bacnetShellLockHandler handler
  let rest : FileProgram Int := do
    let status ← handler
    bacnetUnlock
    return status
  let idle : State FileObjects.memory.resource Int Bool := State.initial files
  let started : State FileObjects.memory.resource Int Bool :=
    { idle with
      control := Function.update idle.control true (some wrapped) }
  let locked : State FileObjects.memory.resource Int Bool :=
    { started with
      depth := Function.update started.depth true 1
      control := Function.update started.control true (some rest) }
  let both : State FileObjects.memory.resource Int Bool :=
    { locked with
      control := Function.update locked.control false (some job) }
  have first : Step jobs idle (true, [.started wrapped]) started := .start rfl member
  have calls := @Calls.lock _ _ Int FileObjects.memory.resource 0 files .bacnetLock
    (fun _ => rest) () rfl
  have takes : Step jobs started (true, [.called ⟨.bacnetLock, ()⟩]) locked :=
    @Step.call _ _ _ _ _ _ _ started true _ _ _ rfl calls fun _ _ _ => rfl
  have second : Step jobs locked (false, [.started job]) both := .start rfl other
  have whole : Disciplined FileObjects.memory.resource 0 0 wrapped 0 :=
    disciplined_bacnetShellLockHandler leaves
  have inside : Disciplined FileObjects.memory.resource 0 0 rest 1 := whole ()
  have alone : ∀ thread, thread ≠ true → both.depth thread = 0 := by
    intro thread different
    cases thread
    · rfl
    · exact absurd rfl different
  have running : both.control true = some rest := rfl
  rcases @Realizes.alone _ _ _ _ _ _ _ jobs realizes_memory both true rest running alone inside with
    ⟨early, middle, earlyRun, free, shared, _, same⟩
  have waiting : middle.control false = some job := same false (by decide)
  have idleLock : middle.depth false = 0 := free false
  rcases @Realizes.alone _ _ _ _ _ _ _ jobs realizes_memory middle false job waiting
    (fun thread _ => free thread) (by rw [idleLock]; exact disciplined) with
    ⟨late, last, lateRun, ends, lastShared, returns, _⟩
  rw [shared] at lastShared returns
  have run := (((earlyRun.append lateRun).cons second).cons takes).cons first
  exact ⟨_, last, { run, begins := rfl, free := ends, shared := lastShared, returns }⟩

/-! ## One section after the other -/

/-- The calls of a wrapped handler that has made these calls. -/
def lockedEvents (made : List FileEvent) : List FileEvent :=
  ⟨.bacnetLock, ()⟩ :: made ++ [⟨.bacnetUnlock, ()⟩]

/-- A step of a thread that is about to run a wrapped handler is the whole handler. -/
theorem section_of_atomicStep {Thread : Type} [DecidableEq Thread] {jobs : FileProgram Int → Prop}
    {handler : FileProgram Int} {before after : AtomicState objects.resource Int Thread}
    {label : Label Thread FileCall FileCall.Response Int} (leaves : LeavesLock handler)
    (running : before.control label.1 = some (bacnetShellLockHandler handler))
    (step : AtomicStep jobs before label after) :
    ∃ made status, label.2 = (lockedEvents made).map .called ∧
      after.control label.1 = some (.done status) ∧
      @Alone _ _ _ objects.resource ⟨1, before.shared, handler⟩ made
        ⟨1, after.shared, .done status⟩ := by
  rw [bacnetShellLockHandler_eq] at running
  rcases AtomicStep.of_wrapped rfl running step with ⟨events, rest, done, now, inside⟩
  rcases Inside.wrapped rfl (leaves.disciplined objects) inside with
    ⟨_, made, _, status, rfl, rfl, alone⟩
  exact ⟨made, status, done, now, alone⟩

/--
Every interleaving does what the sections of the threads do one after the other, and a
section of a wrapped handler is the whole handler, run on its own.
-/
theorem fileShell_serial {Thread : Type} [DecidableEq Thread] {first : objects.State}
    {taken : List (Taken (State objects.resource Int Thread)
      (Label Thread FileCall FileCall.Response Int))}
    {last : State objects.resource Int Thread}
    (run : Run (Step (FileShellJob config library)) (State.initial first) taken last)
    (free : ∀ thread, last.depth thread = 0) :
    ∃ sections atomic,
      Run (AtomicStep (FileShellJob config library)) (.initial first) sections atomic ∧
        Serializes taken last sections atomic ∧
        ∀ transition ∈ sections, ∀ handler : FileProgram Int, LeavesLock handler →
          transition.before.control transition.label.1 =
            some (bacnetShellLockHandler handler) →
          ∃ made status, transition.after.control transition.label.1 = some (.done status) ∧
            @Alone _ _ _ objects.resource ⟨1, transition.before.shared, handler⟩ made
              ⟨1, transition.after.shared, .done status⟩ := by
  have disciplined : ∀ job, FileShellJob config library job →
      Disciplined objects.resource 0 0 job 0 := fun _ member => member.disciplined
  rcases serializable disciplined run free with ⟨sections, atomic, atomicRun, serializes⟩
  refine ⟨sections, atomic, atomicRun, serializes, ?_⟩
  intro transition mem handler leaves running
  rcases section_of_atomicStep leaves running (atomicRun.step_of_mem mem) with
    ⟨made, status, _, now, alone⟩
  exact ⟨made, status, now, alone⟩

/-- Two bytes written at offset four of an empty file. -/
def writeSeven : List CString := ["write".toList, "7".toList, "4".toList, "0a0b".toList]

/-- Two bytes that overlap those of the other write. -/
def overwriteSeven : List CString := ["write".toList, "7".toList, "5".toList, "0c0d".toList]

/-- A write that another one waits for. -/
theorem fileShell_serial_seven :
    ∃ taken last sections atomic,
      PairEnds (FileShellJob .pairs .reference) (cmdFileWrite .pairs .reference writeSeven)
        (bacnetShellLockHandler (cmdFileWrite .pairs .reference overwriteSeven)) (fun _ => [])
        taken last ∧
      last.shared 7 = [0, 0, 0, 0, 10, 12, 13] ∧
      Run (AtomicStep (FileShellJob .pairs .reference)) (.initial fun _ => []) sections atomic ∧
      Serializes taken last sections atomic := by
  have second : FileShellJob .pairs .reference _ := .write overwriteSeven
  rcases exists_run_memory (.write writeSeven) (leavesLock_cmdFileWrite _) second
    second.disciplined fun _ => [] with ⟨taken, last, ends⟩
  rcases fileShell_serial ends.run ends.free with ⟨sections, atomic, atomicRun, serializes, _⟩
  refine ⟨taken, last, sections, atomic, ends, ?_, atomicRun, serializes⟩
  rw [ends.shared]
  rfl

/-! ## What the sections store -/

/-- What a command that writes does to the files, by its status. -/
structure StoresRequest (objects : FileObjects) (request : Option (UInt32 × UInt32 × CString))
    (status : Int) (before after : objects.State) : Prop where
  rejected : status ≠ 0 → status ≠ -Errno.eio → objects.content after = objects.content before
  stored : status = 0 → ∃ objectInstance offset hex data,
    request = some (objectInstance, offset, hex) ∧ hexPairs hex = some data ∧
      (∀ other, other ≠ objectInstance →
        objects.content after other = objects.content before other) ∧
      ByteStream.Written 0 (objects.content before objectInstance) [(offset.toNat, data)]
        (objects.content after objectInstance)

/-- Only a write changes the contents. -/
theorem content_of_calls {α : Type} {view later : View objects.resource α} {event : FileEvent}
    (calls : Calls objects.resource view event later) (reads : event.1.isWrite = false) :
    objects.content later.shared = objects.content view.shared := by
  cases calls with
  | lock | unlock | own => rfl
  | shared role answers => exact objects.reads _ _ _ _ answers reads

theorem content_of_wholeWrite {α : Type} {view later : View objects.resource α}
    {objectInstance : UInt32} {offset : ℕ} {data : List UInt8}
    (calls : Calls objects.resource view (wholeWrite objectInstance offset data) later) :
    (∀ other, other ≠ objectInstance →
      objects.content later.shared other = objects.content view.shared other) ∧
      ByteStream.Written 0 (objects.content view.shared objectInstance) [(offset, data)]
        (objects.content later.shared objectInstance) := by
  unfold wholeWrite at calls
  cases calls with
  | lock _ role | unlock _ role | own _ role => cases role
  | shared role answers => exact objects.writes _ _ _ _ _ answers

/-- The contents after a handler, by the writes it has made. -/
theorem content_of_alone {α : Type} {first view : View objects.resource α}
    {made : List FileEvent} (alone : Alone first made view) :
    (writeEvents made = [] → objects.content view.shared = objects.content first.shared) ∧
      ∀ objectInstance offset data,
        writeEvents made = [wholeWrite objectInstance offset data] →
        (∀ other, other ≠ objectInstance →
          objects.content view.shared other = objects.content first.shared other) ∧
          ByteStream.Written 0 (objects.content first.shared objectInstance) [(offset, data)]
            (objects.content view.shared objectInstance) := by
  induction alone with
  | start =>
      refine ⟨fun _ => rfl, ?_⟩
      intro objectInstance offset data impossible
      cases impossible
  | @call made view later event alone calls ih =>
      rw [writeEvents_append]
      by_cases reads : event.1.isWrite = false
      · rw [writeEvents_cons_of_not_write reads, writeEvents_nil, List.append_nil,
          content_of_calls calls reads]
        exact ih
      · have one : writeEvents [event] = [event] := by
          simp [writeEvents, reads]
        rw [one]
        refine ⟨fun impossible => by simp at impossible, ?_⟩
        intro objectInstance offset data written
        obtain ⟨before, rfl⟩ : writeEvents made = [] ∧
            event = wholeWrite objectInstance offset data := by
          simpa [List.append_eq_cons_iff] using written
        rw [← ih.1 before]
        exact content_of_wholeWrite calls

/-- What a handler that writes as its request says has done to the files. -/
theorem storesRequest_of_alone {handler : FileProgram Int}
    {request : Option (UInt32 × UInt32 × CString)}
    (always : Always handler (WritesRequest request)) {made : List FileEvent} {status : Int}
    {before after : objects.State}
    (alone : @Alone _ _ _ objects.resource ⟨1, before, handler⟩ made ⟨1, after, .done status⟩) :
    StoresRequest objects request status before after := by
  have writes : WritesRequest request status (made ++ []) :=
    alone.wp always fun _ _ => trivial
  rw [List.append_nil] at writes
  have content := content_of_alone alone
  refine { rejected := ?_, stored := ?_ }
  · intro nonzero noError
    exact content.1 (writes.rejected nonzero noError)
  · intro success
    rcases writes.written success with ⟨objectInstance, offset, hex, data, same, _, digits, once⟩
    rcases content.2 objectInstance offset.toNat data once with ⟨others, written⟩
    exact ⟨objectInstance, offset, hex, data, same, digits, others, written⟩

/-- A handler that only looks leaves the contents alone. -/
theorem content_of_onlyLooks {handler : FileProgram Int} (looks : OnlyLooks handler)
    {made : List FileEvent} {status : Int} {before after : objects.State}
    (alone : @Alone _ _ _ objects.resource ⟨1, before, handler⟩ made ⟨1, after, .done status⟩) :
    objects.content after = objects.content before := by
  apply (content_of_alone alone).1
  apply List.filter_eq_nil_iff.mpr
  intro event mem writes
  exact (alone.avoids looks).2 event mem (Or.inr writes)

/-- What a section of a wrapped command does to the files. -/
structure SectionStores {Thread : Type} (config : FileShellConfig) (library : FileShellLibrary)
    (move : Taken (AtomicState objects.resource Int Thread)
      (Label Thread FileCall FileCall.Response Int)) : Prop where
  write : ∀ argv, move.before.control move.label.1 =
      some (bacnetShellLockHandler (cmdFileWrite config library argv)) →
    ∃ status, move.after.control move.label.1 = some (.done status) ∧
      StoresRequest objects (writeRequest library argv) status move.before.shared
        move.after.shared
  importChunk : ∀ argv, move.before.control move.label.1 =
      some (bacnetShellLockHandler (cmdFileImport config library argv)) →
    ∃ status, move.after.control move.label.1 = some (.done status) ∧
      StoresRequest objects (importRequest library argv) status move.before.shared
        move.after.shared
  looks : ∀ handler : FileProgram Int, OnlyLooks handler →
    move.before.control move.label.1 = some (bacnetShellLockHandler handler) →
    objects.content move.after.shared = objects.content move.before.shared

/--
Whatever the other threads do meanwhile, a command that writes stores the bytes of its
request at once, between two sections of the others, or it has rejected the request and
stored nothing.
-/
theorem fileShell_stores {Thread : Type} [DecidableEq Thread] {first : objects.State}
    {taken : List (Taken (State objects.resource Int Thread)
      (Label Thread FileCall FileCall.Response Int))}
    {last : State objects.resource Int Thread}
    (run : Run (Step (FileShellJob config library)) (State.initial first) taken last)
    (free : ∀ thread, last.depth thread = 0) :
    ∃ sections atomic,
      Run (AtomicStep (FileShellJob config library)) (.initial first) sections atomic ∧
        Serializes taken last sections atomic ∧
        ∀ transition ∈ sections, SectionStores config library transition := by
  have disciplined : ∀ job, FileShellJob config library job →
      Disciplined objects.resource 0 0 job 0 := fun _ member => member.disciplined
  rcases serializable disciplined run free with ⟨sections, atomic, atomicRun, serializes⟩
  refine ⟨sections, atomic, atomicRun, serializes, ?_⟩
  intro transition mem
  have step := atomicRun.step_of_mem mem
  refine { write := ?_, importChunk := ?_, looks := ?_ }
  · intro argv running
    rcases section_of_atomicStep (leavesLock_cmdFileWrite argv) running step with
      ⟨made, status, _, ends, alone⟩
    exact ⟨status, ends, storesRequest_of_alone (always_cmdFileWrite argv) alone⟩
  · intro argv running
    rcases section_of_atomicStep (leavesLock_cmdFileImport argv) running step with
      ⟨made, status, _, ends, alone⟩
    exact ⟨status, ends, storesRequest_of_alone (always_cmdFileImport argv) alone⟩
  · intro handler looks running
    rcases section_of_atomicStep looks.leavesLock running step with
      ⟨made, status, _, _, alone⟩
    exact content_of_onlyLooks looks alone

/-- The write that waits is made after the other one. -/
theorem fileShell_stores_seven :
    ∃ taken last sections atomic,
      PairEnds (FileShellJob .pairs .reference) (cmdFileWrite .pairs .reference writeSeven)
        (bacnetShellLockHandler (cmdFileWrite .pairs .reference overwriteSeven)) (fun _ => [])
        taken last ∧
      last.shared 7 = [0, 0, 0, 0, 10, 12, 13] ∧ Serializes taken last sections atomic ∧
      ∀ move ∈ sections, SectionStores FileShellConfig.pairs .reference move := by
  have second : FileShellJob .pairs .reference _ := .write overwriteSeven
  rcases exists_run_memory (.write writeSeven) (leavesLock_cmdFileWrite _) second
    second.disciplined fun _ => [] with ⟨taken, last, ends⟩
  rcases fileShell_stores ends.run ends.free with ⟨sections, atomic, _, serializes, stores⟩
  refine ⟨taken, last, sections, atomic, ends, ?_, serializes, stores⟩
  rw [ends.shared]
  rfl

end Threads

end BacnetZephyr
