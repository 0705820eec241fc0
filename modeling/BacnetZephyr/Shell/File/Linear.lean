import BacnetZephyr.Shell.File.Listing
import BacnetZephyr.Shell.File.NeverWrites

/-!
# Files under concurrent commands

When only file commands write, the sections of any interleaving are a history of the files
as plain byte streams: each write or import that succeeds stores its bytes in one step of
the history, no other step changes a byte, and what a read prints are bytes of the file
after exactly the updates before it. A write that was cut short is the only exception.

`PendingJobs` is the invariant of the threads: a program that is still to write is a whole
command that has not begun. `fileShell_linear` puts the parts together.
-/

namespace BacnetZephyr

open CLib JsonText Program Transition Sections ByteStream

/-! ## Commands that write -/

inductive UpdateCommand where
  | write (argv : List CString)
  | importChunk (argv : List CString)

/-- What a command that writes stores. -/
structure FileUpdate where
  objectInstance : UInt32
  offset : ℕ
  data : List UInt8

section Commands

variable (config : FileShellConfig) (library : FileShellLibrary)

def UpdateCommand.handler : UpdateCommand → FileProgram Int
  | .write argv => cmdFileWrite config library argv
  | .importChunk argv => cmdFileImport config library argv

def UpdateCommand.request : UpdateCommand → Option (UInt32 × UInt32 × CString)
  | .write argv => writeRequest library argv
  | .importChunk argv => importRequest library argv

/-- What threads run: only the commands that write change a file. -/
inductive FileCommandJob : FileProgram Int → Prop where
  | update (command : UpdateCommand) :
      FileCommandJob (bacnetShellLockHandler (command.handler config library))
  | long (command : LongFileCommand) (argv : List CString) :
      FileCommandJob (command.program library argv)
  | looks (handler : FileProgram Int) (looks : OnlyLooks handler) :
      FileCommandJob (bacnetShellLockHandler handler)

variable {config library}

theorem UpdateCommand.leavesLock (command : UpdateCommand) :
    LeavesLock (command.handler config library) := by
  cases command with
  | write argv => exact leavesLock_cmdFileWrite argv
  | importChunk argv => exact leavesLock_cmdFileImport argv

theorem UpdateCommand.always (command : UpdateCommand) :
    Always (command.handler config library) (WritesRequest (command.request library)) := by
  cases command with
  | write argv => exact always_cmdFileWrite argv
  | importChunk argv => exact always_cmdFileImport argv

theorem FileCommandJob.fileShellJob {job : FileProgram Int}
    (member : FileCommandJob config library job) : FileShellJob config library job := by
  cases member with
  | update command => exact .other _ command.leavesLock
  | long command argv => exact .long command argv
  | looks handler looks => exact .other handler looks.leavesLock

end Commands

/-! ## The history of the files -/

/-- A step of the history. -/
abbrev FileSection (objects : FileObjects) (Thread : Type) :=
  Taken (AtomicState objects.resource Int Thread) (Label Thread FileCall FileCall.Response Int)

section History

variable {objects : FileObjects} {Thread : Type}

/-- The step is the whole of a wrapped handler, which returns the status. -/
structure WholeSection (handler : FileProgram Int) (status : Int)
    (move : FileSection objects Thread) : Prop where
  begins : move.before.control move.label.1 = some (bacnetShellLockHandler handler)
  ends : move.after.control move.label.1 = some (.done status)

variable (config : FileShellConfig) (library : FileShellLibrary)

/-- The step is a command that has stored the update. -/
def Stored (move : FileSection objects Thread) (update : FileUpdate) : Prop :=
  ∃ (command : UpdateCommand) (offset : UInt32) (hex : CString),
    WholeSection (command.handler config library) 0 move ∧
    command.request library = some (update.objectInstance, offset, hex) ∧
    update.offset = offset.toNat ∧ hexPairs hex = some update.data

/-- The step is a command whose write was cut short. -/
def CutShort (move : FileSection objects Thread) : Prop :=
  ∃ command : UpdateCommand, WholeSection (command.handler config library) (-Errno.eio) move

/-- The updates that the steps have stored, in their order. -/
inductive UpdatesMade : List (FileSection objects Thread) → List FileUpdate → Prop where
  | none : UpdatesMade [] []
  | stored {made : List (FileSection objects Thread)} {updates : List FileUpdate}
      {move : FileSection objects Thread} {update : FileUpdate} (earlier : UpdatesMade made updates)
      (stored : Stored config library move update) :
      UpdatesMade (made ++ [move]) (updates ++ [update])
  | other {made : List (FileSection objects Thread)} {updates : List FileUpdate}
      {move : FileSection objects Thread} (earlier : UpdatesMade made updates)
      (other : ∀ update, ¬Stored config library move update) : UpdatesMade (made ++ [move]) updates

/-- The updates of one file. -/
def updatesOf (objectInstance : UInt32) (updates : List FileUpdate) : List (ℕ × List UInt8) :=
  (updates.filter fun update => update.objectInstance = objectInstance).map fun update =>
    (update.offset, update.data)

/-- The contents are what the updates made of the first contents. -/
structure FileHistory (first : objects.State) (made : List (FileSection objects Thread))
    (updates : List FileUpdate) (content : UInt32 → List UInt8) : Prop where
  recorded : UpdatesMade config library made updates
  contents : (∀ move ∈ made, ¬CutShort config library move) → ∀ objectInstance,
    Written 0 (objects.content first objectInstance) (updatesOf objectInstance updates)
      (content objectInstance)

/-- A program that is still to write is a whole command that has not begun. -/
def PendingJobs (state : AtomicState objects.resource Int Thread) : Prop :=
  ∀ thread program, state.control thread = some program → NeverWrites program ∨
    ∃ command : UpdateCommand, program = bacnetShellLockHandler (command.handler config library)

end History

section Steps

variable {config : FileShellConfig} {library : FileShellLibrary} {objects : FileObjects}
  {Thread : Type} [DecidableEq Thread] {before after : AtomicState objects.resource Int Thread}
  {label : Label Thread FileCall FileCall.Response Int}

theorem FileCommandJob.pending {job : FileProgram Int}
    (member : FileCommandJob config library job) : NeverWrites job ∨
      ∃ command : UpdateCommand, job = bacnetShellLockHandler (command.handler config library) := by
  cases member with
  | update command => exact .inr ⟨command, rfl⟩
  | long command argv => exact .inl (neverWrites_longFileCommand command argv)
  | looks handler looks => exact .inl (neverWrites_bacnetShellLockHandler looks.neverWrites)

/-- The thread that has moved goes on with a program that never writes, or has ended. -/
theorem PendingJobs.move (pending : PendingJobs config library before) {thread : Thread}
    {control : Option (FileProgram Int)} (next : ∀ program, control = some program →
      NeverWrites program ∨
        ∃ command : UpdateCommand,
          program = bacnetShellLockHandler (command.handler config library))
    (shared : objects.resource.Shared) :
    PendingJobs config library
      (⟨shared, Function.update before.control thread control⟩ :
        AtomicState objects.resource Int Thread) := by
  intro other program running
  dsimp only at running
  by_cases same : other = thread
  · subst same
    rw [Function.update_self] at running
    exact next program running
  · rw [Function.update_of_ne same] at running
    exact pending other program running

/-- A section of a program that never writes leaves the contents alone. -/
theorem content_of_inside {shared last : objects.State} {program rest : FileProgram Int}
    {events : List FileEvent} (never : NeverWrites program)
    (inside : Inside objects.resource shared program events ⟨0, last, rest⟩) :
    objects.content last = objects.content shared := by
  apply inside.keeps _ never
  intro state call response later allowed answers
  exact objects.reads state call response later answers (Bool.eq_false_iff.mpr allowed)

/-- A step keeps the invariant, and if it is not a command that writes, the contents too. -/
theorem PendingJobs.step (pending : PendingJobs config library before)
    (step : AtomicStep (FileCommandJob config library) before label after) :
    PendingJobs config library after ∧
      ((∃ command : UpdateCommand, before.control label.1 =
          some (bacnetShellLockHandler (command.handler config library))) ∨
        objects.content after.shared = objects.content before.shared) := by
  cases step with
  | start idle mem =>
      refine ⟨pending.move ?_ before.shared, .inr rfl⟩
      rintro program ⟨⟩
      exact mem.pending
  | finish done =>
      refine ⟨pending.move ?_ before.shared, .inr rfl⟩
      intro program impossible
      cases impossible
  | own response running role =>
      refine ⟨pending.move ?_ before.shared, .inr rfl⟩
      rintro program ⟨⟩
      rcases pending _ _ running with never | ⟨command, wrapped⟩
      · exact .inl (never.2 response)
      · cases wrapped
        cases role
  | @atOnce thread program rest events shared running inside =>
      rcases pending _ _ running with never | ⟨command, rfl⟩
      · refine ⟨pending.move ?_ shared, .inr (content_of_inside never inside)⟩
        rintro other ⟨⟩
        exact .inl (inside.avoids never)
      · refine ⟨pending.move ?_ shared, .inl ⟨command, running⟩⟩
        rintro other ⟨⟩
        rw [bacnetShellLockHandler_eq] at inside
        rcases Inside.wrapped rfl (command.leavesLock.disciplined objects) inside with
          ⟨_, _, _, status, rfl, _⟩
        exact .inl trivial

/-- A step of a thread that is about to run a command that writes. -/
theorem UpdateCommand.step {jobs : FileProgram Int → Prop} (command : UpdateCommand)
    (running : before.control label.1 =
      some (bacnetShellLockHandler (command.handler config library)))
    (step : AtomicStep jobs before label after) :
    ∃ status, WholeSection (command.handler config library) status
        (⟨before, label, after⟩ : FileSection objects Thread) ∧
      StoresRequest objects (command.request library) status before.shared after.shared := by
  rcases section_of_atomicStep command.leavesLock running step with
    ⟨made, status, _, ends, alone⟩
  exact ⟨status, ⟨running, ends⟩, storesRequest_of_alone command.always alone⟩

/-- What a step that has stored an update does to the contents. -/
theorem Stored.content {jobs : FileProgram Int → Prop} {update : FileUpdate}
    (stored : Stored config library (⟨before, label, after⟩ : FileSection objects Thread) update)
    (step : AtomicStep jobs before label after) :
    (∀ other, other ≠ update.objectInstance →
      objects.content after.shared other = objects.content before.shared other) ∧
      Written 0 (objects.content before.shared update.objectInstance)
        [(update.offset, update.data)] (objects.content after.shared update.objectInstance) := by
  rcases stored with ⟨command, offset, hex, whole, request, isOffset, digits⟩
  rcases command.step whole.begins step with ⟨status, again, stores⟩
  have success : status = 0 := by
    have same := again.ends.symm.trans whole.ends
    rw [Option.some.injEq] at same
    injection same
  rcases stores.stored success with ⟨objectInstance, offset', hex', data, same, pairs, rest⟩
  rw [request, Option.some.injEq, Prod.mk.injEq, Prod.mk.injEq] at same
  rcases same with ⟨rfl, rfl, rfl⟩
  rw [digits, Option.some.injEq] at pairs
  rw [isOffset, pairs]
  exact rest

/-- A step that has stored nothing, and was not cut short, leaves the contents alone. -/
theorem content_of_not_stored (pending : PendingJobs config library before)
    (step : AtomicStep (FileCommandJob config library) before label after)
    (none : ∀ update,
      ¬Stored config library (⟨before, label, after⟩ : FileSection objects Thread) update)
    (whole : ¬CutShort config library (⟨before, label, after⟩ : FileSection objects Thread)) :
    objects.content after.shared = objects.content before.shared := by
  rcases (pending.step step).2 with ⟨command, running⟩ | same
  · rcases command.step running step with ⟨status, isWhole, stores⟩
    apply stores.rejected
    · rintro rfl
      rcases stores.stored rfl with ⟨objectInstance, offset, hex, data, request, digits, _⟩
      apply none ⟨objectInstance, offset.toNat, data⟩
      exact ⟨command, offset, hex, isWhole, request, rfl, digits⟩
    · rintro rfl
      exact whole ⟨command, isWhole⟩
  · exact same

theorem updatesOf_append (objectInstance : UInt32) (updates : List FileUpdate)
    (update : FileUpdate) :
    updatesOf objectInstance (updates ++ [update]) = updatesOf objectInstance updates ++
      if update.objectInstance = objectInstance then [(update.offset, update.data)] else [] := by
  rw [updatesOf, List.filter_append, List.map_append, ← updatesOf]
  split
  · rename_i same
    simp [same]
  · rename_i other
    simp [other]

/-- One step of the history. -/
theorem FileHistory.step {first : objects.State} {made : List (FileSection objects Thread)}
    {updates : List FileUpdate}
    (history : FileHistory config library first made updates (objects.content before.shared))
    (pending : PendingJobs config library before)
    (step : AtomicStep (FileCommandJob config library) before label after) :
    ∃ later, FileHistory config library first (made ++ [⟨before, label, after⟩]) later
      (objects.content after.shared) := by
  by_cases one : ∃ update,
      Stored config library (⟨before, label, after⟩ : FileSection objects Thread) update
  · rcases one with ⟨update, stored⟩
    rcases stored.content step with ⟨others, written⟩
    refine ⟨updates ++ [update], .stored history.recorded stored, ?_⟩
    intro unbroken objectInstance
    rw [List.forall_mem_append] at unbroken
    have earlier := history.contents unbroken.1 objectInstance
    rw [updatesOf_append]
    split
    · rename_i same
      subst same
      exact earlier.append written
    · rename_i other
      rw [List.append_nil, others objectInstance (Ne.symm other)]
      exact earlier
  · rw [not_exists] at one
    refine ⟨updates, .other history.recorded one, ?_⟩
    intro unbroken objectInstance
    rw [List.forall_mem_append, List.forall_mem_singleton] at unbroken
    rw [content_of_not_stored pending step one unbroken.2]
    exact history.contents unbroken.1 objectInstance

/-- Every run of sections has a history. -/
theorem fileHistory_of_run {first : objects.State} {made : List (FileSection objects Thread)}
    {atomic : AtomicState objects.resource Int Thread}
    (run : Run (AtomicStep (FileCommandJob config library)) (.initial first) made atomic) :
    PendingJobs config library atomic ∧
      ∃ updates, FileHistory config library first made updates (objects.content atomic.shared) := by
  apply run.invariant_taken
  · refine ⟨?_, [], .none, fun _ objectInstance => .done _⟩
    intro thread program impossible
    cases impossible
  · rintro earlier before label after ⟨pending, updates, history⟩ step
    exact ⟨(pending.step step).1, history.step pending step⟩

end Steps

/-! ## What a read prints -/

section Reads

variable {config : FileShellConfig} {library : FileShellLibrary}

/-- The instance, the offset and the length that the arguments of a read give. -/
def readRequest (config : FileShellConfig) (library : FileShellLibrary) :
    List CString → Option (UInt32 × UInt32 × ℕ)
  | [_, instanceText, offsetText] =>
      match library.bacnetStringToUint32 instanceText, library.bacnetStringToUint32 offsetText with
      | some objectInstance, some offset => some (objectInstance, offset, config.chunkSize)
      | _, _ => none
  | [_, instanceText, offsetText, lengthText] =>
      match library.bacnetStringToUint32 instanceText, library.bacnetStringToUint32 offsetText,
          library.bacnetStringToUint32 lengthText with
      | some objectInstance, some offset, some requested =>
          some (objectInstance, offset, requested.toNat)
      | _, _, _ => none
  | _ => none

/-- The reply for the bytes that a read has got. -/
def ReadReply.ofBytes (objectInstance offset : UInt32) (requested : ℕ) (data : List UInt8) :
    ReadReply where
  objectInstance := objectInstance.toNat
  offset := offset.toNat
  length := data.length
  data := hexText data
  eof := decide (data.length < requested)

/-- A read that succeeds has printed the bytes that it was given. -/
def ReadPrinted (config : FileShellConfig) (library : FileShellLibrary) (argv : List CString)
    (status : Int) (trace : List FileEvent) : Prop :=
  status = 0 → ∃ objectInstance offset requested,
    ∃ data : { bytes : List UInt8 // bytes.length ≤ requested },
    readRequest config library argv = some (objectInstance, offset, requested) ∧
      ⟨.bacfileReadOffset objectInstance offset.toNat requested, data⟩ ∈ trace ∧
      printedText trace = (ReadReply.ofBytes objectInstance offset requested data.1).text ++ ['\n']

/-- An offset that is taken is the number of the argument, and nothing is printed. -/
theorem always_fileOffsetParse_silent (value : CString) :
    Always (fileOffsetParse library value) fun parsed trace =>
      match parsed with
      | .error err => err ≠ 0
      | .ok offset => printedText trace = [] ∧ ∃ number : UInt32,
          library.bacnetStringToUint32 value = some number ∧ offset = number.toNat := by
  simp only [fileOffsetParse]
  split
  · apply Always.call
    intro _
    exact Always.pure einval_ne_zero
  · rename_i offset number
    split
    · apply Always.call
      intro _
      exact Always.pure einval_ne_zero
    · exact Always.pure ⟨rfl, offset, number, rfl⟩

/-- The length is that of the option, or a whole chunk, and never more than a chunk. -/
theorem always_fileReadLength (options : List CString) :
    Always (fileReadLength config library options) fun parsed trace =>
      match parsed with
      | .error err => err ≠ 0
      | .ok requested => printedText trace = [] ∧ requested ≤ config.chunkSize ∧
          match options with
          | [] => requested = config.chunkSize
          | value :: _ => ∃ number : UInt32,
              library.bacnetStringToUint32 value = some number ∧ requested = number.toNat := by
  unfold fileReadLength
  cases options with
  | nil => exact Always.pure ⟨rfl, Nat.le_refl _, rfl⟩
  | cons value rest =>
      dsimp only
      split
      · apply Always.call
        intro _
        exact Always.pure einval_ne_zero
      · rename_i number isNumber
        split
        · apply Always.call
          intro _
          exact Always.pure einval_ne_zero
        · rename_i inside
          refine Always.pure ⟨rfl, ?_, number, isNumber, rfl⟩
          omega

theorem always_filePathRequire_silent (objectInstance : UInt32) :
    Always (filePathRequire objectInstance) fun required trace =>
      match required with
      | .error err => err ≠ 0
      | .ok _ => printedText trace = [] := by
  unfold filePathRequire
  apply Always.call
  intro pathname
  split
  · exact Always.pure rfl
  · apply Always.call
    intro _
    exact Always.pure einval_ne_zero

theorem always_fileStreamRequire_silent (objectInstance : UInt32) :
    Always (fileStreamRequire objectInstance) fun _ trace => printedText trace = [] := by
  unfold fileStreamRequire
  apply Always.call
  intro stream
  split
  · exact Always.pure rfl
  · apply Always.call
    intro _
    exact Always.pure rfl

/-- The arguments that the parsers have taken are the request. -/
theorem readRequest_of_parsed {argv : List CString} {objectInstance offset : UInt32}
    {requested : ℕ} (three : 3 ≤ argv.length) (four : argv.length ≤ 4)
    (isInstance : library.bacnetStringToUint32 (argv[1]?.getD []) = some objectInstance)
    (isOffset : library.bacnetStringToUint32 (argv[2]?.getD []) = some offset)
    (isLength : match argv.drop 3 with
      | [] => requested = config.chunkSize
      | value :: _ => ∃ number : UInt32,
          library.bacnetStringToUint32 value = some number ∧ requested = number.toNat) :
    readRequest config library argv = some (objectInstance, offset, requested) := by
  match argv, three, four with
  | [_, _, _], _, _ =>
      simp only [List.getElem?_cons_succ, List.getElem?_cons_zero, Option.getD_some] at *
      simp only [readRequest, isInstance, isOffset]
      rw [isLength]
  | [_, _, _, _], _, _ =>
      rcases isLength with ⟨number, isNumber, rfl⟩
      simp only [List.getElem?_cons_succ, List.getElem?_cons_zero, Option.getD_some] at *
      simp only [readRequest, isInstance, isOffset, isNumber]

theorem always_cmdFileRead (argv : List CString) :
    Always (cmdFileRead config library argv) (ReadPrinted config library argv) := by
  have failed : ∀ {err : Int} {trace : List FileEvent}, err ≠ 0 →
      ReadPrinted config library argv err trace := fun nonzero success => absurd success nonzero
  unfold cmdFileRead
  split
  · apply Always.call
    intro _
    exact Always.pure (failed einval_ne_zero)
  rename_i count
  rw [not_or, Nat.not_lt, Nat.not_lt] at count
  apply Always.bind (always_fileInstanceParse_silent _)
  rintro (err | objectInstance) instanceTrace parsed
  · exact Always.pure (failed parsed)
  apply Always.bind (always_fileOffsetParse_silent _)
  rintro (err | offset) offsetTrace offsetParsed
  · exact Always.pure (failed offsetParsed)
  rcases offsetParsed with ⟨offsetSilent, number, isOffset, rfl⟩
  apply Always.bind (always_fileReadLength _)
  rintro (err | requested) lengthTrace lengthParsed
  · exact Always.pure (failed lengthParsed)
  rcases lengthParsed with ⟨lengthSilent, inChunk, isLength⟩
  have request := readRequest_of_parsed count.1 count.2 parsed.1 isOffset isLength
  apply Always.bind (always_filePathRequire_silent _)
  rintro (err | pathname) pathTrace pathSilent
  · exact Always.pure (failed pathSilent)
  apply Always.bind (always_fileStreamRequire_silent _)
  intro err streamTrace streamSilent
  split
  · rename_i nonzero
    exact Always.pure (failed nonzero)
  apply Always.call
  intro fileSize
  split
  · apply Always.call
    intro again
    apply Always.call
    intro _
    exact Always.pure (failed einval_ne_zero)
  apply Always.call
  intro data
  have digits : (if 0 < data.1.length then library.bin2hex data.1 (2 * config.chunkSize + 1)
      else []) = hexText data.1 := by
    split
    · have inside := data.2
      exact library.bin2hex_eq _ _ (by omega)
    · rename_i none
      rw [List.length_eq_zero_iff.mp (Nat.eq_zero_of_not_pos none)]
      rfl
  dsimp only
  rw [digits, length_hexText, if_neg (fun bad => bad.2 rfl)]
  apply Always.call
  intro _
  apply Always.pure
  intro _
  refine ⟨objectInstance, number, requested, data, request, ?_, ?_⟩
  · simp only [List.mem_append, List.mem_cons, true_or, or_true]
  · simp only [printedText_append, parsed.2, offsetSilent, lengthSilent, pathSilent, streamSilent,
      List.nil_append]
    exact List.append_nil _

end Reads

/-! ## Commands that look, in the history -/

section Looking

variable {config : FileShellConfig} {library : FileShellLibrary} {objects : FileObjects}
  {Thread : Type} [DecidableEq Thread]

def calledEvent : Activity FileCall FileCall.Response Int → Option FileEvent
  | .called event => some event
  | .started _ | .returned _ => none

/-- What is printed in a step of the history. -/
def printedIn (move : FileSection objects Thread) : CString :=
  printedText (move.label.2.filterMap calledEvent)

theorem printedText_lockedEvents (made : List FileEvent) :
    printedText (lockedEvents made) = printedText made := by
  have locked : lockedEvents made = [⟨.bacnetLock, ()⟩] ++ (made ++ [⟨.bacnetUnlock, ()⟩]) := rfl
  have unlock : printedText [⟨.bacnetUnlock, ()⟩] = [] := rfl
  rw [locked, printedText_append, printedText_append, unlock, List.append_nil]
  rfl

/-- A step that is a whole handler: what the handler promises, and how its calls are answered. -/
theorem WholeSection.looks {jobs : FileProgram Int → Prop} {handler : FileProgram Int}
    {status : Int} {post : Int → List FileEvent → Prop} {move : FileSection objects Thread}
    (whole : WholeSection handler status move) (looks : OnlyLooks handler)
    (always : Always handler post) (step : AtomicStep jobs move.before move.label move.after) :
    ∃ made, printedIn move = printedText made ∧ post status made ∧
      @Alone _ _ _ objects.resource ⟨1, move.before.shared, handler⟩ made
        ⟨1, move.after.shared, .done status⟩ := by
  rcases section_of_atomicStep looks.leavesLock whole.begins step with
    ⟨made, status', done, ends, alone⟩
  have same := ends.symm.trans whole.ends
  rw [Option.some.injEq, Program.done.injEq] at same
  subst same
  refine ⟨made, ?_, ?_, alone⟩
  · have called : ((lockedEvents made).map .called).filterMap calledEvent = lockedEvents made := by
      rw [List.filterMap_map]
      exact List.filterMap_some
    rw [printedIn, done, called, printedText_lockedEvents]
  · have holds : post status' (made ++ []) := alone.wp always fun _ _ => trivial
    rwa [List.append_nil] at holds

/-- The calls of a handler that looks are answered with what only writes change. -/
theorem answered_of_looks {handler : FileProgram Int} (looks : OnlyLooks handler) {Part : Type}
    {part : objects.State → Part}
    (kept : ∀ state call response later, objects.answers state call response later →
      call.isWrite = false → part later = part state)
    {status : Int} {before after : objects.State} {made : List FileEvent}
    (alone : @Alone _ _ _ objects.resource ⟨1, before, handler⟩ made ⟨1, after, .done status⟩)
    {event : FileEvent} (mem : event ∈ made) (shared : event.1.role = .shared) :
    ∃ state later, part state = part before ∧ objects.answers state event.1 event.2 later := by
  have unwritten : ∀ (state : objects.resource.Shared) call response later,
      ¬(call.isLocking = true ∨ call.isWrite = true) →
      objects.resource.answers state call response later → part later = part state := by
    intro state call response later allowed answers
    apply kept state call response later answers
    exact Bool.eq_false_iff.mpr fun writes => allowed (.inr writes)
  exact (alone.answered unwritten looks).2 event mem shared

/--
What a read prints are bytes of the file as it is when the read has its turn, which is
what the updates so far have made of it, and a reader of the reply gets these bytes.
-/
def ReadsHistory (config : FileShellConfig) (library : FileShellLibrary)
    (first : objects.State) (made : List (FileSection objects Thread))
    (move : FileSection objects Thread) (argv : List CString) : Prop :=
  ∃ updates objectInstance offset requested data,
    let reply := ReadReply.ofBytes objectInstance offset requested data
    FileHistory config library first made updates (objects.content move.before.shared) ∧
      readRequest config library argv = some (objectInstance, offset, requested) ∧
      data <+: (objects.content move.before.shared objectInstance).drop offset.toNat ∧
      data.length ≤ requested ∧
      printedIn move = reply.text ++ ['\n'] ∧ decodeReadReply reply.text = some reply ∧
      hexPairs reply.data = some data

theorem readsHistory_of_run {first : objects.State}
    {made later : List (FileSection objects Thread)} {move : FileSection objects Thread}
    {atomic : AtomicState objects.resource Int Thread} {argv : List CString}
    (run : Run (AtomicStep (FileCommandJob config library)) (.initial first)
      (made ++ move :: later) atomic)
    (whole : WholeSection (cmdFileRead config library argv) 0 move) :
    ReadsHistory config library first made move argv := by
  rcases run.split with ⟨earlier, step, _⟩
  rcases (fileHistory_of_run earlier).2 with ⟨updates, history⟩
  have looks : OnlyLooks (cmdFileRead config library argv) := onlyLooks_cmdFileRead argv
  rcases whole.looks looks (always_cmdFileRead argv) step with ⟨events, printed, reads, alone⟩
  rcases reads rfl with ⟨objectInstance, offset, requested, data, request, mem, text⟩
  rcases answered_of_looks looks objects.reads alone mem rfl with ⟨state, after, same, answers⟩
  have bytes := objects.served state objectInstance offset.toNat requested data after answers
  rw [same] at bytes
  refine ⟨updates, objectInstance, offset, requested, data.1, history, request, bytes, data.2,
    printed.trans text, ?_, hexPairs_hexText _⟩
  exact decodeReadReply_text _ fun _ mem => isDigitOf_of_mem_hexText mem

/-- An answer about the attributes of an object. -/
def AnswersAttribute (attributes : UInt32 → FileAttributes) : FileEvent → Prop
  | ⟨.bacfileNameAnsi objectInstance, name⟩ => name = (attributes objectInstance).name
  | ⟨.bacfileFileType objectInstance, mimeType⟩ =>
      mimeType = (attributes objectInstance).mimeType
  | ⟨.bacfileFileSize objectInstance, fileSize⟩ =>
      fileSize = (attributes objectInstance).fileSize
  | ⟨.bacfileReadOnly objectInstance, readOnly⟩ =>
      readOnly = (attributes objectInstance).readOnly
  | ⟨.bacfilePathname objectInstance, pathname⟩ =>
      pathname = (attributes objectInstance).pathname
  | ⟨.bacfileFileAccessStream objectInstance, streamAccess⟩ =>
      streamAccess = (attributes objectInstance).streamAccess
  | _ => True

/-- The attributes of the File objects, which calls that look leave alone. -/
structure AttributedObjects extends FileObjects where
  attributes : State → UInt32 → FileAttributes
  attributes_reads : ∀ state call response later, answers state call response later →
    call.isWrite = false → attributes later = attributes state
  attributes_answers : ∀ state call response later, answers state call response later →
    AnswersAttribute (attributes state) ⟨call, response⟩
  fileSize : ∀ state objectInstance,
    (attributes state objectInstance).fileSize = (content state objectInstance).length

theorem onlyLooks_cmdFileInfo (argv : List CString) : OnlyLooks (cmdFileInfo library argv) := by
  unfold cmdFileInfo
  split
  · exact onlyLooks_reported _ _
  apply (onlyLooks_fileInstanceParse _).bind
  rintro (err | objectInstance)
  · exact Avoids.pure _
  iterate 13
    apply onlyLooks_call rfl
    intro _
  exact Avoids.pure _

/-- What is printed about an object is what it is when the command has its turn. -/
def InfoHistory {objects : AttributedObjects} (config : FileShellConfig)
    (library : FileShellLibrary) (first : objects.State)
    (made : List (FileSection objects.toFileObjects Thread))
    (move : FileSection objects.toFileObjects Thread) (argv : List CString) : Prop :=
  ∃ updates objectInstance,
    FileHistory config library first made updates (objects.content move.before.shared) ∧
      argv[1]?.bind library.bacnetStringToUint32 = some objectInstance ∧
      (objects.attributes move.before.shared objectInstance).fileSize =
        (objects.content move.before.shared objectInstance).length ∧
      ∀ texts : FileTexts (objects.attributes move.before.shared objectInstance),
        ElementText (printedIn move) (fileInfoDocument objectInstance texts)

theorem infoHistory_of_run {objects : AttributedObjects} {first : objects.State}
    {made later : List (FileSection objects.toFileObjects Thread)}
    {move : FileSection objects.toFileObjects Thread}
    {atomic : AtomicState objects.toFileObjects.resource Int Thread} {argv : List CString}
    (run : Run (AtomicStep (FileCommandJob config library)) (.initial first)
      (made ++ move :: later) atomic)
    (whole : WholeSection (cmdFileInfo library argv) 0 move) :
    InfoHistory config library first made move argv := by
  rcases run.split with ⟨earlier, step, _⟩
  rcases (fileHistory_of_run earlier).2 with ⟨updates, history⟩
  have looks : OnlyLooks (cmdFileInfo library argv) := onlyLooks_cmdFileInfo argv
  rcases whole.looks looks (always_cmdFileInfo argv) step with ⟨events, printed, infos, alone⟩
  rcases infos rfl with ⟨objectInstance, file, isInstance, asks, document⟩
  have answered : ∀ event ∈ events, event.1.role = .shared →
      AnswersAttribute (objects.attributes move.before.shared) event := by
    intro event mem shared
    rcases answered_of_looks looks objects.attributes_reads alone mem shared with
      ⟨state, after, same, answers⟩
    rw [← same]
    exact objects.attributes_answers state event.1 event.2 after answers
  -- all six answers are about the attributes at the beginning of the section
  obtain rfl : file = objects.attributes move.before.shared objectInstance := by
    apply FileAttributes.ext
    · exact answered _ asks.name rfl
    · exact answered _ asks.mimeType rfl
    · exact answered _ asks.fileSize rfl
    · exact answered _ asks.readOnly rfl
    · exact answered _ asks.pathname rfl
    · exact answered _ asks.streamAccess rfl
  refine ⟨updates, objectInstance, history, isInstance, objects.fileSize _ _, ?_⟩
  intro texts
  rw [printed]
  exact document texts

end Looking

/-! ## Any interleaving -/

section Linear

variable {config : FileShellConfig} {library : FileShellLibrary} {objects : AttributedObjects}
  {Thread : Type} [DecidableEq Thread]

/-- One history of sections explains what the threads have done, stored and printed. -/
structure Linearizes (config : FileShellConfig) (library : FileShellLibrary) (first : objects.State)
    (taken : List (Taken (State objects.toFileObjects.resource Int Thread)
      (Label Thread FileCall FileCall.Response Int)))
    (last : State objects.toFileObjects.resource Int Thread)
    (sections : List (FileSection objects.toFileObjects Thread))
    (atomic : AtomicState objects.toFileObjects.resource Int Thread)
    (updates : List FileUpdate) : Prop where
  run : Run (AtomicStep (FileCommandJob config library)) (.initial first) sections atomic
  serializes : Serializes taken last sections atomic
  history : FileHistory config library first sections updates (objects.content last.shared)
  reads : ∀ made move later argv, sections = made ++ move :: later →
    WholeSection (cmdFileRead config library argv) 0 move →
    ReadsHistory config library first made move argv
  infos : ∀ made move later argv, sections = made ++ move :: later →
    WholeSection (cmdFileInfo library argv) 0 move →
    InfoHistory config library first made move argv

/--
Whatever the interleaving, no update is lost and none is made twice: the contents are what
the updates that have been reported as stored made of the first contents, in the order of
the sections, and every read and info that succeeds shows the files between two of them.
-/
theorem fileShell_linear {first : objects.State}
    {taken : List (Taken (State objects.toFileObjects.resource Int Thread)
      (Label Thread FileCall FileCall.Response Int))}
    {last : State objects.toFileObjects.resource Int Thread}
    (run : Run (Step (FileCommandJob config library)) (State.initial first) taken last)
    (free : ∀ thread, last.depth thread = 0) :
    ∃ sections atomic updates,
      Linearizes config library first taken last sections atomic updates := by
  have disciplined : ∀ job, FileCommandJob config library job →
      Disciplined objects.toFileObjects.resource 0 0 job 0 :=
    fun _ member => member.fileShellJob.disciplined
  rcases serializable disciplined run free with ⟨sections, atomic, atomicRun, serializes⟩
  rcases (fileHistory_of_run atomicRun).2 with ⟨updates, history⟩
  rw [serializes.shared] at history
  refine ⟨sections, atomic, updates, atomicRun, serializes, history, ?_, ?_⟩
  · rintro made move later argv rfl whole
    exact readsHistory_of_run atomicRun whole
  · rintro made move later argv rfl whole
    exact infoHistory_of_run atomicRun whole

/-- Files in memory have no names. -/
def AttributedObjects.memory : AttributedObjects where
  toFileObjects := .memory
  attributes files objectInstance :=
    { name := none
      mimeType := none
      fileSize := (files objectInstance).length
      readOnly := false
      pathname := some "/restore".toList
      streamAccess := true }
  attributes_reads := by
    intro files call response later answered other
    cases call with
    | bacfileWriteOffset => cases other
    | _ =>
        cases answered
        rfl
  attributes_answers := by
    intro files call response later answered
    cases call with
    | bacfileNameAnsi | bacfileFileType | bacfileFileSize | bacfileReadOnly | bacfilePathname
    | bacfileFileAccessStream =>
        cases answered
        rfl
    | _ => trivial
  fileSize _ _ := rfl

/-- A read of two bytes. -/
def readSeven : List CString := ["read".toList, "7".toList, "4".toList, "2".toList]

/-- A read waits for a write, and gets what has been written. -/
theorem fileShell_linear_seven :
    ∃ (taken : List (Taken (State FileObjects.memory.resource Int Bool)
          (Label Bool FileCall FileCall.Response Int)))
        (last : State FileObjects.memory.resource Int Bool)
        (sections : List (FileSection FileObjects.memory Bool))
        (atomic : AtomicState FileObjects.memory.resource Int Bool) (updates : List FileUpdate),
      PairEnds (FileCommandJob .pairs .reference) (cmdFileWrite .pairs .reference writeSeven)
        (bacnetShellLockHandler (cmdFileRead .pairs .reference readSeven)) (fun _ => []) taken
        last ∧
      last.shared 7 = [0, 0, 0, 0, 10, 11] ∧ last.control false = some (.done 0) ∧
      @Linearizes AttributedObjects.memory Bool _ .pairs .reference (fun _ => []) taken last
        sections atomic updates := by
  have writes : FileCommandJob .pairs .reference
      (bacnetShellLockHandler (cmdFileWrite .pairs .reference writeSeven)) :=
    .update (.write writeSeven)
  have reads : FileCommandJob .pairs .reference
      (bacnetShellLockHandler (cmdFileRead .pairs .reference readSeven)) :=
    .looks _ (onlyLooks_cmdFileRead _)
  rcases exists_run_memory writes (leavesLock_cmdFileWrite _) reads
    reads.fileShellJob.disciplined fun _ => [] with ⟨taken, last, ends⟩
  rcases @fileShell_linear .pairs .reference AttributedObjects.memory Bool _ _ _ _ ends.run
    ends.free with ⟨sections, atomic, updates, linearizes⟩
  refine ⟨taken, last, sections, atomic, updates, ends, ?_, ?_, linearizes⟩
  · rw [ends.shared]
    rfl
  · rw [ends.returns]
    rfl

end Linear

end BacnetZephyr
