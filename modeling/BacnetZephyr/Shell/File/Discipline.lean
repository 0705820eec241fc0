import BacnetZephyr.Foundation.Monitor
import BacnetZephyr.Shell.File.Decode
import BacnetZephyr.Shell.File.Dump
import BacnetZephyr.Shell.File.Export
import Mathlib.Algebra.Order.Group.Multiset

/-!
# The lock and the copies of the long file commands

The commands that transfer a whole file take the task lock only for the calls that
look at File and Device objects, and own copies of the metadata they print. One monitor
watches both: whether the lock is held, and which blocks have been allocated and not
released.

Nothing is assumed of the calls: any of them may fail at any time.
-/

namespace BacnetZephyr

open CLib Program

/-- The call looks at the state of a File or Device object. -/
def FileCall.isObject : FileCall → Bool
  | .bacfileValidInstance _ | .bacfilePathname _ | .bacfileNameAnsi _ | .bacfileFileType _
  | .bacfileFileAccessStream _ | .bacfileReadOnly _ | .bacfileFileSize _
  | .bacfileReadOffset _ _ _ | .bacfileWriteOffset _ _ _ | .deviceIsConfigurationFile _
  | .deviceObjectFunctionsFind _ => true
  | _ => false

def FileCall.isOutput : FileCall → Bool
  | .shellFprintf _ | .shellPrint _ | .shellError _ => true
  | _ => false

/-! ## What is required of a trace -/

def lockAfter (held : Bool) (event : FileEvent) : Bool :=
  match event.1 with
  | .bacnetLock => true
  | .bacnetUnlock => false
  | _ => held

/-- The last call of the lock functions in the trace was `bacnet_lock`. -/
def lockHeld (trace : List FileEvent) : Bool := trace.foldl lockAfter false

structure LockDiscipline (trace : List FileEvent) : Prop where
  objects : ∀ before event after, trace = before ++ event :: after → event.1.isObject = true →
    lockHeld before = true
  output : ∀ before event after, trace = before ++ event :: after → event.1.isOutput = true →
    lockHeld before = false
  locks : ∀ before event after, trace = before ++ event :: after → event.1 = .bacnetLock →
    lockHeld before = false
  unlocks : ∀ before event after, trace = before ++ event :: after → event.1 = .bacnetUnlock →
    lockHeld before = true
  returns : lockHeld trace = false

/-- The block an allocation has returned. -/
def allocatedBlock : FileEvent → Option ℕ
  | ⟨.kMalloc _, block⟩ => block
  | _ => none

def releasedBlock : FileEvent → Option ℕ
  | ⟨.kFree block, _⟩ => block
  | _ => none

def allocations (trace : List FileEvent) (block : ℕ) : ℕ :=
  (trace.filterMap allocatedBlock).count block

def releases (trace : List FileEvent) (block : ℕ) : ℕ :=
  (trace.filterMap releasedBlock).count block

/--
Every block is released as often as it has been allocated, and it is only released or
used while an allocation of it is not released.
-/
structure OwnershipDiscipline (trace : List FileEvent) : Prop where
  released : ∀ block, releases trace block = allocations trace block
  notTwice : ∀ before event after block, trace = before ++ event :: after →
    event.1 = .kFree (some block) → releases before block < allocations before block
  notAfter : ∀ before event after block, trace = before ++ event :: after →
    event.1 = .blockAccess block → releases before block < allocations before block

/-! ## The monitor -/

/-- The lock is held or not, and the blocks allocated and not released. -/
structure TransferState where
  held : Bool
  live : Multiset ℕ

def lockAdmits (held : Bool) (call : FileCall) : Prop :=
  (call.isObject = true → held = true) ∧ (call.isOutput = true → held = false) ∧
    (call = .bacnetLock → held = false) ∧ (call = .bacnetUnlock → held = true)

instance (held : Bool) (call : FileCall) : Decidable (lockAdmits held call) :=
  inferInstanceAs (Decidable (_ ∧ _ ∧ _ ∧ _))

/-- The block a call needs to be allocated. -/
def FileCall.needsBlock : FileCall → Option ℕ
  | .kFree block => block
  | .blockAccess block => some block
  | _ => none

def blocksAdmit (live : Multiset ℕ) (call : FileCall) : Prop :=
  ∀ block ∈ call.needsBlock, block ∈ live

instance (live : Multiset ℕ) (call : FileCall) : Decidable (blocksAdmit live call) :=
  inferInstanceAs (Decidable (∀ _ ∈ call.needsBlock, _))

def blockOf (block : Option ℕ) : Multiset ℕ := block.elim 0 fun block => {block}

def blocksAfter (live : Multiset ℕ) (event : FileEvent) : Multiset ℕ :=
  blockOf (allocatedBlock event) + live - blockOf (releasedBlock event)

/-- The monitor of the lock and of the blocks. -/
def transferMonitor : Monitor FileCall FileCall.Response TransferState := fun state event =>
  if lockAdmits state.held event.1 ∧ blocksAdmit state.live event.1 then
    some ⟨lockAfter state.held event, blocksAfter state.live event⟩
  else none

theorem transferMonitor_eq_some_iff {state next : TransferState} {event : FileEvent} :
    transferMonitor state event = some next ↔
      lockAdmits state.held event.1 ∧ blocksAdmit state.live event.1 ∧
        next = ⟨lockAfter state.held event, blocksAfter state.live event⟩ := by
  simp only [transferMonitor]
  split
  · rename_i admitted
    simp [admitted, eq_comm]
  · rename_i refused
    simp only [reduceCtorEq, false_iff]
    rintro ⟨lock, blocks, _⟩
    exact refused ⟨lock, blocks⟩

theorem follow_lock {state last : TransferState} {trace : List FileEvent}
    (accepted : transferMonitor.follow state trace = some last) :
    last.held = trace.foldl lockAfter state.held := by
  induction trace generalizing state with
  | nil =>
      simp only [Monitor.follow, Option.some.injEq] at accepted
      rw [← accepted]
      rfl
  | cons event rest ih =>
      simp only [Monitor.follow] at accepted
      split at accepted
      · simp at accepted
      · rename_i next admitted
        rw [List.foldl_cons, ih accepted, (transferMonitor_eq_some_iff.mp admitted).2.2]

/-- Allocations and live blocks balance releases, one call at a time. -/
theorem count_blocksAfter {live : Multiset ℕ} {event : FileEvent}
    (admitted : blocksAdmit live event.1) (block : ℕ) :
    (blocksAfter live event).count block + (releasedBlock event).toList.count block =
      live.count block + (allocatedBlock event).toList.count block := by
  rcases event with ⟨op, response⟩
  cases op with
  | kFree freed =>
      cases freed with
      | none => simp [blocksAfter, blockOf, allocatedBlock, releasedBlock]
      | some freed =>
          have owned : 1 ≤ live.count freed :=
            Multiset.one_le_count_iff_mem.mpr (admitted freed rfl)
          by_cases same : block = freed
          · subst same
            simp [blocksAfter, blockOf, allocatedBlock, releasedBlock, owned]
          · simp [blocksAfter, blockOf, allocatedBlock, releasedBlock, same, Ne.symm same]
  | kMalloc size =>
      cases response with
      | none => simp [blocksAfter, blockOf, allocatedBlock, releasedBlock]
      | some allocated =>
          by_cases same : block = allocated
          · subst same
            simp [blocksAfter, blockOf, allocatedBlock, releasedBlock]
          · simp [blocksAfter, blockOf, allocatedBlock, releasedBlock, same, Ne.symm same]
  | _ => simp [blocksAfter, blockOf, allocatedBlock, releasedBlock]

theorem count_filterMap_cons (f : FileEvent → Option ℕ) (event : FileEvent)
    (rest : List FileEvent) (block : ℕ) :
    ((event :: rest).filterMap f).count block =
      (f event).toList.count block + (rest.filterMap f).count block := by
  cases shape : f event with
  | none => simp [shape]
  | some found =>
      simp only [List.filterMap_cons, shape, Option.toList_some, List.count_cons, List.count_nil]
      omega

theorem follow_blocks {state last : TransferState} {trace : List FileEvent}
    (accepted : transferMonitor.follow state trace = some last) (block : ℕ) :
    last.live.count block + releases trace block =
      state.live.count block + allocations trace block := by
  induction trace generalizing state with
  | nil =>
      simp only [Monitor.follow, Option.some.injEq] at accepted
      simp [accepted, releases, allocations]
  | cons event rest ih =>
      simp only [Monitor.follow] at accepted
      split at accepted
      · simp at accepted
      · rename_i next admitted
        rcases transferMonitor_eq_some_iff.mp admitted with ⟨_, blocks, rfl⟩
        have later := ih accepted
        have now := count_blocksAfter blocks block
        simp only [releases, allocations, count_filterMap_cons] at later ⊢
        omega

/-- A trace accepted from the released lock to the released lock keeps its discipline. -/
theorem lockDiscipline_of_follow {trace : List FileEvent} {live live' : Multiset ℕ}
    (accepted : transferMonitor.follow ⟨false, live⟩ trace = some ⟨false, live'⟩) :
    LockDiscipline trace := by
  have admitted : ∀ before event after, trace = before ++ event :: after →
      lockAdmits (lockHeld before) event.1 := by
    rintro before event after rfl
    rcases Monitor.follow_at accepted with ⟨middle, next, reached, accepts⟩
    have held := follow_lock reached
    rw [lockHeld, ← held]
    exact (transferMonitor_eq_some_iff.mp accepts).1
  exact
    { objects := fun before event after split => (admitted before event after split).1
      output := fun before event after split => (admitted before event after split).2.1
      locks := fun before event after split => (admitted before event after split).2.2.1
      unlocks := fun before event after split => (admitted before event after split).2.2.2
      returns := (follow_lock accepted).symm }

theorem ownershipDiscipline_of_follow {trace : List FileEvent} {held held' : Bool}
    (accepted : transferMonitor.follow ⟨held, 0⟩ trace = some ⟨held', 0⟩) :
    OwnershipDiscipline trace := by
  have owned : ∀ before event after block, trace = before ++ event :: after →
      block ∈ event.1.needsBlock → releases before block < allocations before block := by
    rintro before event after block rfl needed
    rcases Monitor.follow_at accepted with ⟨middle, next, reached, accepts⟩
    have live : block ∈ middle.live :=
      (transferMonitor_eq_some_iff.mp accepts).2.1 block needed
    have counted := follow_blocks reached block
    have positive := Multiset.one_le_count_iff_mem.mpr live
    simp only [Multiset.count_zero] at counted
    omega
  constructor
  · intro block
    have counted := follow_blocks accepted block
    simpa using counted
  · rintro before event after block split frees
    apply owned before event after block split
    simp [frees, FileCall.needsBlock]
  · rintro before event after block split accesses
    apply owned before event after block split
    simp [accesses, FileCall.needsBlock]

/-! ## What each call does to the monitor -/

section Moves

variable {live : Multiset ℕ} {held : Bool}

theorem transferMonitor_lock (response : Unit) :
    transferMonitor ⟨false, live⟩ ⟨.bacnetLock, response⟩ = some ⟨true, live⟩ := by
  rw [transferMonitor_eq_some_iff]
  simp [lockAdmits, FileCall.isObject, FileCall.isOutput, blocksAdmit, FileCall.needsBlock,
    lockAfter, blocksAfter, blockOf, allocatedBlock, releasedBlock]

theorem transferMonitor_unlock (response : Unit) :
    transferMonitor ⟨true, live⟩ ⟨.bacnetUnlock, response⟩ = some ⟨false, live⟩ := by
  rw [transferMonitor_eq_some_iff]
  simp [lockAdmits, FileCall.isObject, FileCall.isOutput, blocksAdmit, FileCall.needsBlock,
    lockAfter, blocksAfter, blockOf, allocatedBlock, releasedBlock]

theorem transferMonitor_object {op : FileCall} (object : op.isObject = true)
    (response : op.Response) :
    transferMonitor ⟨true, live⟩ ⟨op, response⟩ = some ⟨true, live⟩ := by
  rw [transferMonitor_eq_some_iff]
  cases op <;> simp_all [FileCall.isObject, lockAdmits, FileCall.isOutput, blocksAdmit,
    FileCall.needsBlock, lockAfter, blocksAfter, blockOf, allocatedBlock, releasedBlock]

theorem transferMonitor_output {op : FileCall} (output : op.isOutput = true)
    (response : op.Response) :
    transferMonitor ⟨false, live⟩ ⟨op, response⟩ = some ⟨false, live⟩ := by
  rw [transferMonitor_eq_some_iff]
  cases op <;> simp_all [FileCall.isObject, lockAdmits, FileCall.isOutput, blocksAdmit,
    FileCall.needsBlock, lockAfter, blocksAfter, blockOf, allocatedBlock, releasedBlock]

theorem transferMonitor_kMalloc (size : ℕ) (block : Option ℕ) :
    transferMonitor ⟨held, live⟩ ⟨.kMalloc size, block⟩ = some ⟨held, blockOf block + live⟩ := by
  rw [transferMonitor_eq_some_iff]
  simp [lockAdmits, FileCall.isObject, FileCall.isOutput, blocksAdmit, FileCall.needsBlock,
    lockAfter, blocksAfter, blockOf, allocatedBlock, releasedBlock]

theorem transferMonitor_kFree (block : Option ℕ) (response : Unit) :
    transferMonitor ⟨held, blockOf block + live⟩ ⟨.kFree block, response⟩ =
      some ⟨held, live⟩ := by
  rw [transferMonitor_eq_some_iff]
  cases block <;> simp [lockAdmits, FileCall.isObject, FileCall.isOutput, blocksAdmit,
    FileCall.needsBlock, lockAfter, blocksAfter, blockOf, allocatedBlock, releasedBlock]

theorem transferMonitor_blockAccess {block : ℕ} (owned : block ∈ live) (response : Unit) :
    transferMonitor ⟨held, live⟩ ⟨.blockAccess block, response⟩ = some ⟨held, live⟩ := by
  rw [transferMonitor_eq_some_iff]
  simp [lockAdmits, FileCall.isObject, FileCall.isOutput, blocksAdmit, FileCall.needsBlock,
    lockAfter, blocksAfter, blockOf, allocatedBlock, releasedBlock, owned]

end Moves

/-! ## Rules of the monitor -/

section Rules

variable {α : Type} {post : α → TransferState → Prop} {live : Multiset ℕ} {held : Bool}

/-- The rule of one call: the rest runs from the state the call moves the monitor to. -/
theorem guarded_moves {op : FileCall} {state : TransferState}
    {after : op.Response → TransferState} {next : op.Response → FileProgram α}
    (moves : ∀ response, transferMonitor state ⟨op, response⟩ = some (after response))
    (rest : ∀ response, Guarded transferMonitor (next response) (after response) post) :
    Guarded transferMonitor (op.perform >>= next) state post := by
  apply Guarded.call
  intro response
  exact ⟨after response, moves response, rest response⟩

theorem guarded_lock {next : Unit → FileProgram α}
    (rest : Guarded transferMonitor (next ()) ⟨true, live⟩ post) :
    Guarded transferMonitor (bacnetLock >>= next) ⟨false, live⟩ post :=
  guarded_moves transferMonitor_lock fun _ => rest

theorem guarded_unlock {next : Unit → FileProgram α}
    (rest : Guarded transferMonitor (next ()) ⟨false, live⟩ post) :
    Guarded transferMonitor (bacnetUnlock >>= next) ⟨true, live⟩ post :=
  guarded_moves transferMonitor_unlock fun _ => rest

theorem guarded_object {op : FileCall} (object : op.isObject = true)
    {next : op.Response → FileProgram α}
    (rest : ∀ response, Guarded transferMonitor (next response) ⟨true, live⟩ post) :
    Guarded transferMonitor (op.perform >>= next) ⟨true, live⟩ post :=
  guarded_moves (transferMonitor_object object) rest

theorem guarded_output {op : FileCall} (output : op.isOutput = true)
    {next : op.Response → FileProgram α}
    (rest : ∀ response, Guarded transferMonitor (next response) ⟨false, live⟩ post) :
    Guarded transferMonitor (op.perform >>= next) ⟨false, live⟩ post :=
  guarded_moves (transferMonitor_output output) rest

theorem guarded_kMalloc {size : ℕ} {next : Option ℕ → FileProgram α}
    (rest : ∀ block, Guarded transferMonitor (next block) ⟨held, blockOf block + live⟩ post) :
    Guarded transferMonitor (kMalloc size >>= next) ⟨held, live⟩ post :=
  guarded_moves (transferMonitor_kMalloc size) rest

theorem guarded_kFree_last (block : Option ℕ) :
    Guarded transferMonitor (kFree block) ⟨held, blockOf block + live⟩
      fun _ last => last = ⟨held, live⟩ := by
  apply Guarded.perform
  intro response
  exact ⟨⟨held, live⟩, transferMonitor_kFree block response, rfl⟩

theorem guarded_kFree {block : Option ℕ} {next : Unit → FileProgram α}
    (rest : Guarded transferMonitor (next ()) ⟨held, live⟩ post) :
    Guarded transferMonitor (kFree block >>= next) ⟨held, blockOf block + live⟩ post :=
  guarded_moves (transferMonitor_kFree block) fun _ => rest

theorem guarded_blockAccess {block : ℕ} (owned : block ∈ live) {next : Unit → FileProgram α}
    (rest : Guarded transferMonitor (next ()) ⟨held, live⟩ post) :
    Guarded transferMonitor (blockAccess block >>= next) ⟨held, live⟩ post :=
  guarded_moves (transferMonitor_blockAccess owned) fun _ => rest

/-- The call prints, or uses a copy that is owned. -/
def PrintsOwned (live : Multiset ℕ) (op : FileCall) : Prop :=
  op.isOutput = true ∨ ∃ block ∈ live, op = .blockAccess block

theorem guarded_performAll {ops : List FileCall} (prints : ∀ op ∈ ops, PrintsOwned live op) :
    Guarded transferMonitor (performAll ops) ⟨false, live⟩ fun _ last => last = ⟨false, live⟩ := by
  apply Guarded.performAll
  intro op mem response
  rcases prints op mem with output | ⟨block, owned, rfl⟩
  · exact transferMonitor_output output response
  · exact transferMonitor_blockAccess owned response

end Rules

/-! ## The steps of a transfer -/

section Steps

variable {live : Multiset ℕ} {held : Bool}

/-- The blocks of the copies made so far. -/
def copiedBlocks (pathname name mimeType : Option OwnedString) : Multiset ℕ :=
  blockOf (pathname.map OwnedString.block) + blockOf (name.map OwnedString.block) +
    blockOf (mimeType.map OwnedString.block)

def FileTransfer.blocks (transfer : FileTransfer) : Multiset ℕ :=
  copiedBlocks (some transfer.pathname) (some transfer.name) (some transfer.mimeType)

/-- The blocks a capture hands to its caller. -/
def capturedBlocks : Except Int FileTransfer → Multiset ℕ
  | .error _ => 0
  | .ok transfer => transfer.blocks

/-- The block of the copy `file_cstring_own` returns. -/
def ownedBlocks : Except Int OwnedString → Multiset ℕ
  | .error _ => 0
  | .ok copy => {copy.block}

theorem guarded_fileCstringOwn (value : Option CString) :
    Guarded transferMonitor (fileCstringOwn value) ⟨held, live⟩ fun owned last =>
      last = ⟨held, ownedBlocks owned + live⟩ := by
  simp only [fileCstringOwn]
  apply guarded_kMalloc
  intro block
  cases block with
  | none => exact Guarded.pure (by simp [blockOf, ownedBlocks])
  | some block =>
      apply guarded_blockAccess (by simp [blockOf])
      exact Guarded.pure rfl

theorem guarded_fileTransferRelease (pathname name mimeType : Option OwnedString) :
    Guarded transferMonitor (fileTransferRelease pathname name mimeType)
      ⟨held, copiedBlocks pathname name mimeType + live⟩ fun _ last => last = ⟨held, live⟩ := by
  simp only [fileTransferRelease, copiedBlocks, add_assoc]
  apply guarded_kFree
  apply guarded_kFree
  exact guarded_kFree_last _

theorem guarded_release (transfer : FileTransfer) :
    Guarded transferMonitor transfer.release ⟨held, transfer.blocks + live⟩
      fun _ last => last = ⟨held, live⟩ :=
  guarded_fileTransferRelease _ _ _

theorem guarded_fileTransferCapture (objectInstance : UInt32) :
    Guarded transferMonitor (fileTransferCapture objectInstance) ⟨true, live⟩
      fun captured last => last = ⟨true, capturedBlocks captured + live⟩ := by
  have failed : ∀ err : Int, Guarded transferMonitor
      (pure (.error err) : FileProgram (Except Int FileTransfer)) ⟨true, live⟩
      fun captured last => last = ⟨true, capturedBlocks captured + live⟩ := by
    intro err
    exact Guarded.pure (by simp [capturedBlocks])
  simp only [fileTransferCapture]
  apply guarded_object rfl
  intro valid
  split
  · exact failed _
  apply guarded_object rfl
  intro pathname
  split
  · exact failed _
  · exact failed _
  apply guarded_object rfl
  intro stream
  split
  · exact failed _
  apply guarded_object rfl
  intro fileSize
  split
  · apply Guarded.bind (guarded_fileCstringOwn _)
    rintro (err | pathname) _ rfl
    · simpa only [ownedBlocks, zero_add] using failed err
    apply guarded_object rfl
    intro name
    apply Guarded.bind (guarded_fileCstringOwn name)
    rintro (err | name) _ rfl
    · -- the pathname is given back
      have released := @guarded_fileTransferRelease live true (some pathname) none none
      simp only [copiedBlocks, blockOf, Option.map_some, Option.map_none, Option.elim_some,
        Option.elim_none, add_zero] at released
      simp only [ownedBlocks, zero_add]
      apply Guarded.bind released
      rintro _ _ rfl
      exact failed err
    apply guarded_object rfl
    intro mimeType
    apply Guarded.bind (guarded_fileCstringOwn mimeType)
    rintro (err | mimeType) _ rfl
    · -- the pathname and the name are given back
      have released := @guarded_fileTransferRelease live true (some pathname) (some name) none
      simp only [copiedBlocks, blockOf, Option.map_some, Option.map_none, Option.elim_some,
        Option.elim_none, add_zero] at released
      rw [add_comm ({pathname.block} : Multiset ℕ), add_assoc] at released
      simp only [ownedBlocks, zero_add]
      apply Guarded.bind released
      rintro _ _ rfl
      exact failed err
    apply guarded_object rfl
    intro readOnly
    apply Guarded.pure
    simp only [capturedBlocks, FileTransfer.blocks, copiedBlocks, ownedBlocks, blockOf,
      Option.map_some, Option.elim_some]
    ac_rfl
  · exact failed _

/-- The pathname of a transfer is compared while the transfer is held. -/
theorem FileTransfer.pathname_mem (transfer : FileTransfer) :
    transfer.pathname.block ∈ transfer.blocks + live := by
  simp [FileTransfer.blocks, copiedBlocks, blockOf]

theorem FileTransfer.name_mem (transfer : FileTransfer) :
    transfer.name.block ∈ transfer.blocks + live := by
  simp [FileTransfer.blocks, copiedBlocks, blockOf]

theorem FileTransfer.mimeType_mem (transfer : FileTransfer) :
    transfer.mimeType.block ∈ transfer.blocks + live := by
  simp [FileTransfer.blocks, copiedBlocks, blockOf]

theorem guarded_fileTransferRevalidate {transfer : FileTransfer}
    (owned : transfer.pathname.block ∈ live) :
    Guarded transferMonitor (fileTransferRevalidate transfer) ⟨true, live⟩
      fun _ last => last = ⟨true, live⟩ := by
  have returns : ∀ err : Int, Guarded transferMonitor (pure err : FileProgram Int) ⟨true, live⟩
      fun _ last => last = ⟨true, live⟩ := fun err => Guarded.pure rfl
  simp only [fileTransferRevalidate]
  apply guarded_object rfl
  intro valid
  split
  · exact returns _
  apply guarded_object rfl
  rintro (_ | pathname)
  · exact returns _
  apply guarded_blockAccess owned
  split
  · exact returns _
  apply guarded_object rfl
  intro stream
  split
  · exact returns _
  apply guarded_object rfl
  intro size
  split
  · exact returns _
  · exact returns _

theorem guarded_fileTransferStatus (objectInstance : UInt32) (err : Int) (backup : Bool) :
    Guarded transferMonitor (fileTransferStatus objectInstance err backup) ⟨false, live⟩
      fun _ last => last = ⟨false, live⟩ := by
  have printed : ∀ text : CString, Guarded transferMonitor
      (do
        shellError text
        return err)
      ⟨false, live⟩ fun _ last => last = ⟨false, live⟩ :=
    fun text => guarded_output rfl fun _ => Guarded.pure rfl
  simp only [fileTransferStatus]
  repeat' split
  all_goals first | exact printed _ | exact Guarded.pure rfl

theorem guarded_fileTransferChanged (objectInstance : UInt32) (err : Int) :
    Guarded transferMonitor (fileTransferChanged objectInstance err) ⟨false, live⟩
      fun _ last => last = ⟨false, live⟩ := by
  simp only [fileTransferChanged]
  split
  · exact guarded_output rfl fun _ => Guarded.pure rfl
  · exact guarded_output rfl fun _ => Guarded.pure rfl

theorem guarded_fileInstanceNumberParse (library : FileShellLibrary) (value : CString) :
    Guarded transferMonitor (fileInstanceNumberParse library value) ⟨false, live⟩
      fun _ last => last = ⟨false, live⟩ := by
  simp only [fileInstanceNumberParse]
  split
  · exact guarded_output rfl fun _ => Guarded.pure rfl
  · exact Guarded.pure rfl

theorem guarded_fileOffsetParse (library : FileShellLibrary) (value : CString) :
    Guarded transferMonitor (fileOffsetParse library value) ⟨false, live⟩
      fun _ last => last = ⟨false, live⟩ := by
  simp only [fileOffsetParse]
  split
  · exact guarded_output rfl fun _ => Guarded.pure rfl
  · split
    · exact guarded_output rfl fun _ => Guarded.pure rfl
    · exact Guarded.pure rfl

theorem guarded_fileDumpOffset (library : FileShellLibrary) (options : List CString) :
    Guarded transferMonitor (fileDumpOffset library options) ⟨false, live⟩
      fun _ last => last = ⟨false, live⟩ := by
  cases options with
  | nil => exact Guarded.pure rfl
  | cons value rest => exact guarded_fileOffsetParse library value

theorem guarded_fileDumpLength (library : FileShellLibrary) (options : List CString) :
    Guarded transferMonitor (fileDumpLength library options) ⟨false, live⟩
      fun _ last => last = ⟨false, live⟩ := by
  simp only [fileDumpLength]
  split
  · split
    · exact guarded_output rfl fun _ => Guarded.pure rfl
    · exact Guarded.pure rfl
  · exact Guarded.pure rfl

theorem guarded_fileTransferOpen (objectInstance : UInt32) :
    Guarded transferMonitor (fileTransferOpen objectInstance) ⟨false, live⟩
      fun opened last => last = ⟨false, capturedBlocks opened + live⟩ := by
  simp only [fileTransferOpen]
  apply guarded_lock
  apply Guarded.bind (guarded_fileTransferCapture objectInstance)
  rintro captured _ rfl
  apply guarded_unlock
  cases captured with
  | error err =>
      simp only [capturedBlocks, zero_add]
      apply Guarded.bind (guarded_fileTransferStatus objectInstance err false)
      rintro status _ rfl
      exact Guarded.pure (by simp)
  | ok transfer => exact Guarded.pure rfl

theorem guarded_fileBackupOpen (objectInstance : UInt32) :
    Guarded transferMonitor (fileBackupOpen objectInstance) ⟨false, live⟩
      fun opened last => last = ⟨false, capturedBlocks opened + live⟩ := by
  simp only [fileBackupOpen]
  apply guarded_lock
  apply Guarded.bind (guarded_fileTransferCapture objectInstance)
  rintro (err | transfer) _ rfl
  · simp only [capturedBlocks, zero_add]
    apply guarded_unlock
    apply Guarded.bind (guarded_fileTransferStatus objectInstance err true)
    rintro status _ rfl
    exact Guarded.pure (by simp)
  · simp only [capturedBlocks]
    apply guarded_object rfl
    intro configured
    split
    · -- the captured file is not a backup file: the copies are given back under the lock
      apply Guarded.bind (guarded_release transfer)
      rintro _ _ rfl
      apply guarded_unlock
      apply Guarded.bind (guarded_fileTransferStatus objectInstance _ true)
      rintro status _ rfl
      exact Guarded.pure (by simp)
    · apply guarded_unlock
      exact Guarded.pure rfl

theorem guarded_fileTransferRead (transfer : FileTransfer) (offset requested : ℕ) :
    Guarded transferMonitor (fileTransferRead transfer offset requested)
      ⟨false, transfer.blocks + live⟩ fun _ last => last = ⟨false, transfer.blocks + live⟩ := by
  simp only [fileTransferRead]
  apply guarded_lock
  apply Guarded.bind (guarded_fileTransferRevalidate transfer.pathname_mem)
  rintro err _ rfl
  split
  · apply guarded_object rfl
    intro bytes
    apply guarded_unlock
    exact Guarded.pure rfl
  · apply guarded_unlock
    exact Guarded.pure rfl

theorem guarded_fileObjectSupported (transfer : FileTransfer) (objectType : UInt32) :
    Guarded transferMonitor (fileObjectSupported transfer objectType)
      ⟨false, transfer.blocks + live⟩ fun _ last => last = ⟨false, transfer.blocks + live⟩ := by
  simp only [fileObjectSupported]
  apply guarded_lock
  apply Guarded.bind (guarded_fileTransferRevalidate transfer.pathname_mem)
  rintro err _ rfl
  split
  · apply guarded_object rfl
    intro supported
    apply guarded_unlock
    exact Guarded.pure rfl
  · apply guarded_unlock
    exact Guarded.pure rfl

theorem guarded_release_bind {transfer : FileTransfer} {α : Type} {next : Unit → FileProgram α}
    {post : α → TransferState → Prop}
    (rest : Guarded transferMonitor (next ()) ⟨held, live⟩ post) :
    Guarded transferMonitor (transfer.release >>= next) ⟨held, transfer.blocks + live⟩ post := by
  apply Guarded.bind (guarded_release transfer)
  rintro _ _ rfl
  exact rest

/-- A value returned after the transfer has been released. -/
theorem guarded_release_pure (transfer : FileTransfer) {α : Type} (value : α) :
    Guarded transferMonitor
      (do
        transfer.release
        return value)
      ⟨false, transfer.blocks + live⟩ fun _ last => last = ⟨false, live⟩ :=
  guarded_release_bind (Guarded.pure rfl)

theorem guarded_reject (transfer : FileTransfer) (message : CString) {α : Type} (value : α) :
    Guarded transferMonitor
      (do
        shellError message
        transfer.release
        return value)
      ⟨false, transfer.blocks + live⟩ fun _ last => last = ⟨false, live⟩ :=
  guarded_output rfl fun _ => guarded_release_pure transfer value

end Steps

/-! ## The commands -/

section Commands

variable {live : Multiset ℕ}

/-- Each round of the loop keeps the copies, each exit gives them back. -/
theorem guarded_fileDumpLoop (transfer : FileTransfer) (offset remaining : ℕ) :
    Guarded transferMonitor (fileDumpLoop transfer offset remaining)
      ⟨false, transfer.blocks + live⟩ fun _ last => last = ⟨false, live⟩ := by
  induction remaining using Nat.strong_induction_on generalizing offset with
  | _ remaining ih =>
      rw [fileDumpLoop]
      split
      · apply Guarded.bind (guarded_fileTransferRead transfer offset _)
        rintro (err | data) _ rfl
        · exact guarded_release_bind (guarded_fileTransferChanged _ err)
        simp only
        split
        · exact guarded_release_pure transfer 0
        apply guarded_output rfl
        intro _
        split
        · exact guarded_release_pure transfer 0
        · exact ih (remaining - data.1.length) (by omega) _
      · exact guarded_release_pure transfer 0

theorem guarded_cmdFileDump (library : FileShellLibrary) (argv : List CString) :
    Guarded transferMonitor (cmdFileDump library argv) ⟨false, live⟩
      fun _ last => last = ⟨false, live⟩ := by
  simp only [cmdFileDump]
  split
  · exact guarded_output rfl fun _ => Guarded.pure rfl
  apply Guarded.bind (guarded_fileInstanceNumberParse library _)
  rintro (err | objectInstance) _ rfl
  · exact Guarded.pure rfl
  apply Guarded.bind (guarded_fileDumpOffset library _)
  rintro (err | offset) _ rfl
  · exact Guarded.pure rfl
  apply Guarded.bind (guarded_fileDumpLength library _)
  rintro (err | length) _ rfl
  · exact Guarded.pure rfl
  apply Guarded.bind (guarded_fileTransferOpen objectInstance)
  rintro (err | transfer) _ rfl
  · exact Guarded.pure (by simp [capturedBlocks])
  simp only [capturedBlocks]
  split
  · exact guarded_reject transfer _ _
  cases length with
  | none => exact guarded_fileDumpLoop transfer _ _
  | some remaining =>
      simp only
      split
      · exact guarded_reject transfer _ _
      · exact guarded_fileDumpLoop transfer _ _

theorem guarded_fileExportLoop (config : FileShellConfig) (library : FileShellLibrary)
    (transfer : FileTransfer) (offset : ℕ) (crc : UInt32) :
    Guarded transferMonitor (fileExportLoop config library transfer offset crc)
      ⟨false, transfer.blocks + live⟩ fun result last =>
        last = ⟨false, (match result with
          | .error _ => 0
          | .ok _ => transfer.blocks) + live⟩ := by
  have failed : ∀ err : Int, Guarded transferMonitor
      (pure (.error err) : FileProgram (Except Int UInt32)) ⟨false, live⟩ fun result last =>
        last = ⟨false, (match result with
          | .error _ => 0
          | .ok _ => transfer.blocks) + live⟩ :=
    fun err => Guarded.pure (by simp)
  induction remaining : transfer.fileSize - offset using Nat.strong_induction_on
    generalizing offset crc with
  | _ remaining ih =>
      have chunkSize := config.chunkSize_range
      rw [fileExportLoop]
      split
      · apply Guarded.bind (guarded_fileTransferRead transfer offset _)
        rintro (err | data) _ rfl
        · apply guarded_release_bind
          apply Guarded.bind (guarded_fileTransferChanged _ err)
          rintro status _ rfl
          exact failed status
        simp only
        split
        · apply guarded_output rfl
          intro _
          exact guarded_release_bind (failed _)
        · rename_i read
          split
          · apply guarded_output rfl
            intro _
            exact guarded_release_bind (failed _)
          · apply guarded_output rfl
            intro _
            exact ih (transfer.fileSize - (offset + data.1.length)) (by omega) _ _ rfl
      · exact Guarded.pure rfl

theorem prints_exportOpening (objectInstance : UInt32) (transfer : FileTransfer) :
    ∀ op ∈ exportOpening objectInstance transfer, PrintsOwned (transfer.blocks + live) op := by
  simpa [exportOpening, PrintsOwned, FileCall.isOutput, -Multiset.mem_add] using
    And.intro (@FileTransfer.name_mem live transfer) (@FileTransfer.mimeType_mem live transfer)

theorem prints_exportClosing (crc : UInt32) : ∀ op ∈ exportClosing crc, PrintsOwned live op := by
  simp [exportClosing, PrintsOwned, FileCall.isOutput]

theorem guarded_cmdFileExport (config : FileShellConfig) (library : FileShellLibrary)
    (argv : List CString) :
    Guarded transferMonitor (cmdFileExport config library argv) ⟨false, live⟩
      fun _ last => last = ⟨false, live⟩ := by
  simp only [cmdFileExport]
  split
  · rename_i command value
    show Guarded transferMonitor (cmdFileExport config library [command, value]) _ _
    rw [cmdFileExport_eq]
    apply Guarded.bind (guarded_fileInstanceNumberParse library _)
    rintro (err | objectInstance) _ rfl
    · exact Guarded.pure rfl
    apply Guarded.bind (guarded_fileTransferOpen objectInstance)
    rintro (err | transfer) _ rfl
    · exact Guarded.pure (by simp [capturedBlocks])
    simp only [capturedBlocks]
    apply Guarded.bind (guarded_performAll (prints_exportOpening objectInstance transfer))
    rintro _ _ rfl
    apply Guarded.bind (guarded_fileExportLoop config library transfer 0 0)
    rintro (err | crc) _ rfl
    · exact Guarded.pure (by simp)
    apply Guarded.bind (guarded_performAll (prints_exportClosing crc))
    rintro _ _ rfl
    exact guarded_release_pure transfer 0
  · exact guarded_output rfl fun _ => Guarded.pure rfl

theorem guarded_fileDecodeRecord (library : BackupLibrary) (transfer : FileTransfer) (offset : ℕ)
    (apdu : List UInt8) :
    Guarded transferMonitor (fileDecodeRecord library transfer offset apdu)
      ⟨false, transfer.blocks + live⟩ fun result last =>
        last = ⟨false, (match result with
          | .error _ => 0
          | .ok _ => transfer.blocks) + live⟩ := by
  have failed : ∀ err : Int, Guarded transferMonitor
      (pure (.error err) : FileProgram (Except Int { length : ℕ // 0 < length })) ⟨false, live⟩
      fun result last => last = ⟨false, (match result with
        | .error _ => 0
        | .ok _ => transfer.blocks) + live⟩ :=
    fun err => Guarded.pure (by simp)
  simp only [fileDecodeRecord]
  split
  · apply Guarded.bind (guarded_fileObjectSupported transfer _)
    rintro (err | supported) _ rfl
    · apply guarded_release_bind
      apply Guarded.bind (guarded_fileTransferChanged _ err)
      rintro status _ rfl
      exact failed status
    simp only
    split
    · apply guarded_output rfl
      intro _
      exact guarded_release_bind (failed _)
    split
    · apply guarded_output rfl
      intro _
      exact guarded_release_bind (failed _)
    · apply guarded_output rfl
      intro _
      exact Guarded.pure rfl
  · apply guarded_output rfl
    intro _
    exact guarded_release_bind (failed _)

theorem guarded_fileDecodeLoop (library : BackupLibrary) (transfer : FileTransfer) (offset : ℕ) :
    Guarded transferMonitor (fileDecodeLoop library transfer offset)
      ⟨false, transfer.blocks + live⟩ fun _ last => last = ⟨false, live⟩ := by
  induction remaining : transfer.fileSize - offset using Nat.strong_induction_on
    generalizing offset with
  | _ remaining ih =>
      rw [fileDecodeLoop]
      split
      · apply Guarded.bind (guarded_fileTransferRead transfer offset _)
        rintro (err | apdu) _ rfl
        · exact guarded_release_bind (guarded_fileTransferChanged _ err)
        simp only
        split
        · exact guarded_reject transfer _ _
        apply Guarded.bind (guarded_fileDecodeRecord library transfer offset _)
        rintro (err | decodedLen) _ rfl
        · exact Guarded.pure (by simp)
        · have positive := decodedLen.2
          exact ih (transfer.fileSize - (offset + decodedLen.1)) (by omega) _ rfl
      · exact guarded_release_pure transfer 0

theorem guarded_cmdFileDecode (parser : FileShellLibrary) (library : BackupLibrary)
    (argv : List CString) :
    Guarded transferMonitor (cmdFileDecode parser library argv) ⟨false, live⟩
      fun _ last => last = ⟨false, live⟩ := by
  simp only [cmdFileDecode]
  split
  · apply Guarded.bind (guarded_fileInstanceNumberParse parser _)
    rintro (err | objectInstance) _ rfl
    · exact Guarded.pure rfl
    apply Guarded.bind (guarded_fileBackupOpen objectInstance)
    rintro (err | transfer) _ rfl
    · exact Guarded.pure (by simp [capturedBlocks])
    · exact guarded_fileDecodeLoop library transfer 0
  · exact guarded_output rfl fun _ => Guarded.pure rfl

/-- A program that keeps the lock released and no block runs with both disciplines. -/
theorem disciplines_of_guarded {program : FileProgram Int}
    (guarded : Guarded transferMonitor program ⟨false, 0⟩ fun _ last => last = ⟨false, 0⟩)
    (world : FileWorld) (state : world.State) :
    LockDiscipline (program.run world state).trace ∧
      OwnershipDiscipline (program.run world state).trace := by
  rcases guarded.sound world state with ⟨_, accepted, rfl⟩
  exact ⟨lockDiscipline_of_follow accepted, ownershipDiscipline_of_follow accepted⟩

/-- The long file commands as the shell runs them. -/
inductive LongFileCommand where
  | dump
  | exportFile (config : FileShellConfig)
  | decode (library : BackupLibrary)

def LongFileCommand.program (library : FileShellLibrary) (argv : List CString) :
    LongFileCommand → FileProgram Int
  | .dump => cmdFileDump library argv
  | .exportFile config => cmdFileExport config library argv
  | .decode backup => cmdFileDecode library backup argv

theorem guarded_longFileCommand (library : FileShellLibrary) (argv : List CString)
    (command : LongFileCommand) :
    Guarded transferMonitor (command.program library argv) ⟨false, live⟩
      fun _ last => last = ⟨false, live⟩ := by
  cases command with
  | dump => exact guarded_cmdFileDump library argv
  | exportFile config => exact guarded_cmdFileExport config library argv
  | decode backup => exact guarded_cmdFileDecode library backup argv

theorem longFileCommand_lockDiscipline (library : FileShellLibrary) (argv : List CString)
    (command : LongFileCommand) (world : FileWorld) (state : world.State) :
    LockDiscipline ((command.program library argv).run world state).trace :=
  (disciplines_of_guarded (guarded_longFileCommand library argv command) world state).1

theorem longFileCommand_ownershipDiscipline (library : FileShellLibrary) (argv : List CString)
    (command : LongFileCommand) (world : FileWorld) (state : world.State) :
    OwnershipDiscipline ((command.program library argv).run world state).trace :=
  (disciplines_of_guarded (guarded_longFileCommand library argv command) world state).2

end Commands

end BacnetZephyr
