import BacnetZephyr.Foundation.CString
import BacnetZephyr.Foundation.LockedCell

/-!
# The clock under the task lock

Shell commands registered through `BACNET_SHELL_CMD` and `BACNET_SHELL_CMD_ADD` run
their handler under the lock of the BACnet task. The clock is a cell of two parts:
`datetime_timesync` stores the time and then the date, `datetime_local` reads both.

Handlers are written in the calls that they make of the clock, of other wrapped
handlers, and of anything else, whose answers are left open. Any number of threads run
any number of wrapped handlers, rounds of the BACnet task, and reads without the lock.
-/

namespace BacnetZephyr.Clock

open CLib LockedCell Transition

section Definitions

variable {Date Time Work : Type} {Answer : Work → Type}

/-- Code that uses the clock and the lock; the parts of the clock are in the order of storing. -/
abbrev ClockProgram (Date Time : Type) {Work : Type} (Answer : Work → Type) :=
  LockedCell.Code Time Date Answer

def bacnetLock : ClockProgram Date Time Answer Unit := .call .lock .done

def bacnetUnlock : ClockProgram Date Time Answer Unit := .call .unlock .done

def datetimeTimesync (bdate : Date) (btime : Time) : ClockProgram Date Time Answer Unit :=
  .call (.store btime bdate) .done

def datetimeLocal : ClockProgram Date Time Answer (Time × Date) := .call .load .done

/-- `BACNET_SHELL_LOCK_HANDLER`. -/
def bacnetShellLockHandler (handler : ClockProgram Date Time Answer Int) :
    ClockProgram Date Time Answer Int := do
  bacnetLock
  let status ← handler
  bacnetUnlock
  return status

/-- What a handler does from its entry on; every way through it ends in a `return`. -/
inductive Handler (Date Time : Type) {Work : Type} (Answer : Work → Type) where
  | return (status : Int)
  | datetimeTimesync (bdate : Date) (btime : Time) (next : Handler Date Time Answer)
  | datetimeLocal (next : Date → Time → Handler Date Time Answer)
  | work (asked : Work) (next : Answer asked → Handler Date Time Answer)
  | locked (handler : Handler Date Time Answer) (next : Int → Handler Date Time Answer)

def Handler.code : Handler Date Time Answer → ClockProgram Date Time Answer Int
  | .return status => pure status
  | .datetimeTimesync bdate btime next => do
      Clock.datetimeTimesync bdate btime
      next.code
  | .datetimeLocal next => do
      let (btime, bdate) ← Clock.datetimeLocal
      (next bdate btime).code
  | .work asked next => .call (.work asked) fun answer => (next answer).code
  | .locked handler next => do
      let status ← bacnetShellLockHandler handler.code
      (next status).code

/-- A round of the BACnet task; the work of the stack may set the clock as well. -/
def bacnetTask (work : Handler Date Time Answer) : ClockProgram Date Time Answer Int := do
  bacnetLock
  let status ← work.code
  let _ ← datetimeLocal
  bacnetUnlock
  return status

/-- What threads run, one after the other in any order. -/
inductive ClockJob : ClockProgram Date Time Answer Int → Prop where
  | shellCommand (handler : Handler Date Time Answer) :
      ClockJob (bacnetShellLockHandler handler.code)
  | bacnetTask (work : Handler Date Time Answer) : ClockJob (bacnetTask work)
  | reader : ClockJob (do let _ ← datetimeLocal; return 0)

/-- The library functions for dates and times as text. -/
structure DatetimeText (Date Time : Type) where
  dateInitAscii : CString → Option Date
  timeInitAscii : CString → Option Time
  dateToAscii : Date → CString
  timeToAscii : Time → CString

/-- Output of `cmd_date_time`. -/
inductive DatetimeOutput where
  | shellPrint (text : CString)
  | shellHelp
deriving DecidableEq

def cmdDateTime (datetime : DatetimeText Date Time) (argc : ℕ) (argv : ℕ → CString) :
    Handler Date Time (fun _ : DatetimeOutput => Unit) :=
  let print : Handler Date Time (fun _ : DatetimeOutput => Unit) :=
    .datetimeLocal fun bdate btime =>
      .work (.shellPrint (datetime.dateToAscii bdate ++ ' ' :: datetime.timeToAscii btime))
        fun _ => .return 0
  if argc = 3 ∨ argc = 1 then
    if argc = 3 then
      match datetime.dateInitAscii (argv 1), datetime.timeInitAscii (argv 2) with
      | some bdate, some btime => .datetimeTimesync bdate btime print
      | _, _ =>
          .work (.shellPrint " date time format: YYYY/MM/DD HH:MM:SS.hh".toList)
            fun _ => .return (-Errno.einval)
    else print
  else .work .shellHelp fun _ => .return (-Errno.einval)

end Definitions

section Results

variable {Date Time Work : Type} {Answer : Work → Type} {exit depth : ℕ}

theorem guarded_bacnetShellLockHandler {handler : ClockProgram Date Time Answer Int}
    (guarded : Guarded (depth + 1) handler (depth + 1)) :
    Guarded depth (bacnetShellLockHandler handler) depth := by
  apply guarded.bind
  intro status
  exact ⟨Nat.succ_pos depth, rfl⟩

/-- Under the lock a handler stores what it likes, and returns at its own depth. -/
theorem Handler.guarded (handler : Handler Date Time Answer) (inside : 0 < depth) :
    Guarded depth handler.code depth := by
  induction handler generalizing depth with
  | «return» status => rfl
  | datetimeTimesync bdate btime next ih => exact ⟨inside, ih inside⟩
  | datetimeLocal next ih => exact fun loaded => ih loaded.2 loaded.1 inside
  | work asked next ih => exact fun answer => ih answer inside
  | locked handler next handlerIh ih =>
      have called := guarded_bacnetShellLockHandler (handlerIh (Nat.succ_pos depth))
      exact called.bind fun status => ih status inside

theorem ClockJob.guarded {job : ClockProgram Date Time Answer Int} (member : ClockJob job) :
    Guarded 0 job 0 := by
  cases member with
  | shellCommand handler => exact guarded_bacnetShellLockHandler (handler.guarded Nat.one_pos)
  | bacnetTask work =>
      apply (work.guarded Nat.one_pos).bind
      intro status loaded
      exact ⟨Nat.one_pos, rfl⟩
  | reader => exact fun loaded => rfl

/-- What is promised of a run of the threads from a clock that shows the pair. -/
structure ClockWhole {Thread : Type} (initial : Time × Date)
    (taken : List (Taken (State Thread Time Date Answer Int) (Thread × Event Time Date Int))) :
    Prop where
  loaded : ∀ early transition late pair, taken = early ++ transition :: late →
    transition.label.2 = .loaded pair → 0 < transition.before.depth transition.label.1 →
    pair ∈ initial :: stored early
  returned : ∀ transition ∈ taken, ∀ status, transition.label.2 = .started ∨
    transition.label.2 = .returned status →
    transition.before.depth transition.label.1 = 0 ∧ transition.after.depth transition.label.1 = 0

/--
In every interleaving a pair read under the lock is one that a single store wrote, and
every wrapped handler returns at the depth of its entry on every path.
-/
theorem clock_whole {Thread : Type} [DecidableEq Thread] {initial : Time × Date}
    {taken : List (Taken (State Thread Time Date Answer Int) (Thread × Event Time Date Int))}
    {last : State Thread Time Date Answer Int}
    (run : Run (Step ClockJob) (State.initial Thread Answer Int initial) taken last) :
    ClockWhole initial taken ∧
      ∀ (handler : Handler Date Time Answer) (depth after : ℕ) (status : Int),
        Returns (bacnetShellLockHandler handler.code) depth status after → after = depth := by
  have guarded : ∀ job : ClockProgram Date Time Answer Int, ClockJob job → Guarded 0 job 0 :=
    fun _ member => member.guarded
  refine ⟨{ loaded := ?_, returned := ?_ }, ?_⟩
  · rintro early transition late pair rfl loaded inside
    exact loaded_mem guarded run loaded inside
  · intro transition mem status ends
    rcases List.append_of_mem mem with ⟨early, late, rfl⟩
    exact depth_eq_zero guarded run ends
  · intro handler depth after status returns
    apply returns.depth_eq
    exact guarded_bacnetShellLockHandler (handler.guarded (Nat.succ_pos depth))

/--
One thread sets the clock by a command and reads it back. Another one reads it without the
lock while half of it is stored, and sees a pair that was never stored.
-/
theorem clock_whole_cmdDateTime :
    ∃ (taken : List (Taken (State Bool ℕ ℕ (fun _ : DatetimeOutput => Unit) Int)
        (Bool × Event ℕ ℕ Int)))
      (last : State Bool ℕ ℕ (fun _ : DatetimeOutput => Unit) Int),
      Run (Step ClockJob) (State.initial Bool _ Int (0, 1)) taken last ∧
        taken.map Taken.label =
          [(true, .started), (false, .started), (true, .locked), (true, .storing),
            (false, .loading), (false, .loaded (23, 1)), (true, .stored (23, 31)),
            (true, .loading), (true, .loaded (23, 31))] ∧
        last.depth true = 1 ∧ ClockWhole (0, 1) taken := by
  let datetime : DatetimeText ℕ ℕ :=
    { dateInitAscii := fun _ => some 31, timeInitAscii := fun _ => some 23
      dateToAscii := unsignedText, timeToAscii := unsignedText }
  let handler := cmdDateTime datetime 3 fun _ => []
  have alone : ∀ (thread : Bool) (event : Event ℕ ℕ Int)
      (state : State Bool ℕ ℕ (fun _ : DatetimeOutput => Unit) Int),
      state.depth true = 0 ∧ state.depth false = 0 ∨ event ≠ .locked →
      event = .locked → ∀ other, other ≠ thread → state.depth other = 0 := by
    rintro thread event state (free | unlocked) isLock other -
    · cases other
      · exact free.2
      · exact free.1
    · exact absurd isLock unlocked
  have started := @Run.next _ _ (Step ClockJob)
    (State.initial Bool (fun _ : DatetimeOutput => Unit) Int (0, 1)) _ _ _ (true, .started) .start
    (.move (.start (.shellCommand handler)) (alone _ _ _ (.inr (by simp))))
  have both := @Run.next _ _ _ _ _ _ _ (false, .started) started
    (.move (.start .reader) (alone _ _ _ (.inr (by simp))))
  have locked := @Run.next _ _ _ _ _ _ _ (true, .locked) both
    (.move .lock (alone _ _ _ (.inl ⟨rfl, rfl⟩)))
  have storing := @Run.next _ _ _ _ _ _ _ (true, .storing) locked
    (.move .storeFirst (alone _ _ _ (.inr (by simp))))
  have reading := @Run.next _ _ _ _ _ _ _ (false, .loading) storing
    (.move .loadFirst (alone _ _ _ (.inr (by simp))))
  have torn := @Run.next _ _ _ _ _ _ _ (false, .loaded (23, 1)) reading
    (.move .loadRest (alone _ _ _ (.inr (by simp))))
  have stored := @Run.next _ _ _ _ _ _ _ (true, .stored (23, 31)) torn
    (.move .storeSecond (alone _ _ _ (.inr (by simp))))
  have loading := @Run.next _ _ _ _ _ _ _ (true, .loading) stored
    (.move .loadFirst (alone _ _ _ (.inr (by simp))))
  have run := @Run.next _ _ _ _ _ _ _ (true, .loaded (23, 31)) loading
    (.move .loadRest (alone _ _ _ (.inr (by simp))))
  exact ⟨_, _, run, rfl, rfl, (clock_whole run).1⟩

end Results

end BacnetZephyr.Clock
