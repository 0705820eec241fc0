import BacnetZephyr.Foundation.Timeline

/-!
# Reinitializing the device

`bacnet_reinitialize_device_task` reboots the device when it finds a cold or warm
start requested and its timer expired. The timer is restarted by calls of the task
that find the device idle, not by the request.

A run interleaves calls of the task with changes of the reinitialized state.
`rebootsInTime_iff` says which runs keep the configured delay between a request and
its reboot.
-/

namespace BacnetZephyr

open Timeline

inductive BacnetReinitializedState where
  | coldstart
  | warmstart
  | startbackup
  | endbackup
  | startrestore
  | endrestore
  | abortrestore
  | activateChanges
  | idle
deriving DecidableEq, Repr

structure Mstimer where
  start : ℕ
  interval : ℕ
deriving DecidableEq, Repr

def mstimerSet (now interval : ℕ) : Mstimer := { start := now, interval }

def mstimerRestart (timer : Mstimer) (now : ℕ) : Mstimer := { timer with start := now }

def mstimerExpired (timer : Mstimer) (now : ℕ) : Bool :=
  timer.interval ≠ 0 ∧ timer.interval ≤ now - timer.start

/-- What the task does besides changing its state. -/
inductive ReinitEffect where
  | coldstartCallback
  | sysRebootCold
  | sysRebootWarm
deriving DecidableEq, Repr

def ReinitEffect.request : ReinitEffect → BacnetReinitializedState
  | .coldstartCallback | .sysRebootCold => .coldstart
  | .sysRebootWarm => .warmstart

/-- `Reinitialize_Timer` and the reinitialized state of the Device object. -/
structure ReinitDevice where
  reinitializeTimer : Mstimer
  reinitializedState : BacnetReinitializedState
deriving DecidableEq, Repr

def bacnetReinitializeDeviceInit (now timeoutMs : ℕ) (device : ReinitDevice) : ReinitDevice :=
  { device with reinitializeTimer := mstimerSet now timeoutMs }

/--
`bacnet_reinitialize_device_task`, with or without `CONFIG_REBOOT` and a cold start
callback.
-/
def bacnetReinitializeDeviceTask (configReboot coldstartCallback : Bool) (now : ℕ)
    (device : ReinitDevice) : ReinitDevice × List ReinitEffect :=
  match device.reinitializedState with
  | .coldstart =>
      if mstimerExpired device.reinitializeTimer now then
        let called := if coldstartCallback then [.coldstartCallback] else []
        if configReboot then
          ({ device with reinitializeTimer := mstimerSet now 0 }, called ++ [.sysRebootCold])
        else
          ({ reinitializeTimer := mstimerRestart device.reinitializeTimer now
             reinitializedState := .idle }, called)
      else (device, [])
  | .warmstart =>
      if mstimerExpired device.reinitializeTimer now then
        if configReboot then
          ({ device with reinitializeTimer := mstimerSet now 0 }, [.sysRebootWarm])
        else
          ({ reinitializeTimer := mstimerRestart device.reinitializeTimer now
             reinitializedState := .idle }, [])
      else (device, [])
  | .idle =>
      ({ device with reinitializeTimer := mstimerRestart device.reinitializeTimer now }, [])
  | _ => (device, [])

/-! ## Runs -/

/-- What happens between two moments of a run. -/
inductive ReinitEvent where
  | task (coldstartCallback : Bool)
  | stateSet (state : BacnetReinitializedState)
deriving DecidableEq, Repr

/-- An effect with its time and the states the device had been in before. -/
structure ReinitReboot where
  time : ℕ
  effect : ReinitEffect
  timeline : List (ℕ × BacnetReinitializedState)
deriving DecidableEq

/-- The device in a run, the states it has been in, and what the task has done. -/
structure ReinitSystem where
  device : ReinitDevice
  timeline : List (ℕ × BacnetReinitializedState)
  reboots : List ReinitReboot

/-- The run starts with the initialization of the timer. -/
def ReinitSystem.init (delay time : ℕ) (device : ReinitDevice) : ReinitSystem :=
  let device := bacnetReinitializeDeviceInit time delay device
  { device, timeline := [(time, device.reinitializedState)], reboots := [] }

def ReinitSystem.step (configReboot : Bool) (system : ReinitSystem) :
    ℕ × ReinitEvent → ReinitSystem
  | (time, .task coldstartCallback) =>
      let (device, effects) :=
        bacnetReinitializeDeviceTask configReboot coldstartCallback time system.device
      { device
        timeline := (time, device.reinitializedState) :: system.timeline
        reboots := effects.map (fun effect => ⟨time, effect, system.timeline⟩) ++ system.reboots }
  | (time, .stateSet state) =>
      { system with
        device := { system.device with reinitializedState := state }
        timeline := (time, state) :: system.timeline }

def reinitRun (configReboot : Bool) (first : ReinitSystem) (events : List (ℕ × ReinitEvent)) :
    ReinitSystem :=
  events.foldl (ReinitSystem.step configReboot) first

/-- The request a reboot answers was pending for the delay. -/
def ReinitReboot.InTime (delay : ℕ) (reboot : ReinitReboot) : Prop :=
  ∃ requested, requested + delay ≤ reboot.time ∧
    HeldSince reboot.timeline reboot.effect.request requested

def rebootPossible (configReboot coldstartCallback : Bool) : BacnetReinitializedState → Bool
  | .coldstart => configReboot || coldstartCallback
  | .warmstart => configReboot
  | _ => false

/--
A call of the task that could reboot does not fall into the window in which the armed
timer has run the delay since its last restart, but the pending request has not.
-/
def OutsideWindow (configReboot : Bool) (delay : ℕ) (system : ReinitSystem) (time : ℕ)
    (coldstartCallback : Bool) : Prop :=
  let state := system.device.reinitializedState
  let timer := system.device.reinitializeTimer
  rebootPossible configReboot coldstartCallback state → timer.interval ≠ 0 →
    time < timer.start + delay ∨
      ∃ requested, heldFrom state system.timeline = some requested ∧ requested + delay ≤ time

def TasksOutsideWindow (configReboot : Bool) (delay : ℕ) :
    ReinitSystem → List (ℕ × ReinitEvent) → Prop
  | _, [] => True
  | system, (time, .stateSet state) :: events =>
      TasksOutsideWindow configReboot delay (system.step configReboot (time, .stateSet state))
        events
  | system, (time, .task coldstartCallback) :: events =>
      OutsideWindow configReboot delay system time coldstartCallback ∧
        TasksOutsideWindow configReboot delay
          (system.step configReboot (time, .task coldstartCallback)) events

/-! ## What one call does -/

/-- What the task does when it finds the timer expired. -/
def expiryEffects (configReboot coldstartCallback : Bool) :
    BacnetReinitializedState → List ReinitEffect
  | .coldstart =>
      (if coldstartCallback then [.coldstartCallback] else []) ++
        if configReboot then [.sysRebootCold] else []
  | .warmstart => if configReboot then [.sysRebootWarm] else []
  | _ => []

theorem task_effects (configReboot coldstartCallback : Bool) (now : ℕ) (device : ReinitDevice) :
    (bacnetReinitializeDeviceTask configReboot coldstartCallback now device).2 =
      if mstimerExpired device.reinitializeTimer now then
        expiryEffects configReboot coldstartCallback device.reinitializedState
      else [] := by
  rcases device with ⟨timer, state⟩
  cases state with
  | coldstart =>
      simp only [bacnetReinitializeDeviceTask]
      cases mstimerExpired timer now with
      | false => rfl
      | true => cases configReboot <;> simp [expiryEffects]
  | warmstart =>
      simp only [bacnetReinitializeDeviceTask]
      cases mstimerExpired timer now with
      | false => rfl
      | true => cases configReboot <;> simp [expiryEffects]
  | _ => simp [bacnetReinitializeDeviceTask, expiryEffects]

/-- The task leaves the interval of the timer alone or sets it to zero. -/
theorem task_interval (configReboot coldstartCallback : Bool) (now : ℕ) (device : ReinitDevice) :
    let timer :=
      (bacnetReinitializeDeviceTask configReboot coldstartCallback now device).1.reinitializeTimer
    timer.interval = device.reinitializeTimer.interval ∨ timer.interval = 0 := by
  rcases device with ⟨timer, state⟩
  cases state with
  | coldstart =>
      simp only [bacnetReinitializeDeviceTask]
      cases mstimerExpired timer now <;> cases configReboot <;> simp [mstimerSet, mstimerRestart]
  | warmstart =>
      simp only [bacnetReinitializeDeviceTask]
      cases mstimerExpired timer now <;> cases configReboot <;> simp [mstimerSet, mstimerRestart]
  | _ => simp [bacnetReinitializeDeviceTask, mstimerRestart]

theorem expiryEffects_ne_nil_iff (configReboot coldstartCallback : Bool)
    (state : BacnetReinitializedState) :
    expiryEffects configReboot coldstartCallback state ≠ [] ↔
      rebootPossible configReboot coldstartCallback state := by
  cases state <;> cases configReboot <;> cases coldstartCallback <;> decide

theorem request_of_mem_expiryEffects {configReboot coldstartCallback : Bool}
    {state : BacnetReinitializedState} {effect : ReinitEffect}
    (mem : effect ∈ expiryEffects configReboot coldstartCallback state) :
    effect.request = state := by
  revert effect
  cases state <;> cases configReboot <;> cases coldstartCallback <;> decide

/-! ## What holds along a run -/

/--
The timer has the configured interval or is disabled, and the timeline is in order,
ends in the present and has the present state as its newest entry.
-/
structure ReinitInvariant (delay now : ℕ) (system : ReinitSystem) : Prop where
  interval : system.device.reinitializeTimer.interval = delay ∨
    system.device.reinitializeTimer.interval = 0
  ordered : Ordered system.timeline
  past : ∀ entry ∈ system.timeline, entry.1 ≤ now
  current : ∃ observed older,
    system.timeline = (observed, system.device.reinitializedState) :: older

theorem reinitInvariant_init (delay time : ℕ) (device : ReinitDevice) :
    ReinitInvariant delay time (ReinitSystem.init delay time device) where
  interval := Or.inl rfl
  ordered := List.pairwise_singleton _ _
  past := by simp [ReinitSystem.init]
  current := ⟨time, [], rfl⟩

theorem ReinitInvariant.step (configReboot : Bool) {delay now time : ℕ} {system : ReinitSystem}
    (invariant : ReinitInvariant delay now system) (later : now ≤ time) (event : ReinitEvent) :
    ReinitInvariant delay time (system.step configReboot (time, event)) := by
  have past : ∀ entry ∈ system.timeline, entry.1 ≤ time :=
    fun entry mem => Nat.le_trans (invariant.past entry mem) later
  cases event with
  | stateSet state =>
      exact
        { interval := invariant.interval
          ordered := List.pairwise_cons.mpr ⟨past, invariant.ordered⟩
          past := by simpa [ReinitSystem.step] using past
          current := ⟨time, system.timeline, rfl⟩ }
  | task coldstartCallback =>
      refine
        { interval := ?_
          ordered := List.pairwise_cons.mpr ⟨past, invariant.ordered⟩
          past := by simpa [ReinitSystem.step] using past
          current := ⟨time, system.timeline, rfl⟩ }
      rcases task_interval configReboot coldstartCallback time system.device with same | zero
      · rcases invariant.interval with configured | disabled
        · exact Or.inl (same.trans configured)
        · exact Or.inr (same.trans disabled)
      · exact Or.inr zero

/-- An armed timer is expired when the delay has passed since its last restart. -/
theorem ReinitInvariant.expired_iff {delay now : ℕ} {system : ReinitSystem}
    (invariant : ReinitInvariant delay now system)
    (armed : system.device.reinitializeTimer.interval ≠ 0) (time : ℕ) :
    mstimerExpired system.device.reinitializeTimer time ↔
      system.device.reinitializeTimer.start + delay ≤ time := by
  have configured : system.device.reinitializeTimer.interval = delay := by
    rcases invariant.interval with configured | disabled
    · exact configured
    · exact absurd disabled armed
  simp only [mstimerExpired, configured, decide_eq_true_eq]
  omega

/-- A call of the task reboots in time exactly when it lies outside the window. -/
theorem ReinitInvariant.inTime_iff {configReboot coldstartCallback : Bool} {delay now time : ℕ}
    {system : ReinitSystem} (invariant : ReinitInvariant delay now system) :
    (∀ effect ∈ (bacnetReinitializeDeviceTask configReboot coldstartCallback time
        system.device).2, ReinitReboot.InTime delay ⟨time, effect, system.timeline⟩) ↔
      OutsideWindow configReboot delay system time coldstartCallback := by
  rw [task_effects]
  constructor
  · intro inTime possible armed
    by_cases early : time < system.device.reinitializeTimer.start + delay
    · exact Or.inl early
    · right
      have expired := (invariant.expired_iff armed time).mpr (by omega)
      obtain ⟨effect, mem⟩ := List.exists_mem_of_ne_nil _
        ((expiryEffects_ne_nil_iff _ _ _).mpr possible)
      rw [if_pos expired] at inTime
      have held := inTime effect mem
      rw [ReinitReboot.InTime, request_of_mem_expiryEffects mem] at held
      exact (exists_heldSince_iff invariant.ordered).mp held
  · intro outside effect mem
    by_cases expired : mstimerExpired system.device.reinitializeTimer time
    · rw [if_pos expired] at mem
      have possible := (expiryEffects_ne_nil_iff _ _ _).mp (List.ne_nil_of_mem mem)
      have armed : system.device.reinitializeTimer.interval ≠ 0 := by
        simp only [mstimerExpired, decide_eq_true_eq] at expired
        exact expired.1
      have late := (invariant.expired_iff armed time).mp expired
      rw [ReinitReboot.InTime, request_of_mem_expiryEffects mem]
      rcases outside possible armed with early | held
      · omega
      · exact (exists_heldSince_iff invariant.ordered).mpr held
    · rw [if_neg expired] at mem
      simp at mem

/-- Along a run the reboots are in time exactly when the calls are outside the window. -/
theorem ReinitInvariant.run_iff {configReboot : Bool} {delay now : ℕ} {system : ReinitSystem}
    (invariant : ReinitInvariant delay now system) {events : List (ℕ × ReinitEvent)}
    (ordered : (now :: events.map Prod.fst).Pairwise (· ≤ ·)) :
    (∀ reboot ∈ (reinitRun configReboot system events).reboots, reboot.InTime delay) ↔
      (∀ reboot ∈ system.reboots, reboot.InTime delay) ∧
        TasksOutsideWindow configReboot delay system events := by
  induction events generalizing now system with
  | nil => simp [reinitRun, TasksOutsideWindow]
  | cons event events ih =>
      rcases event with ⟨time, event⟩
      rw [List.map_cons, List.pairwise_cons] at ordered
      have later : now ≤ time := ordered.1 time (by simp)
      have next := ih (invariant.step configReboot later event) ordered.2
      rw [reinitRun, List.foldl_cons, ← reinitRun, next]
      cases event with
      | stateSet state => rfl
      | task coldstartCallback =>
          rw [TasksOutsideWindow, ← invariant.inTime_iff, ← and_assoc]
          apply and_congr_left'
          simp only [ReinitSystem.step, List.mem_append, List.mem_map, or_imp, forall_and,
            forall_exists_index, and_imp, forall_apply_eq_imp_iff₂]
          exact and_comm

/--
In a run that starts with the initialization of the timer, every reboot comes at least
the configured delay after its request exactly when no call of the task falls into the
window between the expiry of the timer and the delay of the request.
-/
theorem rebootsInTime_iff (configReboot : Bool) (delay start : ℕ) (device : ReinitDevice)
    {events : List (ℕ × ReinitEvent)}
    (ordered : (start :: events.map Prod.fst).Pairwise (· ≤ ·)) :
    let first := ReinitSystem.init delay start device
    (∀ reboot ∈ (reinitRun configReboot first events).reboots, reboot.InTime delay) ↔
      TasksOutsideWindow configReboot delay first events := by
  intro first
  rw [(reinitInvariant_init delay start device).run_iff ordered]
  simp [first, ReinitSystem.init]

/-- A request that is pending for the whole delay. -/
theorem rebootsInTime_iff_patient :
    let first := ReinitSystem.init 3000 0 ⟨⟨0, 0⟩, .idle⟩
    let events : List (ℕ × ReinitEvent) :=
      [(0, .task true), (1, .stateSet .coldstart), (2, .task true), (3001, .task true)]
    (∀ reboot ∈ (reinitRun true first events).reboots, reboot.InTime 3000) ↔
      TasksOutsideWindow true 3000 first events :=
  rebootsInTime_iff true 3000 0 ⟨⟨0, 0⟩, .idle⟩ (by decide)

/-- During a backup the timer runs on, and a cold start reboots a millisecond later. -/
theorem not_rebootsInTime_backup :
    let first := ReinitSystem.init 3000 0 ⟨⟨0, 0⟩, .idle⟩
    let events : List (ℕ × ReinitEvent) :=
      [(0, .task true), (1, .stateSet .startbackup), (3000, .stateSet .coldstart),
        (3001, .task true)]
    ¬∀ reboot ∈ (reinitRun true first events).reboots, reboot.InTime 3000 := by
  intro first events inTime
  have reboot := inTime
    ⟨3001, .sysRebootCold, [(3000, .coldstart), (1, .startbackup), (0, .idle), (0, .idle)]⟩
    (by decide)
  obtain ⟨since, oldest, early⟩ :=
    (exists_heldSince_iff (by unfold Ordered; decide)).mp reboot
  have young : since = 3000 := by simpa [heldFrom, ReinitEffect.request] using oldest.symm
  have tooEarly : since + 3000 ≤ 3001 := early
  omega

end BacnetZephyr
