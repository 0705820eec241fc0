import BacnetZephyr.Foundation.Transition
import BacnetZephyr.Osif.Reinit

/-!
# Cold starts

The cold start callback wipes the stored settings, so it must not run without a
request. One timer serves warm and cold starts: a build that reboots disarms it
before the reboot, a build that cannot reboot returns the device to idle. Either
way the next invocation needs a cold start requested after the last one.

`reinitRun_coldstart` says so for every run, whether or not `sys_reboot` returns.
-/

namespace BacnetZephyr

open Transition

/-- The device after an event, and what the task has done in it. -/
def ReinitEvent.outcome (configReboot : Bool) (device : ReinitDevice) :
    ℕ × ReinitEvent → ReinitDevice × List ReinitEffect
  | (time, .task coldstartCallback) =>
      bacnetReinitializeDeviceTask configReboot coldstartCallback time device
  | (_, .stateSet state) => ({ device with reinitializedState := state }, [])

def ReinitStep (configReboot : Bool) (before : ReinitDevice) (event : ℕ × ReinitEvent)
    (after : ReinitDevice) : Prop :=
  after = (ReinitEvent.outcome configReboot before event).1

abbrev ReinitTaken := Taken ReinitDevice (ℕ × ReinitEvent)

def effectsOf (configReboot : Bool) (taken : ReinitTaken) : List ReinitEffect :=
  (ReinitEvent.outcome configReboot taken.before taken.label).2

/-- The state is set to cold start from outside, and was another one. -/
def RequestsColdstart (taken : ReinitTaken) : Prop :=
  taken.label.2 = .stateSet .coldstart ∧ taken.before.reinitializedState ≠ .coldstart

/--
Between two invocations of the callback a cold start is requested. The callback and the
reboots come in the state that requests them, and a cold reboot after the callback.
-/
structure ColdstartOnRequest (configReboot : Bool) (run : List ReinitTaken) : Prop where
  once : ∀ early first between second late,
    run = early ++ first :: (between ++ second :: late) →
    .coldstartCallback ∈ effectsOf configReboot first →
    .coldstartCallback ∈ effectsOf configReboot second →
    ∃ request ∈ between, RequestsColdstart request
  requested : ∀ taken ∈ run, ∀ effect ∈ effectsOf configReboot taken,
    taken.before.reinitializedState = effect.request
  wiped : ∀ taken ∈ run, .sysRebootCold ∈ effectsOf configReboot taken →
    taken.label.2 = .task true →
    effectsOf configReboot taken = [.coldstartCallback, .sysRebootCold]

/-! ## One event -/

section Event

variable {configReboot : Bool} {before after : ReinitDevice} {event : ℕ × ReinitEvent}

theorem mem_effectsOf {taken : ReinitTaken} {effect : ReinitEffect}
    (mem : effect ∈ effectsOf configReboot taken) :
    ∃ time coldstartCallback, taken.label = (time, .task coldstartCallback) ∧
      mstimerExpired taken.before.reinitializeTimer time ∧
      effect ∈ expiryEffects configReboot coldstartCallback taken.before.reinitializedState := by
  rcases taken with ⟨before, ⟨time, event⟩, after⟩
  cases event with
  | stateSet state => simp [effectsOf, ReinitEvent.outcome] at mem
  | task coldstartCallback =>
      rw [effectsOf, ReinitEvent.outcome, task_effects] at mem
      split at mem
      · exact ⟨time, coldstartCallback, rfl, ‹_›, mem⟩
      · simp at mem

/-- A disarmed timer stays disarmed. -/
theorem ReinitStep.disarmed (step : ReinitStep configReboot before event after)
    (disarmed : before.reinitializeTimer.interval = 0) :
    after.reinitializeTimer.interval = 0 := by
  subst step
  rcases event with ⟨time, event⟩
  cases event with
  | stateSet state => exact disarmed
  | task coldstartCallback =>
      rcases task_interval configReboot coldstartCallback time before with same | zero
      · exact same.trans disarmed
      · exact zero

/-- The task leaves the state alone or returns it to idle. -/
theorem task_state (configReboot coldstartCallback : Bool) (now : ℕ) (device : ReinitDevice) :
    let state :=
      (bacnetReinitializeDeviceTask configReboot coldstartCallback now device).1.reinitializedState
    state = device.reinitializedState ∨ state = .idle := by
  rcases device with ⟨timer, state⟩
  cases state with
  | coldstart =>
      simp only [bacnetReinitializeDeviceTask]
      cases mstimerExpired timer now <;> cases configReboot <;> simp
  | warmstart =>
      simp only [bacnetReinitializeDeviceTask]
      cases mstimerExpired timer now <;> cases configReboot <;> simp
  | _ => simp [bacnetReinitializeDeviceTask]

/-- Only a request brings the device from another state to cold start. -/
theorem ReinitStep.requestsColdstart (step : ReinitStep configReboot before event after)
    (other : before.reinitializedState ≠ .coldstart)
    (coldstart : after.reinitializedState = .coldstart) :
    RequestsColdstart ⟨before, event, after⟩ := by
  subst step
  rcases event with ⟨time, event⟩
  refine ⟨?_, other⟩
  cases event with
  | stateSet state => exact congrArg ReinitEvent.stateSet coldstart
  | task coldstartCallback =>
      exfalso
      rcases task_state configReboot coldstartCallback time before with same | idle
      · exact other (same.symm.trans coldstart)
      · cases idle.symm.trans coldstart

/-- After the callback the timer is disarmed or the device idle. -/
theorem ReinitStep.after_coldstartCallback (step : ReinitStep configReboot before event after)
    (called : .coldstartCallback ∈ effectsOf configReboot ⟨before, event, after⟩) :
    after.reinitializeTimer.interval = 0 ∨ after.reinitializedState = .idle := by
  subst step
  obtain ⟨time, coldstartCallback, rfl, expired, mem⟩ := mem_effectsOf called
  have requested := request_of_mem_expiryEffects mem
  rcases before with ⟨timer, state⟩
  change .coldstart = state at requested
  subst requested
  simp only [ReinitEvent.outcome, bacnetReinitializeDeviceTask]
  rw [if_pos expired]
  cases configReboot with
  | false => exact Or.inr rfl
  | true => exact Or.inl rfl

end Event

/-! ## Runs -/

section Runs

variable {configReboot : Bool} {first last : ReinitDevice} {run : List ReinitTaken}

theorem exists_requestsColdstart (taken : Run (ReinitStep configReboot) first run last)
    (other : first.reinitializedState ≠ .coldstart)
    (coldstart : last.reinitializedState = .coldstart) :
    ∃ request ∈ run, RequestsColdstart request := by
  induction taken with
  | start => exact absurd coldstart other
  | @next run middle last event taken step ih =>
      by_cases already : middle.reinitializedState = .coldstart
      · obtain ⟨request, mem, requests⟩ := ih already
        exact ⟨request, List.mem_append_left _ mem, requests⟩
      · exact ⟨_, List.mem_append_right _ (List.mem_singleton.mpr rfl),
          step.requestsColdstart already coldstart⟩

/--
Whatever the build and the outside do, the cold start callback runs at most once for
each request of a cold start, and nothing reboots the device without its request.
-/
theorem reinitRun_coldstart (configReboot : Bool) (now timeoutMs : ℕ) (device : ReinitDevice)
    {run : List ReinitTaken} {last : ReinitDevice}
    (taken : Run (ReinitStep configReboot) (bacnetReinitializeDeviceInit now timeoutMs device)
      run last) :
    ColdstartOnRequest configReboot run where
  once := by
    rintro early first between second late rfl firstCalled secondCalled
    obtain ⟨_, firstStep, rest⟩ := taken.split
    obtain ⟨middle, _, _⟩ := rest.split
    obtain ⟨time, coldstartCallback, _, expired, mem⟩ := mem_effectsOf secondCalled
    have coldstart := request_of_mem_expiryEffects mem
    rcases firstStep.after_coldstartCallback firstCalled with disarmed | idle
    · -- a disarmed timer never expires again
      exfalso
      have still : second.before.reinitializeTimer.interval = 0 :=
        @Run.invariant _ _ _ _ _ _ (fun device => device.reinitializeTimer.interval = 0) disarmed
          (fun _ _ _ disarmed step => step.disarmed disarmed) middle
      simp [mstimerExpired, still] at expired
    · apply exists_requestsColdstart middle _ coldstart.symm
      rw [idle]
      decide
  requested := by
    intro transition _ effect mem
    obtain ⟨_, _, _, _, mem⟩ := mem_effectsOf mem
    exact (request_of_mem_expiryEffects mem).symm
  wiped := by
    rintro ⟨before, ⟨time, event⟩, after⟩ _ mem rfl
    obtain ⟨_, _, same, expired, mem⟩ := mem_effectsOf mem
    cases same
    have coldstart : .coldstart = before.reinitializedState := request_of_mem_expiryEffects mem
    rw [effectsOf, ReinitEvent.outcome, task_effects, if_pos expired]
    simp only [← coldstart] at mem ⊢
    cases configReboot with
    | false => simp [expiryEffects] at mem
    | true => rfl

end Runs

/-- Two cold starts requested on a device that cannot reboot. -/
theorem reinitRun_coldstart_twice :
    let device := bacnetReinitializeDeviceInit 0 3000 ⟨⟨0, 0⟩, .idle⟩
    let requested : ReinitDevice := { device with reinitializedState := .coldstart }
    let cleared : ReinitDevice := ⟨⟨3000, 3000⟩, .idle⟩
    let again : ReinitDevice := ⟨⟨3000, 3000⟩, .coldstart⟩
    ColdstartOnRequest false
      [⟨device, (1, .stateSet .coldstart), requested⟩, ⟨requested, (3000, .task true), cleared⟩,
        ⟨cleared, (3001, .stateSet .coldstart), again⟩,
        ⟨again, (6000, .task true), ⟨⟨6000, 3000⟩, .idle⟩⟩] :=
  reinitRun_coldstart false 0 3000 ⟨⟨0, 0⟩, .idle⟩
    (.next (.next (.next (.next .start rfl) rfl) rfl) rfl)

end BacnetZephyr
