import BacnetZephyr.Datalink.Interface
import BacnetZephyr.Foundation.Transition
import Mathlib.Logic.Function.Basic

/-!
# Waiting for an address

`wait_for_ipv4_address` registers a callback, looks for a usable address, and sleeps
on a semaphore of limit one which the callback gives. The waiting thread and the
network stack take their steps in any order; the thread is interrupted also between
the slots of one search.

The wakeup that could be lost is the one for a slot the search has already passed.
`WakeupPending` says that each such slot, once eligible, has left a unit in the
semaphore or an event in flight.
-/

namespace BacnetZephyr

open Transition

inductive NetMgmtEvent where
  | ipv4AddrAdd
  | other (code : ℕ)
deriving DecidableEq, Repr

/-- The statement of `wait_for_ipv4_address` the thread is at. -/
inductive WaitPoint where
  | semInit
  | addCallback
  /-- The call of `ipv4_address_index`, before or in the loop. -/
  | testAddress (first : Bool)
  /-- In the loop of `ipv4_address_index`. -/
  | scanning (first : Bool) (index : ℕ)
  | tested (first : Bool) (index : ℤ)
  | dhcpv4Start
  | semTake
  | delCallback (index : ℤ)
  | returned (index : ℤ)
deriving DecidableEq, Repr

structure WaitSystem (Interface : Type) where
  point : WaitPoint
  semCount : ℕ
  callbackAdded : Bool
  dhcpStarted : Bool
  interfaces : Interface → NetIf
  /-- The events raised and not yet delivered. -/
  inFlight : List (NetMgmtEvent × Interface)

variable {Interface : Type}

def kSemGive (limit count : ℕ) : ℕ := min (count + 1) limit

def eventCbHandler [DecidableEq Interface] (iface : Interface) (event : NetMgmtEvent × Interface)
    (system : WaitSystem Interface) : WaitSystem Interface :=
  if event.2 = iface ∧ event.1 = .ipv4AddrAdd then
    { system with semCount := kSemGive 1 system.semCount }
  else system

/-- The next statement of the thread; there is none while it is blocked. -/
def waiterStep (config : BipConfig) (iface : Interface) (system : WaitSystem Interface) :
    Option (WaitSystem Interface) :=
  match system.point with
  | .semInit => some { system with semCount := 0, point := .addCallback }
  | .addCallback => some { system with callbackAdded := true, point := .testAddress true }
  | .testAddress first =>
      match (system.interfaces iface).ipv4 with
      | none => some { system with point := .tested first (-1) }
      | some _ => some { system with point := .scanning first 0 }
  | .scanning first index =>
      match ((system.interfaces iface).ipv4.getD [])[index]? with
      | none => some { system with point := .tested first (-1) }
      | some addr =>
          if addressSelected config index addr then
            some { system with point := .tested first index }
          else some { system with point := .scanning first (index + 1) }
  | .tested first index =>
      if 0 ≤ index then some { system with point := .delCallback index }
      else if first && config.netDhcpv4 then some { system with point := .dhcpv4Start }
      else some { system with point := .semTake }
  | .dhcpv4Start => some { system with dhcpStarted := true, point := .semTake }
  | .semTake =>
      if 0 < system.semCount then
        some { system with semCount := system.semCount - 1, point := .testAddress false }
      else none
  | .delCallback index => some { system with callbackAdded := false, point := .returned index }
  | .returned _ => none

/-- An address in a slot of the interface, which gets its slots where it has none. -/
def NetIf.addAddr (config : BipConfig) (iface : NetIf) (slot : ℕ) (addr : NetIfAddrIpv4) :
    NetIf where
  ipv4 := some ((iface.ipv4.getD (List.replicate config.maxIpv4Addr .unused)).set slot addr)

def WaitSystem.setInterface [DecidableEq Interface] (system : WaitSystem Interface)
    (iface : Interface) (content : NetIf) : WaitSystem Interface :=
  { system with interfaces := Function.update system.interfaces iface content }

inductive WaitLabel (Interface : Type) where
  | waiter
  | addAddress (changed : Interface) (slot : ℕ) (addr : NetIfAddrIpv4)
  | alterAddresses (changed : Interface) (unicast : List NetIfAddrIpv4)
  | raise (event : NetMgmtEvent × Interface)
  | deliver (event : NetMgmtEvent × Interface)

/--
A step of the waiting thread or of the network stack. The stack adds addresses, each
with an event, changes or removes addresses so that no slot becomes eligible, raises
events of any kind, and delivers events in flight to the callback if it is there.
-/
inductive WaitStep [DecidableEq Interface] (config : BipConfig) (iface : Interface) :
    WaitSystem Interface → WaitLabel Interface → WaitSystem Interface → Prop where
  | waiter {system next : WaitSystem Interface}
      (executed : waiterStep config iface system = some next) :
      WaitStep config iface system .waiter next
  | addAddress (system : WaitSystem Interface) (changed : Interface) (slot : ℕ)
      (addr : NetIfAddrIpv4) :
      WaitStep config iface system (.addAddress changed slot addr)
        { system.setInterface changed ((system.interfaces changed).addAddr config slot addr) with
          inFlight := (.ipv4AddrAdd, changed) :: system.inFlight }
  | alterAddresses (system : WaitSystem Interface) (changed : Interface)
      (unicast : List NetIfAddrIpv4)
      (noneAdded : ∀ index, Eligible config { ipv4 := some unicast } index →
        Eligible config (system.interfaces changed) index) :
      WaitStep config iface system (.alterAddresses changed unicast)
        (system.setInterface changed { ipv4 := some unicast })
  | raise (system : WaitSystem Interface) (event : NetMgmtEvent × Interface) :
      WaitStep config iface system (.raise event)
        { system with inFlight := event :: system.inFlight }
  | deliver (system : WaitSystem Interface) (event : NetMgmtEvent × Interface)
      (raised : event ∈ system.inFlight) :
      WaitStep config iface system (.deliver event)
        (let delivered := { system with inFlight := system.inFlight.erase event }
        if system.callbackAdded then eventCbHandler iface event delivered else delivered)

/-- The thread enters `wait_for_ipv4_address`. -/
def WaitSystem.Entering (system : WaitSystem Interface) : Prop :=
  system.point = .semInit ∧ system.callbackAdded = false

def WaitSystem.Blocked (system : WaitSystem Interface) : Prop :=
  system.point = .semTake ∧ system.semCount = 0

/-! ## Wakeups -/

/-- The search in progress, or the one the thread acts on, found the slot ineligible. -/
def WaitPoint.Passed : WaitPoint → ℕ → Prop
  | .scanning _ next, index => index < next
  | .tested _ result, _ => result < 0
  | .dhcpv4Start, _ | .semTake, _ => True
  | _, _ => False

def WaitPoint.Registered : WaitPoint → Prop
  | .semInit | .addCallback | .returned _ => False
  | _ => True

structure WakeupPending (config : BipConfig) (iface : Interface) (system : WaitSystem Interface) :
    Prop where
  callback : system.point.Registered → system.callbackAdded = true
  pending : ∀ index, system.point.Passed index → Eligible config (system.interfaces iface) index →
    0 < system.semCount ∨ (.ipv4AddrAdd, iface) ∈ system.inFlight

variable {config : BipConfig} {iface : Interface} {system next : WaitSystem Interface}

theorem WaitPoint.Passed.registered {point : WaitPoint} {index : ℕ} (passed : point.Passed index) :
    point.Registered := by
  cases point <;> simp_all [WaitPoint.Passed, WaitPoint.Registered]

theorem WaitSystem.Entering.wakeupPending (entering : system.Entering) :
    WakeupPending config iface system := by
  rcases entering with ⟨atInit, _⟩
  constructor
  · simp [atInit, WaitPoint.Registered]
  · simp [atInit, WaitPoint.Passed]

theorem not_eligible_of_no_slots {content : NetIf} (noSlots : content.ipv4 = none) (index : ℕ) :
    ¬Eligible config content index := by
  rintro ⟨unicast, addr, slots, _⟩
  simp [noSlots] at slots

theorem not_eligible_of_no_slot {content : NetIf} {index : ℕ}
    (noSlot : (content.ipv4.getD [])[index]? = none) {later : ℕ} (beyond : index ≤ later) :
    ¬Eligible config content later := by
  rintro ⟨unicast, addr, slots, slot, _⟩
  simp only [slots, Option.getD_some, List.getElem?_eq_none_iff] at noSlot
  rcases List.getElem?_eq_some_iff.mp slot with ⟨inside, _⟩
  omega

theorem eligible_iff_of_slot {content : NetIf} {index : ℕ} {addr : NetIfAddrIpv4}
    (slot : (content.ipv4.getD [])[index]? = some addr) :
    Eligible config content index ↔ addressSelected config index addr = true := by
  rw [eligible_iff]
  rcases shape : content.ipv4 with _ | unicast
  · simp [shape] at slot
  · simp only [shape, Option.getD_some] at slot
    simp [slot]

/-- The thread passes a slot only when it is not eligible at that moment. -/
theorem WakeupPending.waiter (invariant : WakeupPending config iface system)
    (executed : waiterStep config iface system = some next) : WakeupPending config iface next := by
  rcases invariant with ⟨callback, pending⟩
  cases atPoint : system.point with
  | semInit =>
      simp only [waiterStep, atPoint, Option.some.injEq] at executed
      subst next
      constructor <;> simp [WaitPoint.Registered, WaitPoint.Passed]
  | addCallback =>
      simp only [waiterStep, atPoint, Option.some.injEq] at executed
      subst next
      constructor <;> simp [WaitPoint.Passed]
  | testAddress first =>
      have added := callback (by simp [atPoint, WaitPoint.Registered])
      simp only [waiterStep, atPoint] at executed
      split at executed
      · rename_i noSlots
        simp only [Option.some.injEq] at executed
        subst next
        refine ⟨fun _ => added, ?_⟩
        intro index _ eligible
        exact absurd eligible (not_eligible_of_no_slots noSlots index)
      · simp only [Option.some.injEq] at executed
        subst next
        refine ⟨fun _ => added, ?_⟩
        intro index passed
        simp [WaitPoint.Passed] at passed
  | scanning first position =>
      have added := callback (by simp [atPoint, WaitPoint.Registered])
      simp only [waiterStep, atPoint] at executed
      split at executed
      · rename_i noSlot
        simp only [Option.some.injEq] at executed
        subst next
        refine ⟨fun _ => added, ?_⟩
        intro index _ eligible
        by_cases before : index < position
        · exact pending index (by simpa [atPoint, WaitPoint.Passed] using before) eligible
        · exact absurd eligible (not_eligible_of_no_slot noSlot (by omega))
      · rename_i addr slot
        split at executed
        · simp only [Option.some.injEq] at executed
          subst next
          refine ⟨fun _ => added, ?_⟩
          intro index passed
          simp only [WaitPoint.Passed] at passed
          omega
        · rename_i notSelected
          simp only [Option.some.injEq] at executed
          subst next
          refine ⟨fun _ => added, ?_⟩
          intro index passed eligible
          simp only [WaitPoint.Passed] at passed
          rcases Nat.lt_or_ge index position with before | here
          · exact pending index (by simpa [atPoint, WaitPoint.Passed] using before) eligible
          · have same : index = position := by omega
            subst same
            exact absurd ((eligible_iff_of_slot slot).mp eligible) notSelected
  | tested first result =>
      have added := callback (by simp [atPoint, WaitPoint.Registered])
      simp only [waiterStep, atPoint] at executed
      split at executed
      · simp only [Option.some.injEq] at executed
        subst next
        refine ⟨fun _ => added, ?_⟩
        simp [WaitPoint.Passed]
      · have passed : ∀ index, system.point.Passed index := by
          intro index
          simp only [atPoint, WaitPoint.Passed]
          omega
        split at executed
        all_goals
          simp only [Option.some.injEq] at executed
          subst next
          exact ⟨fun _ => added, fun index _ => pending index (passed index)⟩
  | dhcpv4Start =>
      have added := callback (by simp [atPoint, WaitPoint.Registered])
      simp only [waiterStep, atPoint, Option.some.injEq] at executed
      subst next
      exact ⟨fun _ => added, fun index _ => pending index (by simp [atPoint, WaitPoint.Passed])⟩
  | semTake =>
      have added := callback (by simp [atPoint, WaitPoint.Registered])
      simp only [waiterStep, atPoint] at executed
      split at executed
      · simp only [Option.some.injEq] at executed
        subst next
        refine ⟨fun _ => added, ?_⟩
        simp [WaitPoint.Passed]
      · simp at executed
  | delCallback index =>
      simp only [waiterStep, atPoint, Option.some.injEq] at executed
      subst next
      constructor <;> simp [WaitPoint.Registered, WaitPoint.Passed]
  | returned index => simp [waiterStep, atPoint] at executed

/-- Where no slot of the interface becomes eligible, events in flight keep the invariant. -/
theorem WakeupPending.mono (invariant : WakeupPending config iface system)
    (samePoint : next.point = system.point)
    (sameCallback : next.callbackAdded = system.callbackAdded)
    (pending : ∀ index, system.point.Registered →
      (Eligible config (system.interfaces iface) index →
        0 < system.semCount ∨ (.ipv4AddrAdd, iface) ∈ system.inFlight) →
      Eligible config (next.interfaces iface) index →
      0 < next.semCount ∨ (.ipv4AddrAdd, iface) ∈ next.inFlight) :
    WakeupPending config iface next := by
  constructor
  · rw [samePoint, sameCallback]
    exact invariant.callback
  · rw [samePoint]
    intro index passed
    exact pending index passed.registered (invariant.pending index passed)

theorem WakeupPending.step [DecidableEq Interface] {label : WaitLabel Interface}
    (invariant : WakeupPending config iface system)
    (move : WaitStep config iface system label next) : WakeupPending config iface next := by
  cases move with
  | waiter executed => exact invariant.waiter executed
  | addAddress changed slot addr =>
      refine invariant.mono rfl rfl ?_
      intro index _ pending eligible
      by_cases same : changed = iface
      · subst same
        exact Or.inr List.mem_cons_self
      · simp only [WaitSystem.setInterface, Function.update_of_ne (Ne.symm same)] at eligible
        rcases pending eligible with given | flying
        · exact Or.inl given
        · exact Or.inr (List.mem_cons_of_mem _ flying)
  | alterAddresses changed unicast noneAdded =>
      refine invariant.mono rfl rfl ?_
      intro index _ pending eligible
      apply pending
      by_cases same : changed = iface
      · subst same
        simp only [WaitSystem.setInterface, Function.update_self] at eligible
        exact noneAdded index eligible
      · simpa only [WaitSystem.setInterface, Function.update_of_ne (Ne.symm same)] using eligible
  | raise event =>
      refine invariant.mono rfl rfl ?_
      intro index _ pending eligible
      rcases pending eligible with given | flying
      · exact Or.inl given
      · exact Or.inr (List.mem_cons_of_mem _ flying)
  | deliver event raised =>
      have kept : event ≠ (.ipv4AddrAdd, iface) → (.ipv4AddrAdd, iface) ∈ system.inFlight →
          (.ipv4AddrAdd, iface) ∈ system.inFlight.erase event := by
        intro other flying
        exact (List.mem_erase_of_ne (Ne.symm other)).mpr flying
      dsimp only
      split
      · unfold eventCbHandler
        split
        · refine invariant.mono rfl rfl ?_
          intro index _ _ _
          left
          simp [kSemGive]
        · rename_i other
          refine invariant.mono rfl rfl ?_
          intro index _ pending eligible
          rcases pending eligible with given | flying
          · exact Or.inl given
          · refine Or.inr (kept ?_ flying)
            rintro rfl
            simp at other
      · rename_i notAdded
        refine invariant.mono rfl rfl ?_
        intro index registered
        exact absurd (invariant.callback registered) notAdded

theorem WakeupPending.run [DecidableEq Interface] {first last : WaitSystem Interface}
    {taken : List (Taken (WaitSystem Interface) (WaitLabel Interface))}
    (entering : first.Entering) (run : Run (WaitStep config iface) first taken last) :
    WakeupPending config iface last :=
  run.invariant entering.wakeupPending fun _ _ _ invariant move => invariant.step move

/-! ## The index returned -/

/-- The thread is in `ipv4_address_index`. -/
def WaitPoint.Testing : WaitPoint → Prop
  | .testAddress _ | .scanning _ _ => True
  | _ => False

/-- The index on which the thread leaves its loop. -/
def WaitPoint.chosen : WaitPoint → Option ℤ
  | .tested _ index => if 0 ≤ index then some index else none
  | .delCallback index | .returned index => some index
  | _ => none

/--
The index was eligible when the thread looked at its slot, and the thread has looked
at no slot since.
-/
def EligibleAtLastTest (config : BipConfig) (iface : Interface)
    (taken : List (Taken (WaitSystem Interface) (WaitLabel Interface))) (index : ℤ) : Prop :=
  ∃ earlier test later first slot, taken = earlier ++ test :: later ∧
    test.label = .waiter ∧ test.before.point = .scanning first slot ∧ index = (slot : ℕ) ∧
    Eligible config (test.before.interfaces iface) slot ∧
    ∀ transition ∈ later, transition.label = .waiter → ¬transition.before.point.Testing

theorem EligibleAtLastTest.append {index : ℤ}
    {taken : List (Taken (WaitSystem Interface) (WaitLabel Interface))}
    (tested : EligibleAtLastTest config iface taken index)
    {transition : Taken (WaitSystem Interface) (WaitLabel Interface)}
    (noTest : transition.label = .waiter → ¬transition.before.point.Testing) :
    EligibleAtLastTest config iface (taken ++ [transition]) index := by
  rcases tested with
    ⟨earlier, test, later, first, slot, rfl, waiter, scanning, same, eligible, noTests⟩
  refine ⟨earlier, test, later ++ [transition], first, slot, ?_, waiter, scanning, same,
    eligible, ?_⟩
  · simp
  · simp only [List.forall_mem_append, List.forall_mem_singleton]
    exact ⟨noTests, noTest⟩

/-- The thread chooses an index at its slot, and keeps it. -/
theorem chosen_waiterStep {index : ℤ} (executed : waiterStep config iface system = some next)
    (chosen : next.point.chosen = some index) :
    (∃ first slot, system.point = .scanning first slot ∧ index = (slot : ℕ) ∧
      Eligible config (system.interfaces iface) slot) ∨
    (system.point.chosen = some index ∧ ¬system.point.Testing) := by
  cases atPoint : system.point with
  | scanning first position =>
      left
      simp only [waiterStep, atPoint] at executed
      split at executed
      · simp only [Option.some.injEq] at executed
        subst next
        simp [WaitPoint.chosen] at chosen
      · rename_i addr slot
        split at executed
        · rename_i selected
          simp only [Option.some.injEq] at executed
          subst next
          simp only [WaitPoint.chosen, Int.natCast_nonneg, if_true, Option.some.injEq] at chosen
          exact ⟨first, position, rfl, chosen.symm, (eligible_iff_of_slot slot).mpr selected⟩
        · simp only [Option.some.injEq] at executed
          subst next
          simp [WaitPoint.chosen] at chosen
  | tested first result =>
      right
      simp only [waiterStep, atPoint] at executed
      split at executed
      · rename_i nonneg
        simp only [Option.some.injEq] at executed
        subst next
        simp only [WaitPoint.chosen, Option.some.injEq] at chosen
        subst index
        simp [WaitPoint.chosen, WaitPoint.Testing, nonneg]
      · split at executed
        all_goals
          simp only [Option.some.injEq] at executed
          subst next
          simp [WaitPoint.chosen] at chosen
  | delCallback result =>
      right
      simp only [waiterStep, atPoint, Option.some.injEq] at executed
      subst next
      exact ⟨chosen, by simp [WaitPoint.Testing]⟩
  | testAddress first =>
      simp only [waiterStep, atPoint] at executed
      split at executed
      all_goals
        simp only [Option.some.injEq] at executed
        subst next
        simp [WaitPoint.chosen] at chosen
  | semTake =>
      simp only [waiterStep, atPoint] at executed
      split at executed
      · simp only [Option.some.injEq] at executed
        subst next
        simp [WaitPoint.chosen] at chosen
      · simp at executed
  | returned => simp [waiterStep, atPoint] at executed
  | semInit | addCallback | dhcpv4Start =>
      simp only [waiterStep, atPoint, Option.some.injEq] at executed
      subst next
      simp [WaitPoint.chosen] at chosen

/-- The network stack does not move the thread. -/
theorem WaitStep.point_of_not_waiter [DecidableEq Interface] {label : WaitLabel Interface}
    (move : WaitStep config iface system label next) (notWaiter : label ≠ .waiter) :
    next.point = system.point := by
  cases move with
  | waiter => exact absurd rfl notWaiter
  | addAddress | alterAddresses | raise => rfl
  | deliver event raised =>
      dsimp only
      split
      · unfold eventCbHandler
        split <;> rfl
      · rfl

theorem eligibleAtLastTest_of_chosen [DecidableEq Interface] {first last : WaitSystem Interface}
    {taken : List (Taken (WaitSystem Interface) (WaitLabel Interface))}
    (entering : first.Entering) (run : Run (WaitStep config iface) first taken last) {index : ℤ}
    (chosen : last.point.chosen = some index) : EligibleAtLastTest config iface taken index := by
  induction run generalizing index with
  | start => simp [entering.1, WaitPoint.chosen] at chosen
  | @next taken middle last label run move ih =>
      by_cases isWaiter : label = .waiter
      · subst isWaiter
        cases move with
        | waiter executed =>
            rcases chosen_waiterStep executed chosen with
              ⟨again, slot, scanning, same, eligible⟩ | ⟨before, notTesting⟩
            · exact ⟨taken, _, [], again, slot, rfl, rfl, scanning, same, eligible, by simp⟩
            · exact (ih before).append fun _ => notTesting
      · rw [move.point_of_not_waiter isWaiter] at chosen
        exact (ih chosen).append fun waiter => absurd waiter isWaiter

/--
The thread is never blocked beside an eligible address without an event in flight to its
callback, and it returns an index that was eligible when it was last tested.
-/
theorem waitForIpv4Address_noLostWakeup [DecidableEq Interface] (config : BipConfig)
    (iface : Interface) {first last : WaitSystem Interface}
    {taken : List (Taken (WaitSystem Interface) (WaitLabel Interface))}
    (entering : first.Entering) (run : Run (WaitStep config iface) first taken last) :
    (last.Blocked → last.callbackAdded = true ∧
      ∀ index, Eligible config (last.interfaces iface) index →
        (.ipv4AddrAdd, iface) ∈ last.inFlight) ∧
    ∀ index, last.point = .returned index → EligibleAtLastTest config iface taken index := by
  constructor
  · rintro ⟨atTake, zero⟩
    have invariant := WakeupPending.run entering run
    refine ⟨invariant.callback (by rw [atTake]; trivial), ?_⟩
    intro index eligible
    have passed : last.point.Passed index := by
      rw [atTake]
      trivial
    rcases invariant.pending index passed eligible with given | flying
    · omega
    · exact flying
  · intro index returned
    apply eligibleAtLastTest_of_chosen entering run
    rw [returned]
    rfl

theorem waitForIpv4Address_noLostWakeup_added :
    ∃ last : WaitSystem Unit, last.Blocked ∧
      Eligible ⟨false, none, 1⟩ (last.interfaces ()) 0 ∧ (.ipv4AddrAdd, ()) ∈ last.inFlight := by
  let config : BipConfig := ⟨false, none, 1⟩
  let addr : NetIfAddrIpv4 := ⟨true, .afInet, ⟨192, 0, 2, 1⟩, .manual, ⟨255, 255, 255, 0⟩⟩
  let first : WaitSystem Unit := ⟨.semInit, 0, false, false, fun _ => ⟨none⟩, []⟩
  let blocked : WaitSystem Unit := ⟨.semTake, 0, true, false, fun _ => ⟨none⟩, []⟩
  have asleep : ∃ taken, Run (WaitStep config ()) first taken blocked :=
    ⟨_, ((((Run.start.next (.waiter rfl)).next (.waiter rfl)).next (.waiter rfl)).next
      (.waiter rfl))⟩
  rcases asleep with ⟨taken, run⟩
  have woken := waitForIpv4Address_noLostWakeup config () ⟨rfl, rfl⟩
    (run.next (.addAddress blocked () 0 addr))
  have eligible : Eligible config ((blocked.interfaces ()).addAddr config 0 addr) 0 :=
    ⟨[addr], addr, rfl, rfl, by simp [config], rfl, rfl, by decide, by simp [config]⟩
  exact ⟨_, ⟨rfl, rfl⟩, eligible, (woken.1 ⟨rfl, rfl⟩).2 0 eligible⟩

end BacnetZephyr
