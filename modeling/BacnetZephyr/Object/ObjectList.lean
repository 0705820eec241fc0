import BacnetZephyr.Foundation.Keylist
import BacnetZephyr.Foundation.Transition
import Mathlib.Data.List.Induction
import Mathlib.Logic.Function.Basic

/-!
# Dynamic object lists

The operations that `OBJECT_FUNCTIONS` generates for an object kind, and the
renumbering of network ports. The list holds a descriptor for each instance; the
descriptors come from the heap.

Creating an object leaks the descriptor that the list does not take. Renumbering
trusts the instance number it reads for an index, which is 0 beyond the end, and does
not look for the new number. `objectList_kept_iff` gives the runs without such steps.
-/

namespace BacnetZephyr

open Keylist Transition

/-- What the generated functions know of the descriptors of an object kind. -/
structure ObjectKind (Descr : Type) where
  /-- The descriptor `Init_Description` leaves. -/
  initDescription : UInt32 → Descr
  /-- The assignment to `Instance_Number`. -/
  instanceNumberSet : UInt32 → Descr → Descr

/-- `OS_Keylist` with pointers to descriptors; `none` stands for a null pointer. -/
abbrev OsKeylist := Option (List (UInt32 × ℕ))

/-- The static variable `Object_List`, and the allocated descriptors by address. -/
structure ObjectSystem (Descr : Type) where
  objectList : OsKeylist
  heap : ℕ → Option Descr

section Operations

variable {Descr : Type} (keylist : Search UInt32 ℕ) (kind : ObjectKind Descr)

def ObjectSystem.kFree (address : ℕ) (system : ObjectSystem Descr) : ObjectSystem Descr :=
  { system with heap := Function.update system.heap address none }

/-- `Init`; `created` is the list `Keylist_Create` returns, if it returns one. -/
def objectInit (created : Bool) (system : ObjectSystem Descr) : ObjectSystem Descr :=
  match system.objectList with
  | some _ => system
  | none => { system with objectList := if created then some [] else none }

/-- `Create`, with the result of `k_malloc` and whether `Keylist_Data_Add` finds room. -/
def objectCreate (instanceNumber : UInt32) (malloc : Option ℕ) (room : Bool)
    (system : ObjectSystem Descr) : Bool × ObjectSystem Descr :=
  match data keylist system.objectList instanceNumber with
  | some _ => (false, system)
  | none =>
      match malloc with
      | none => (false, system)
      | some descr =>
          let heap := Function.update system.heap descr (some (kind.initDescription instanceNumber))
          let (index, objectList) := dataAdd keylist room system.objectList instanceNumber descr
          (index.isSome, { objectList, heap })

/-- The loop of `Cleanup`: pop and free until the list is empty. -/
def cleanupLoop (entries : List (UInt32 × ℕ)) (heap : ℕ → Option Descr) : ℕ → Option Descr :=
  match popped : dataPop entries with
  | none => heap
  | some (descr, rest) =>
      have : rest.length < entries.length := by
        simp only [dataPop, Option.map_eq_some_iff, Prod.mk.injEq] at popped
        obtain ⟨entry, last, _, rfl⟩ := popped
        have nonempty := List.ne_nil_of_mem (List.mem_of_getLast? last)
        have := List.length_pos_iff.mpr nonempty
        rw [List.length_dropLast]
        omega
      cleanupLoop rest (Function.update heap descr none)
termination_by entries.length

def objectCleanup (system : ObjectSystem Descr) : ObjectSystem Descr :=
  match system.objectList with
  | none => system
  | some entries => { objectList := none, heap := cleanupLoop entries system.heap }

def objectDelete (instanceNumber : UInt32) (system : ObjectSystem Descr) :
    Bool × ObjectSystem Descr :=
  let (descr, objectList) := dataDelete keylist system.objectList instanceNumber
  let system := { system with objectList }
  match descr with
  | some descr => (true, system.kFree descr)
  | none => (false, system)

/-- `Network_Port_Index_To_Instance`. -/
def objectIndexToInstance (index : ℕ) (system : ObjectSystem Descr) : UInt32 :=
  keyAt 0 system.objectList index

def networkPortObjectInstanceNumberSet (index : ℕ) (objectInstance : UInt32) (room : Bool)
    (system : ObjectSystem Descr) : Bool × ObjectSystem Descr :=
  let oldInst := objectIndexToInstance index system
  let (descr, objectList) := dataDelete keylist system.objectList oldInst
  match descr with
  | none => (false, { system with objectList })
  | some descr =>
      let heap := Function.update system.heap descr
        ((system.heap descr).map (kind.instanceNumberSet objectInstance))
      let (added, objectList) := dataAdd keylist room objectList objectInstance descr
      (added.isSome, { objectList, heap })

end Operations

/-! ## Runs -/

/-- The operations, with the results of the functions they call. -/
inductive ObjectCall where
  | init (created : Bool)
  | create (instanceNumber : UInt32) (malloc : Option ℕ) (room : Bool)
  | delete (instanceNumber : UInt32)
  | cleanup
  | instanceNumberSet (index : ℕ) (objectInstance : UInt32) (room : Bool)
deriving DecidableEq

variable {Descr : Type} (keylist : Search UInt32 ℕ) (kind : ObjectKind Descr)

/-- The result of a call, if it has one, and the state after it. -/
def ObjectCall.outcome (system : ObjectSystem Descr) :
    ObjectCall → Option Bool × ObjectSystem Descr
  | init created => (none, objectInit created system)
  | create instanceNumber malloc room =>
      let (status, system) := objectCreate keylist kind instanceNumber malloc room system
      (some status, system)
  | delete instanceNumber =>
      let (status, system) := objectDelete keylist instanceNumber system
      (some status, system)
  | cleanup => (none, objectCleanup system)
  | instanceNumberSet index objectInstance room =>
      let (status, system) :=
        networkPortObjectInstanceNumberSet keylist kind index objectInstance room system
      (some status, system)

/-- The heap gives out addresses that are not in use. -/
def ObjectCall.Fresh (system : ObjectSystem Descr) : ObjectCall → Prop
  | create _ (some address) _ => system.heap address = none
  | _ => True

def ObjectStep (before : ObjectSystem Descr) (call : ObjectCall) (after : ObjectSystem Descr) :
    Prop :=
  call.Fresh before ∧ after = (call.outcome keylist kind before).2

/-- No list, and nothing allocated. -/
def ObjectSystem.initial (Descr : Type) : ObjectSystem Descr where
  objectList := none
  heap := fun _ => none

def ObjectSystem.instances (system : ObjectSystem Descr) : List UInt32 :=
  (entries system.objectList).map Prod.fst

/-- Every instance is in the list once, and the allocated descriptors are those of the list. -/
structure ObjectsOwned (system : ObjectSystem Descr) : Prop where
  unique : system.instances.Nodup
  owned : ∀ address, (system.heap address).isSome ↔
    address ∈ (entries system.objectList).map Prod.snd

structure ObjectCallKept (taken : Taken (ObjectSystem Descr) ObjectCall) : Prop where
  objects : ObjectsOwned taken.after
  unchanged : (taken.label.outcome keylist kind taken.before).1 = some false →
    taken.after.objectList = taken.before.objectList
  refused : ∀ index objectInstance room,
    taken.label = .instanceNumberSet index objectInstance room →
    taken.before.instances.length ≤ index ∨ objectInstance ∈ taken.before.instances →
    (taken.label.outcome keylist kind taken.before).1 = some false

/--
A descriptor that is allocated finds room in the list. A renumbering names an index of
the list and a new instance there is room for, or there is no instance 0.
-/
def ObjectCallSafe (taken : Taken (ObjectSystem Descr) ObjectCall) : Prop :=
  match taken.label with
  | .create instanceNumber malloc room =>
      instanceNumber ∈ taken.before.instances ∨ malloc = none ∨
        (taken.before.objectList.isSome ∧ room)
  | .instanceNumberSet index objectInstance room =>
      if index < taken.before.instances.length then
        objectInstance ∉ taken.before.instances ∧ room
      else 0 ∉ taken.before.instances
  | .init _ | .delete _ | .cleanup => True

/-! ## What holds between calls -/

/-- Besides the claims of ownership, the list is sorted and holds no descriptor twice. -/
structure ObjectsInvariant (system : ObjectSystem Descr) : Prop extends ObjectsOwned system where
  sorted : Sorted (entries system.objectList)
  distinct : ((entries system.objectList).map Prod.snd).Nodup

variable {keylist kind} {system : ObjectSystem Descr}

theorem ObjectsInvariant.initial (Descr : Type) :
    ObjectsInvariant (ObjectSystem.initial Descr) where
  unique := List.nodup_nil
  owned := by simp [ObjectSystem.initial, entries]
  sorted := List.Pairwise.nil
  distinct := List.nodup_nil

/-- A new entry for a new instance with a descriptor of its own. -/
theorem ObjectsInvariant.add {present added : List (UInt32 × ℕ)} {heap : ℕ → Option Descr}
    {instanceNumber : UInt32} {descr : ℕ}
    (invariant : ObjectsInvariant { objectList := some present, heap })
    (unused : instanceNumber ∉ present.map Prod.fst) (free : heap descr = none)
    (perm : added.Perm ((instanceNumber, descr) :: present)) (sorted : Sorted added)
    (value : Descr) :
    ObjectsInvariant
      { objectList := some added, heap := Function.update heap descr (some value) } := by
  have notListed : descr ∉ present.map Prod.snd := by
    intro mem
    have allocated := (invariant.owned descr).mpr mem
    simp [free] at allocated
  refine { unique := ?_, owned := ?_, sorted, distinct := ?_ }
  · exact (perm.map Prod.fst).nodup_iff.mpr (List.nodup_cons.mpr ⟨unused, invariant.unique⟩)
  · intro address
    have listed : address ∈ added.map Prod.snd ↔ address = descr ∨ address ∈ present.map Prod.snd :=
      (perm.map Prod.snd).mem_iff.trans List.mem_cons
    change (Function.update heap descr (some value) address).isSome ↔ address ∈ added.map Prod.snd
    rw [listed]
    by_cases same : address = descr
    · simp [same]
    · have before := invariant.owned address
      change (heap address).isSome ↔ address ∈ present.map Prod.snd at before
      rw [Function.update_of_ne same, before]
      simp [same]
  · exact (perm.map Prod.snd).nodup_iff.mpr (List.nodup_cons.mpr ⟨notListed, invariant.distinct⟩)

/-- Taking an entry out and freeing its descriptor. -/
theorem ObjectsInvariant.remove {present rest : List (UInt32 × ℕ)} {heap : ℕ → Option Descr}
    {instanceNumber : UInt32} {descr : ℕ}
    (invariant : ObjectsInvariant { objectList := some present, heap })
    (perm : ((instanceNumber, descr) :: rest).Perm present) (sorted : Sorted rest) :
    ObjectsInvariant { objectList := some rest, heap := Function.update heap descr none } ∧
      instanceNumber ∉ rest.map Prod.fst := by
  have keys := (perm.map Prod.fst).nodup_iff.mpr invariant.unique
  have descrs := (perm.map Prod.snd).nodup_iff.mpr invariant.distinct
  rw [List.map_cons, List.nodup_cons] at keys descrs
  refine ⟨{ unique := keys.2, owned := ?_, sorted, distinct := descrs.2 }, keys.1⟩
  intro address
  have listed : address ∈ present.map Prod.snd ↔ address = descr ∨ address ∈ rest.map Prod.snd :=
    (perm.map Prod.snd).mem_iff.symm.trans List.mem_cons
  change (Function.update heap descr none address).isSome ↔ address ∈ rest.map Prod.snd
  by_cases same : address = descr
  · subst same
    simpa using descrs.1
  · rw [Function.update_of_ne same]
    have before := invariant.owned address
    change (heap address).isSome ↔ address ∈ present.map Prod.snd at before
    rw [before, listed]
    simp [same]

theorem mem_of_perm_cons {present rest : List (UInt32 × ℕ)} {entry : UInt32 × ℕ}
    (perm : (entry :: rest).Perm present) : entry ∈ present := perm.mem_iff.mp List.mem_cons_self

/-- Moving an entry to a new instance. -/
theorem ObjectsInvariant.move {present rest moved : List (UInt32 × ℕ)} {heap : ℕ → Option Descr}
    {instanceNumber objectInstance : UInt32} {descr : ℕ}
    (invariant : ObjectsInvariant { objectList := some present, heap })
    (taken : ((instanceNumber, descr) :: rest).Perm present) (restSorted : Sorted rest)
    (unused : objectInstance ∉ present.map Prod.fst)
    (perm : moved.Perm ((objectInstance, descr) :: rest)) (sorted : Sorted moved)
    (renumber : Descr → Descr) :
    ObjectsInvariant
      { objectList := some moved
        heap := Function.update heap descr ((heap descr).map renumber) } := by
  have removed := (invariant.remove taken restSorted).1
  have restUnused : objectInstance ∉ rest.map Prod.fst := by
    intro restMem
    apply unused
    exact (taken.map Prod.fst).mem_iff.mp (List.mem_cons_of_mem _ restMem)
  have allocated : (heap descr).isSome :=
    (invariant.owned descr).mpr (List.mem_map_of_mem (mem_of_perm_cons taken))
  rcases Option.isSome_iff_exists.mp allocated with ⟨value, held⟩
  have added := removed.add restUnused (Function.update_self descr none heap) perm sorted
    (renumber value)
  rw [Function.update_idem] at added
  simpa only [held, Option.map_some] using added

/-! ## One call -/

theorem objectInit_invariant (invariant : ObjectsInvariant system) (created : Bool) :
    ObjectsInvariant (objectInit created system) := by
  rcases system with ⟨list, heap⟩
  cases list with
  | some present => exact invariant
  | none =>
      have same : entries (if created then some [] else none : OsKeylist) = [] := by
        cases created <;> rfl
      have owned := invariant.owned
      simp only [objectInit]
      exact
        { unique := by simp [ObjectSystem.instances, same]
          owned := by rw [same]; exact owned
          sorted := by rw [same]; exact List.Pairwise.nil
          distinct := by simp [same] }

theorem objectDelete_spec (invariant : ObjectsInvariant system) (instanceNumber : UInt32) :
    ObjectsInvariant (objectDelete keylist instanceNumber system).2 ∧
      ((objectDelete keylist instanceNumber system).1 = false →
        (objectDelete keylist instanceNumber system).2.objectList = system.objectList) := by
  have spec := dataDelete_spec keylist invariant.sorted instanceNumber
  rcases system with ⟨list, heap⟩
  simp only [objectDelete]
  generalize dataDelete keylist list instanceNumber = result at spec
  cases spec with
  | absent => exact ⟨invariant, fun _ => rfl⟩
  | @taken descr rest perm sorted =>
      cases list with
      | none => exact absurd perm.length_eq (by simp [entries])
      | some present => exact ⟨(invariant.remove perm sorted).1, by simp⟩

theorem cleanupLoop_concat (rest : List (UInt32 × ℕ)) (entry : UInt32 × ℕ)
    (heap : ℕ → Option Descr) :
    cleanupLoop (rest ++ [entry]) heap = cleanupLoop rest (Function.update heap entry.2 none) := by
  have last : dataPop (rest ++ [entry]) = some (entry.2, rest) := by simp [dataPop]
  rw [cleanupLoop]
  split
  · rename_i popped
    rw [last] at popped
    cases popped
  · rename_i popped
    rw [last] at popped
    cases popped
    rfl

theorem cleanupLoop_heap (present : List (UInt32 × ℕ)) (heap : ℕ → Option Descr) (address : ℕ) :
    cleanupLoop present heap address =
      if address ∈ present.map Prod.snd then none else heap address := by
  induction present using List.reverseRecOn generalizing heap with
  | nil => simp [cleanupLoop, dataPop]
  | append_singleton rest entry ih =>
      rw [cleanupLoop_concat, ih]
      by_cases same : address = entry.2
      · simp [same]
      · simp only [Function.update_of_ne same, List.map_append, List.mem_append, List.map_cons,
          List.map_nil, List.mem_singleton, same, or_false]

theorem objectCleanup_invariant (invariant : ObjectsInvariant system) :
    ObjectsInvariant (objectCleanup system) := by
  rcases system with ⟨list, heap⟩
  cases list with
  | none => exact invariant
  | some present =>
      refine { unique := List.nodup_nil, owned := ?_, sorted := List.Pairwise.nil
               distinct := List.nodup_nil }
      intro address
      simp only [objectCleanup, cleanupLoop_heap, entries, Option.getD_none, List.map_nil,
        List.not_mem_nil, iff_false]
      split
      · simp
      · rename_i notListed
        exact mt (invariant.owned address).mp notListed

/-- What creating an object does. -/
inductive Created (keylist : Search UInt32 ℕ) (kind : ObjectKind Descr) (instanceNumber : UInt32)
    (malloc : Option ℕ) (room : Bool) (system : ObjectSystem Descr) :
    Bool × ObjectSystem Descr → Prop where
  | none (without : instanceNumber ∈ system.instances ∨ malloc = none) :
      Created keylist kind instanceNumber malloc room system (false, system)
  | leaked {descr : ℕ} (unused : instanceNumber ∉ system.instances) (gave : malloc = some descr)
      (full : ¬(system.objectList.isSome ∧ room)) :
      Created keylist kind instanceNumber malloc room system
        (false, { system with
          heap := Function.update system.heap descr (some (kind.initDescription instanceNumber)) })
  | added {descr : ℕ} {present added : List (UInt32 × ℕ)}
      (unused : instanceNumber ∉ system.instances) (gave : malloc = some descr)
      (list : system.objectList = some present) (roomy : room = true)
      (perm : added.Perm ((instanceNumber, descr) :: present)) (sorted : Sorted added) :
      Created keylist kind instanceNumber malloc room system
        (true,
          { objectList := some added
            heap := Function.update system.heap descr
              (some (kind.initDescription instanceNumber)) })

theorem objectCreate_spec (invariant : ObjectsInvariant system) (instanceNumber : UInt32)
    (malloc : Option ℕ) (room : Bool) :
    Created keylist kind instanceNumber malloc room system
      (objectCreate keylist kind instanceNumber malloc room system) := by
  have absent := data_eq_none_iff keylist invariant.sorted instanceNumber
  rcases system with ⟨list, heap⟩
  simp only [objectCreate]
  cases found : data keylist list instanceNumber with
  | some descr =>
      rw [found] at absent
      have present : instanceNumber ∈ (entries list).map Prod.fst := by simpa using absent
      exact .none (Or.inl present)
  | none =>
      have unused := absent.mp found
      cases malloc with
      | none => exact .none (Or.inr rfl)
      | some descr =>
          cases list with
          | none => exact .leaked unused rfl (by simp)
          | some present =>
              cases room with
              | false => exact .leaked unused rfl (by simp)
              | true =>
                  have before : Sorted present := invariant.sorted
                  obtain ⟨index, added, same, perm, sorted⟩ :=
                    dataAdd_spec keylist before instanceNumber descr
                  simp only [same]
                  exact .added unused rfl rfl rfl perm sorted

/-- What renumbering a network port does. -/
inductive Renumbered (kind : ObjectKind Descr) (oldInst objectInstance : UInt32) (room : Bool)
    (system : ObjectSystem Descr) : Bool × ObjectSystem Descr → Prop where
  | none (absent : oldInst ∉ system.instances) :
      Renumbered kind oldInst objectInstance room system (false, system)
  | lost {descr : ℕ} {present rest : List (UInt32 × ℕ)} {heap : ℕ → Option Descr}
      (list : system.objectList = some present)
      (taken : ((oldInst, descr) :: rest).Perm present) (full : room = false) :
      Renumbered kind oldInst objectInstance room system
        (false, { objectList := some rest, heap })
  | moved {descr : ℕ} {present rest added : List (UInt32 × ℕ)}
      (list : system.objectList = some present)
      (taken : ((oldInst, descr) :: rest).Perm present) (restSorted : Sorted rest)
      (roomy : room = true) (perm : added.Perm ((objectInstance, descr) :: rest))
      (sorted : Sorted added) :
      Renumbered kind oldInst objectInstance room system
        (true,
          { objectList := some added
            heap := Function.update system.heap descr
              ((system.heap descr).map (kind.instanceNumberSet objectInstance)) })

theorem networkPortObjectInstanceNumberSet_spec (invariant : ObjectsInvariant system) (index : ℕ)
    (objectInstance : UInt32) (room : Bool) :
    Renumbered kind (objectIndexToInstance index system) objectInstance room system
      (networkPortObjectInstanceNumberSet keylist kind index objectInstance room system) := by
  have spec := dataDelete_spec keylist invariant.sorted
    (objectIndexToInstance index system)
  rcases system with ⟨list, heap⟩
  simp only [networkPortObjectInstanceNumberSet]
  generalize objectIndexToInstance index { objectList := list, heap } = oldInst at spec
  generalize dataDelete keylist list oldInst = result at spec
  cases spec with
  | absent notMem => exact .none notMem
  | @taken descr rest perm sorted =>
      cases list with
      | none => exact absurd perm.length_eq (by simp [entries])
      | some present =>
          cases room with
          | false => exact .lost rfl perm rfl
          | true =>
              obtain ⟨index, added, same, addedPerm, addedSorted⟩ :=
                dataAdd_spec keylist sorted objectInstance descr
              simp only [same]
              exact .moved rfl perm sorted rfl addedPerm addedSorted

/-! ## Runs keep the list -/

/-- A call without a result to refuse is kept as soon as the objects are. -/
theorem objectCallKept_of_owned {before after : ObjectSystem Descr} {call : ObjectCall}
    (objects : ObjectsOwned after)
    (unchanged : (call.outcome keylist kind before).1 = some false →
      after.objectList = before.objectList)
    (other : ∀ index objectInstance room, call ≠ .instanceNumberSet index objectInstance room) :
    ObjectCallKept keylist kind ⟨before, call, after⟩ where
  objects := objects
  unchanged := unchanged
  refused := fun index objectInstance room same => absurd same (other index objectInstance room)

theorem objectCreate_callKept_iff {instanceNumber : UInt32} {malloc : Option ℕ} {room : Bool}
    {result : Bool × ObjectSystem Descr}
    (call : objectCreate keylist kind instanceNumber malloc room system = result) :
    ObjectCallKept keylist kind ⟨system, .create instanceNumber malloc room, result.2⟩ ↔
      ObjectsOwned result.2 ∧
        (result.1 = false → result.2.objectList = system.objectList) := by
  subst call
  constructor
  · intro kept
    exact ⟨kept.objects, fun failed => kept.unchanged (congrArg some failed)⟩
  · rintro ⟨objects, unchanged⟩
    apply objectCallKept_of_owned objects
    · intro failed
      exact unchanged (Option.some.inj failed)
    · simp

theorem objectCreate_kept_iff {instanceNumber : UInt32} {malloc : Option ℕ} {room : Bool}
    (invariant : ObjectsInvariant system)
    (fresh : (ObjectCall.create instanceNumber malloc room).Fresh system) :
    let after := (objectCreate keylist kind instanceNumber malloc room system).2
    let taken : Taken (ObjectSystem Descr) ObjectCall :=
      ⟨system, .create instanceNumber malloc room, after⟩
    (ObjectCallKept keylist kind taken ↔ ObjectCallSafe taken) ∧
      (ObjectCallKept keylist kind taken → ObjectsInvariant after) := by
  intro after taken
  have created : Created keylist kind instanceNumber malloc room system
      (objectCreate keylist kind instanceNumber malloc room system) :=
    objectCreate_spec invariant instanceNumber malloc room
  rw [objectCreate_callKept_iff rfl]
  simp only [taken, after, ObjectCallSafe]
  generalize objectCreate keylist kind instanceNumber malloc room system = result at created
  cases created with
  | none without =>
      refine ⟨⟨fun _ => ?_, fun _ => ⟨invariant.toObjectsOwned, fun _ => rfl⟩⟩, fun _ => invariant⟩
      exact without.imp_right Or.inl
  | @leaked descr unused gave full =>
      subst gave
      have notOwned : ¬ObjectsOwned { system with
          heap := Function.update system.heap descr
            (some (kind.initDescription instanceNumber)) } := by
        intro owned
        have listed := (owned.owned descr).mp (by simp)
        have allocated := (invariant.owned descr).mpr listed
        have free : system.heap descr = none := fresh
        simp [free] at allocated
      refine ⟨⟨fun kept => absurd kept.1 notOwned, ?_⟩, fun kept => absurd kept.1 notOwned⟩
      rintro (present | missing | room)
      · exact absurd present unused
      · cases missing
      · exact absurd room full
  | @added descr present added unused gave list roomy perm sorted =>
      subst gave
      rcases system with ⟨objectList, heap⟩
      change objectList = some present at list
      subst list
      have after := invariant.add unused fresh perm sorted (kind.initDescription instanceNumber)
      refine ⟨⟨fun _ => Or.inr (Or.inr ⟨rfl, roomy⟩), fun _ => ⟨after.toObjectsOwned, by simp⟩⟩,
        fun _ => after⟩

theorem objectIndexToInstance_mem {index : ℕ} (inside : index < system.instances.length) :
    objectIndexToInstance index system ∈ system.instances := by
  have inside' : index < (entries system.objectList).length := by
    simpa [ObjectSystem.instances] using inside
  simp only [objectIndexToInstance, keyAt, List.getElem?_eq_getElem inside', Option.map_some,
    Option.getD_some]
  exact List.mem_map_of_mem (List.getElem_mem inside')

theorem objectIndexToInstance_beyond {index : ℕ} (beyond : ¬index < system.instances.length) :
    objectIndexToInstance index system = 0 := by
  have beyond' : (entries system.objectList).length ≤ index := by
    simpa [ObjectSystem.instances] using beyond
  simp [objectIndexToInstance, keyAt, List.getElem?_eq_none beyond']

theorem instanceNumberSet_callKept_iff {index : ℕ} {objectInstance : UInt32} {room : Bool}
    {result : Bool × ObjectSystem Descr}
    (call : networkPortObjectInstanceNumberSet keylist kind index objectInstance room system =
      result) :
    ObjectCallKept keylist kind
        ⟨system, .instanceNumberSet index objectInstance room, result.2⟩ ↔
      ObjectsOwned result.2 ∧
        (result.1 = false → result.2.objectList = system.objectList) ∧
        (system.instances.length ≤ index ∨ objectInstance ∈ system.instances →
          result.1 = false) := by
  subst call
  constructor
  · intro kept
    refine ⟨kept.objects, fun failed => kept.unchanged (congrArg some failed), ?_⟩
    intro improper
    exact Option.some.inj (kept.refused index objectInstance room rfl improper)
  · rintro ⟨objects, unchanged, refused⟩
    refine ⟨objects, fun failed => unchanged (Option.some.inj failed), ?_⟩
    rintro _ _ _ same improper
    cases same
    exact congrArg some (refused improper)

/-- A safe renumbering that finds an entry has an index of the list, a new instance and room. -/
theorem instanceNumberSet_safe_iff {index : ℕ} {objectInstance : UInt32} {room : Bool}
    {after : ObjectSystem Descr}
    (listed : objectIndexToInstance index system ∈ system.instances) :
    ObjectCallSafe ⟨system, .instanceNumberSet index objectInstance room, after⟩ ↔
      index < system.instances.length ∧ objectInstance ∉ system.instances ∧ room := by
  simp only [ObjectCallSafe]
  by_cases inside : index < system.instances.length
  · rw [if_pos inside]
    exact (and_iff_right inside).symm
  · rw [objectIndexToInstance_beyond inside] at listed
    rw [if_neg inside]
    exact iff_of_false (not_not_intro listed) fun safe => inside safe.1

theorem instanceNumberSet_kept_iff {index : ℕ} {objectInstance : UInt32} {room : Bool}
    (invariant : ObjectsInvariant system) :
    let after :=
      (networkPortObjectInstanceNumberSet keylist kind index objectInstance room system).2
    let taken : Taken (ObjectSystem Descr) ObjectCall :=
      ⟨system, .instanceNumberSet index objectInstance room, after⟩
    (ObjectCallKept keylist kind taken ↔ ObjectCallSafe taken) ∧
      (ObjectCallKept keylist kind taken → ObjectsInvariant after) := by
  intro after taken
  have renumbered : Renumbered kind (objectIndexToInstance index system) objectInstance room system
      (networkPortObjectInstanceNumberSet keylist kind index objectInstance room system) :=
    networkPortObjectInstanceNumberSet_spec invariant index objectInstance room
  rw [instanceNumberSet_callKept_iff rfl]
  simp only [taken, after]
  generalize networkPortObjectInstanceNumberSet keylist kind index objectInstance room system =
    result at renumbered
  cases renumbered with
  | none absent =>
      refine ⟨⟨fun _ => ?_, fun _ => ⟨invariant.toObjectsOwned, fun _ => rfl, fun _ => rfl⟩⟩,
        fun _ => invariant⟩
      simp only [ObjectCallSafe]
      by_cases inside : index < system.instances.length
      · exact absurd (objectIndexToInstance_mem inside) absent
      · rw [if_neg inside, ← objectIndexToInstance_beyond inside]
        exact absent
  | @lost descr present rest heap list taken full =>
      have listed : objectIndexToInstance index system ∈ system.instances := by
        rw [ObjectSystem.instances, list]
        exact List.mem_map_of_mem (mem_of_perm_cons taken)
      have notKept : (some rest : OsKeylist) ≠ system.objectList := by
        have shorter := taken.length_eq
        rw [list]
        rintro same
        cases same
        simp at shorter
      rw [instanceNumberSet_safe_iff listed]
      refine ⟨⟨fun kept => absurd (kept.2.1 rfl) notKept, ?_⟩,
        fun kept => absurd (kept.2.1 rfl) notKept⟩
      rintro ⟨_, _, roomy⟩
      rw [full] at roomy
      cases roomy
  | @moved descr present rest added list taken restSorted roomy perm sorted =>
      rcases system with ⟨objectList, heap⟩
      change objectList = some present at list
      subst list
      have listed : objectIndexToInstance index { objectList := some present, heap } ∈
          present.map Prod.fst := List.mem_map_of_mem (mem_of_perm_cons taken)
      have keptOf := fun unused =>
        @ObjectsInvariant.move _ _ _ _ _ _ objectInstance _ invariant taken restSorted unused perm
          sorted (kind.instanceNumberSet objectInstance)
      rw [instanceNumberSet_safe_iff listed]
      refine ⟨⟨?_, ?_⟩, ?_⟩
      · rintro ⟨_, _, refused⟩
        have proper := mt refused (Bool.true_eq_false ▸ not_false)
        rw [not_or, Nat.not_le] at proper
        exact ⟨proper.1, proper.2, roomy⟩
      · rintro ⟨inside, unused, _⟩
        refine ⟨(keptOf unused).toObjectsOwned, ?_, ?_⟩
        · simp
        rintro (beyond | used)
        · exact absurd inside (Nat.not_lt.mpr beyond)
        · exact absurd used unused
      · rintro ⟨_, _, refused⟩
        exact keptOf fun used => by cases refused (Or.inr used)

/-- A call keeps the objects exactly when it is safe, and then what holds between calls. -/
theorem objectCallKept_iff {after : ObjectSystem Descr} {call : ObjectCall}
    (invariant : ObjectsInvariant system) (step : ObjectStep keylist kind system call after) :
    (ObjectCallKept keylist kind ⟨system, call, after⟩ ↔ ObjectCallSafe ⟨system, call, after⟩) ∧
      (ObjectCallKept keylist kind ⟨system, call, after⟩ → ObjectsInvariant after) := by
  rcases step with ⟨fresh, rfl⟩
  cases call with
  | init created =>
      have kept := objectInit_invariant invariant created
      refine ⟨iff_of_true (objectCallKept_of_owned kept.toObjectsOwned ?_ ?_) trivial,
        fun _ => kept⟩
      · simp [ObjectCall.outcome]
      · simp
  | create instanceNumber malloc room => exact objectCreate_kept_iff invariant fresh
  | delete instanceNumber =>
      have spec := @objectDelete_spec _ keylist _ invariant instanceNumber
      refine ⟨iff_of_true (objectCallKept_of_owned spec.1.toObjectsOwned ?_ ?_) trivial,
        fun _ => spec.1⟩
      · intro failed
        exact spec.2 (Option.some.inj failed)
      · simp
  | cleanup =>
      have kept := objectCleanup_invariant invariant
      refine ⟨iff_of_true (objectCallKept_of_owned kept.toObjectsOwned ?_ ?_) trivial,
        fun _ => kept⟩
      · simp [ObjectCall.outcome]
      · simp
  | instanceNumberSet index objectInstance room => exact instanceNumberSet_kept_iff invariant

/-- In a run from no list every call keeps the objects exactly when every call is safe. -/
theorem objectList_kept_iff {last : ObjectSystem Descr}
    {taken : List (Taken (ObjectSystem Descr) ObjectCall)}
    (run : Run (ObjectStep keylist kind) (ObjectSystem.initial Descr) taken last) :
    (∀ call ∈ taken, ObjectCallKept keylist kind call) ↔ ∀ call ∈ taken, ObjectCallSafe call := by
  apply run.forall_iff (ObjectsInvariant.initial Descr)
  · intro before call after invariant step kept
    exact (objectCallKept_iff invariant step).2 kept
  · intro before call after invariant step
    exact (objectCallKept_iff invariant step).1

section Examples

/-- A kind whose descriptors hold nothing but the instance number. -/
def numberedKind : ObjectKind UInt32 where
  initDescription := id
  instanceNumberSet := fun objectInstance _ => objectInstance

/-- The transitions of calls that are made one after the other. -/
def takenFrom (keylist : Search UInt32 ℕ) (kind : ObjectKind Descr) (system : ObjectSystem Descr) :
    List ObjectCall → List (Taken (ObjectSystem Descr) ObjectCall)
  | [] => []
  | call :: calls =>
      let after := (call.outcome keylist kind system).2
      ⟨system, call, after⟩ :: takenFrom keylist kind after calls

theorem exists_run_takenFrom {calls : List ObjectCall}
    (fresh : ∀ transition ∈ takenFrom keylist kind system calls,
      transition.label.Fresh transition.before) :
    ∃ last, Run (ObjectStep keylist kind) system (takenFrom keylist kind system calls) last := by
  induction calls generalizing system with
  | nil => exact ⟨system, .start⟩
  | cons call calls ih =>
      rw [takenFrom, List.forall_mem_cons] at fresh
      rcases ih fresh.2 with ⟨last, later⟩
      have first : ObjectStep keylist kind system call (call.outcome keylist kind system).2 :=
        ⟨fresh.1, rfl⟩
      exact ⟨last, later.cons first⟩

/--
Two ports are created; a third finds its number taken, a fourth no memory. One is
renumbered, one is deleted, an index beyond the list is refused, and all are cleaned up.
-/
theorem objectList_kept_iff_created :
    let taken := takenFrom Search.linear numberedKind (ObjectSystem.initial UInt32)
      [.init true, .create 5 (some 1) true, .create 3 (some 2) true, .create 5 (some 4) true,
        .create 9 none true, .instanceNumberSet 1 7 true, .delete 3,
        .instanceNumberSet 4 8 true, .cleanup, .delete 7]
    taken.map (fun transition =>
        (transition.label.outcome Search.linear numberedKind transition.before).1) =
      [none, some true, some true, some false, some false, some true, some true, some false, none,
        some false] ∧
    taken.map (fun transition => transition.before.instances) =
      [[], [], [5], [3, 5], [3, 5], [3, 5], [3, 7], [7], [7], []] ∧
    ∀ call ∈ taken, ObjectCallKept Search.linear numberedKind call := by
  intro taken
  have fresh : ∀ transition ∈ taken, transition.label.Fresh transition.before := by
    simp only [taken, takenFrom, List.forall_mem_cons]
    exact ⟨trivial, rfl, rfl, rfl, trivial, trivial, trivial, trivial, trivial, trivial,
      List.forall_mem_nil _⟩
  have safe : ∀ call ∈ taken, ObjectCallSafe call := by
    simp only [taken, takenFrom, List.forall_mem_cons]
    have listed : (5 : UInt32) ∈ [3, 5] := by decide
    have renumbered : (7 : UInt32) ∉ [3, 5] ∧ true = true := by decide
    have noZero : (0 : UInt32) ∉ [7] := by decide
    exact ⟨trivial, .inr (.inr ⟨rfl, rfl⟩), .inr (.inr ⟨rfl, rfl⟩), .inl listed,
      .inr (.inl rfl), renumbered, trivial, noZero, trivial, trivial, List.forall_mem_nil _⟩
  rcases exists_run_takenFrom fresh with ⟨last, run⟩
  exact ⟨rfl, rfl, (objectList_kept_iff run).mpr safe⟩

/-- Creating an object before the list leaks its descriptor. -/
theorem not_objectList_kept :
    let system := ObjectSystem.initial UInt32
    let leaked := { system with heap := Function.update system.heap 1 (some 5) }
    let taken : List (Taken (ObjectSystem UInt32) ObjectCall) :=
      [⟨system, .create 5 (some 1) true, leaked⟩]
    Run (ObjectStep Search.linear numberedKind) system taken leaked ∧
      ¬∀ call ∈ taken, ObjectCallKept Search.linear numberedKind call := by
  refine ⟨.next .start ⟨rfl, rfl⟩, ?_⟩
  intro kept
  have owned := (kept _ List.mem_cons_self).objects.owned 1
  simp [ObjectSystem.initial, entries] at owned

end Examples

end BacnetZephyr
