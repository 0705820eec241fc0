import BacnetZephyr.Object.ObjectList
import Mathlib.Data.List.Nodup

/-!
# Object lists as maps of instances

An object kind keeps a descriptor for each of its instances, and the instances can be
counted and visited by an index. `ObjectMap` says no more than this: it has no key list,
no addresses and no heap. The lists of `Object/ObjectList.lean` refine it.

`objectRun_refines` carries this to whole runs: every run whose calls are safe is one of
the maps, with the same results, and afterwards the lookups of the list agree with the map.
-/

namespace BacnetZephyr

open Keylist Transition

variable {Descr : Type}

/-! ## Looking at the list -/

section Lookups

variable (keylist : Search UInt32 ℕ)

/-- `Find_Description`: the address of the descriptor. -/
def objectFindDescription (instanceNumber : UInt32) (system : ObjectSystem Descr) : Option ℕ :=
  data keylist system.objectList instanceNumber

/-- `Count`. -/
def objectCount (system : ObjectSystem Descr) : ℕ := (entries system.objectList).length

/-- What `(unsigned)Keylist_Index` gives for an instance that is not in the list. -/
def noIndex : ℕ := 4294967295

/-- `Instance_To_Index`. -/
def objectInstanceToIndex (instanceNumber : UInt32) (system : ObjectSystem Descr) : ℕ :=
  (keylist.findIndex (entries system.objectList) instanceNumber).getD noIndex

end Lookups

/-! ## The abstract objects -/

/-- The objects of a kind by instance number, once the kind has been initialized. -/
structure ObjectMap (Descr : Type) where
  initialized : Bool
  objects : UInt32 → Option Descr

def ObjectMap.initial (Descr : Type) : ObjectMap Descr where
  initialized := false
  objects := fun _ => none

/-- The instances there are, in ascending order. -/
structure Enumerates (map : ObjectMap Descr) (instances : List UInt32) : Prop where
  ascending : instances.Pairwise (· < ·)
  mem_iff : ∀ instanceNumber, instanceNumber ∈ instances ↔ (map.objects instanceNumber).isSome

/-- What a call with its result does to the objects. -/
inductive ObjectMapStep (kind : ObjectKind Descr) :
    ObjectMap Descr → ObjectCall × Option Bool → ObjectMap Descr → Prop where
  | init {map : ObjectMap Descr} {created : Bool} :
      ObjectMapStep kind map (.init created, none)
        { map with initialized := map.initialized || created }
  /-- There is such an object already, or no memory for it. -/
  | notCreated {map : ObjectMap Descr} {instanceNumber : UInt32} {malloc : Option ℕ} {room : Bool}
      (refused : (map.objects instanceNumber).isSome ∨ malloc = none) :
      ObjectMapStep kind map (.create instanceNumber malloc room, some false) map
  | created {map : ObjectMap Descr} {instanceNumber : UInt32} {malloc : Option ℕ} {room : Bool}
      (unused : map.objects instanceNumber = none) (memory : malloc.isSome) (roomy : room = true)
      (initialized : map.initialized = true) :
      ObjectMapStep kind map (.create instanceNumber malloc room, some true)
        { map with
          objects := Function.update map.objects instanceNumber
            (some (kind.initDescription instanceNumber)) }
  | delete {map : ObjectMap Descr} {instanceNumber : UInt32} {existed : Bool}
      (was : (map.objects instanceNumber).isSome = existed) :
      ObjectMapStep kind map (.delete instanceNumber, some existed)
        { map with objects := Function.update map.objects instanceNumber none }
  | cleanup {map : ObjectMap Descr} :
      ObjectMapStep kind map (.cleanup, none) (.initial Descr)
  /-- There is no object at the index. -/
  | notRenumbered {map : ObjectMap Descr} {instances : List UInt32} {index : ℕ}
      {objectInstance : UInt32} {room : Bool} (enumerates : Enumerates map instances)
      (beyond : instances.length ≤ index) :
      ObjectMapStep kind map (.instanceNumberSet index objectInstance room, some false) map
  /-- The object at the index gets an instance number that is not in use. -/
  | renumbered {map : ObjectMap Descr} {instances : List UInt32} {index : ℕ}
      {oldInst objectInstance : UInt32} {room : Bool} {descr : Descr}
      (enumerates : Enumerates map instances) (listed : instances[index]? = some oldInst)
      (holds : map.objects oldInst = some descr) (unused : map.objects objectInstance = none)
      (roomy : room = true) :
      ObjectMapStep kind map (.instanceNumberSet index objectInstance room, some true)
        { map with
          objects := Function.update (Function.update map.objects oldInst none) objectInstance
            (some (kind.instanceNumberSet objectInstance descr)) }

/-! ## The list represents the map -/

structure RepresentsObjects (system : ObjectSystem Descr) (map : ObjectMap Descr) : Prop where
  initialized : map.initialized = system.objectList.isSome
  objects : ∀ instanceNumber descr, map.objects instanceNumber = some descr ↔
    ∃ address, (instanceNumber, address) ∈ entries system.objectList ∧
      system.heap address = some descr

section RepresentsObjects

variable {system : ObjectSystem Descr} {map : ObjectMap Descr}

theorem RepresentsObjects.initial (Descr : Type) :
    RepresentsObjects (ObjectSystem.initial Descr) (ObjectMap.initial Descr) where
  initialized := rfl
  objects := by simp [ObjectMap.initial, ObjectSystem.initial, entries]

/-- Every entry of the list has a descriptor. -/
theorem ObjectsInvariant.holds (invariant : ObjectsInvariant system) {instanceNumber : UInt32}
    {address : ℕ} (mem : (instanceNumber, address) ∈ entries system.objectList) :
    ∃ descr, system.heap address = some descr := by
  apply Option.isSome_iff_exists.mp
  apply (invariant.owned address).mpr
  exact List.mem_map_of_mem mem

theorem RepresentsObjects.isSome_iff (represents : RepresentsObjects system map)
    (invariant : ObjectsInvariant system) (instanceNumber : UInt32) :
    (map.objects instanceNumber).isSome ↔ instanceNumber ∈ system.instances := by
  rw [Option.isSome_iff_exists, ObjectSystem.instances, List.mem_map]
  constructor
  · rintro ⟨descr, holds⟩
    rcases (represents.objects _ _).mp holds with ⟨address, mem, _⟩
    exact ⟨_, mem, rfl⟩
  · rintro ⟨⟨_, address⟩, mem, rfl⟩
    rcases invariant.holds mem with ⟨descr, held⟩
    exact ⟨descr, (represents.objects _ _).mpr ⟨address, mem, held⟩⟩

theorem RepresentsObjects.eq_none_iff (represents : RepresentsObjects system map)
    (invariant : ObjectsInvariant system) (instanceNumber : UInt32) :
    map.objects instanceNumber = none ↔ instanceNumber ∉ system.instances := by
  rw [← represents.isSome_iff invariant, Option.not_isSome_iff_eq_none]

/-- The list enumerates the objects. -/
theorem RepresentsObjects.enumerates (represents : RepresentsObjects system map)
    (invariant : ObjectsInvariant system) : Enumerates map system.instances where
  ascending := by
    have sorted : system.instances.Pairwise (· ≤ ·) := List.pairwise_map.mpr invariant.sorted
    apply (sorted.and invariant.unique).imp
    rintro left right ⟨below, different⟩
    exact UInt32.lt_of_le_of_ne below different
  mem_iff instanceNumber := (represents.isSome_iff invariant instanceNumber).symm

end RepresentsObjects

/-! ## One call -/

section Calls

variable {keylist : Search UInt32 ℕ} {kind : ObjectKind Descr} {system : ObjectSystem Descr}
  {map : ObjectMap Descr}

/-- An entry for a new instance, with a new descriptor. -/
theorem RepresentsObjects.add {present added : List (UInt32 × ℕ)} {heap : ℕ → Option Descr}
    (represents : RepresentsObjects { objectList := some present, heap } map)
    (invariant : ObjectsInvariant { objectList := some present, heap })
    {instanceNumber : UInt32} {address : ℕ} (unused : instanceNumber ∉ present.map Prod.fst)
    (free : heap address = none) (perm : added.Perm ((instanceNumber, address) :: present))
    (descr : Descr) :
    RepresentsObjects
      { objectList := some added, heap := Function.update heap address (some descr) }
      { map with objects := Function.update map.objects instanceNumber (some descr) } where
  initialized := represents.initialized
  objects := by
    intro other value
    have listed : ∀ place, (other, place) ∈ added ↔
        (other, place) = (instanceNumber, address) ∨ (other, place) ∈ present :=
      fun place => perm.mem_iff.trans List.mem_cons
    simp only [entries, Option.getD_some, listed]
    by_cases same : other = instanceNumber
    · subst same
      have absent : ∀ place, (other, place) ∉ present := by
        intro place mem
        exact unused (List.mem_map_of_mem mem)
      simp [absent]
    · rw [Function.update_of_ne same, represents.objects other value]
      apply exists_congr
      intro place
      simp only [entries, Option.getD_some, Prod.mk.injEq, same, false_and, false_or]
      apply and_congr_right
      intro mem
      have apart : place ≠ address := by
        rintro rfl
        rcases invariant.holds mem with ⟨held, holds⟩
        exact absurd (free.symm.trans holds) (by simp)
      rw [Function.update_of_ne apart]

/-- Taking an entry out and freeing its descriptor. -/
theorem RepresentsObjects.remove {present rest : List (UInt32 × ℕ)} {heap : ℕ → Option Descr}
    (represents : RepresentsObjects { objectList := some present, heap } map)
    (invariant : ObjectsInvariant { objectList := some present, heap })
    {instanceNumber : UInt32} {address : ℕ}
    (perm : ((instanceNumber, address) :: rest).Perm present) :
    RepresentsObjects { objectList := some rest, heap := Function.update heap address none }
      { map with objects := Function.update map.objects instanceNumber none } where
  initialized := represents.initialized
  objects := by
    intro other value
    have keys := (perm.map Prod.fst).nodup_iff.mpr invariant.unique
    have addresses := (perm.map Prod.snd).nodup_iff.mpr invariant.distinct
    rw [List.map_cons, List.nodup_cons] at keys addresses
    simp only [entries, Option.getD_some]
    by_cases same : other = instanceNumber
    · subst same
      have absent : ∀ place, (other, place) ∉ rest := by
        intro place mem
        exact keys.1 (List.mem_map.mpr ⟨_, mem, rfl⟩)
      simp [absent]
    · rw [Function.update_of_ne same, represents.objects other value]
      apply exists_congr
      intro place
      have listed : (other, place) ∈ present ↔ (other, place) ∈ rest := by
        rw [← perm.mem_iff, List.mem_cons, Prod.mk.injEq]
        simp [same]
      simp only [entries, Option.getD_some, listed]
      apply and_congr_right
      intro mem
      have apart : place ≠ address := by
        rintro rfl
        exact addresses.1 (List.mem_map.mpr ⟨_, mem, rfl⟩)
      rw [Function.update_of_ne apart]

theorem getElem?_objectIndexToInstance {index : ℕ} (inside : index < system.instances.length) :
    system.instances[index]? = some (objectIndexToInstance index system) := by
  rw [objectIndexToInstance, keyAt, ← List.getElem?_map]
  change _ = some (system.instances[index]?.getD 0)
  rw [List.getElem?_eq_getElem inside, Option.getD_some]

/-- The map after a call: the map makes the call with the same result. -/
def Simulated (keylist : Search UInt32 ℕ) (kind : ObjectKind Descr) (system : ObjectSystem Descr)
    (map : ObjectMap Descr) (call : ObjectCall) : Prop :=
  ∃ after, ObjectMapStep kind map (call, (call.outcome keylist kind system).1) after ∧
    RepresentsObjects (call.outcome keylist kind system).2 after

theorem objectInit_simulated (represents : RepresentsObjects system map) (created : Bool) :
    Simulated keylist kind system map (.init created) := by
  refine ⟨_, .init, ?_⟩
  rcases system with ⟨list, heap⟩
  cases list with
  | some present =>
      refine ⟨?_, represents.objects⟩
      simp [represents.initialized, ObjectCall.outcome, objectInit]
  | none =>
      constructor
      · cases created <;> simp [represents.initialized, ObjectCall.outcome, objectInit]
      · intro instanceNumber descr
        rw [represents.objects instanceNumber descr]
        cases created <;> rfl

theorem objectCreate_simulated (represents : RepresentsObjects system map)
    (invariant : ObjectsInvariant system) {instanceNumber : UInt32} {malloc : Option ℕ}
    {room : Bool} (fresh : (ObjectCall.create instanceNumber malloc room).Fresh system)
    (safe : ∀ after, ObjectCallSafe ⟨system, .create instanceNumber malloc room, after⟩) :
    Simulated keylist kind system map (.create instanceNumber malloc room) := by
  have created : Created keylist kind instanceNumber malloc room system
      (objectCreate keylist kind instanceNumber malloc room system) :=
    objectCreate_spec invariant instanceNumber malloc room
  unfold Simulated
  simp only [ObjectCall.outcome]
  generalize objectCreate keylist kind instanceNumber malloc room system = result at created
  cases created with
  | none without =>
      refine ⟨map, .notCreated ?_, represents⟩
      exact without.imp_left (represents.isSome_iff invariant instanceNumber).mpr
  | leaked unused gave full =>
      rcases safe system with present | missing | room
      · exact absurd present unused
      · rw [gave] at missing
        cases missing
      · exact absurd room full
  | @added address present added unused gave list roomy perm sorted =>
      subst gave
      rcases system with ⟨objectList, heap⟩
      change objectList = some present at list
      subst list
      refine ⟨_, .created ?_ rfl roomy represents.initialized,
        represents.add invariant unused fresh perm _⟩
      exact (represents.eq_none_iff invariant instanceNumber).mpr unused

theorem objectDelete_simulated (represents : RepresentsObjects system map)
    (invariant : ObjectsInvariant system) (instanceNumber : UInt32) :
    Simulated keylist kind system map (.delete instanceNumber) := by
  have spec := dataDelete_spec keylist invariant.sorted instanceNumber
  have listed := represents.isSome_iff invariant instanceNumber
  rcases system with ⟨list, heap⟩
  unfold Simulated
  simp only [ObjectCall.outcome, objectDelete]
  generalize dataDelete keylist list instanceNumber = result at spec
  cases spec with
  | absent notMem =>
      have missing : map.objects instanceNumber = none :=
        (represents.eq_none_iff invariant instanceNumber).mpr notMem
      refine ⟨_, .delete (by rw [missing]; rfl), ?_⟩
      rw [← missing, Function.update_eq_self]
      exact represents
  | @taken address rest perm sorted =>
      cases list with
      | none => exact absurd perm.length_eq (by simp [entries])
      | some present =>
          refine ⟨_, .delete (listed.mpr ?_), represents.remove invariant perm⟩
          exact List.mem_map_of_mem (mem_of_perm_cons perm)

theorem objectCleanup_simulated (represents : RepresentsObjects system map) :
    Simulated keylist kind system map .cleanup := by
  refine ⟨_, .cleanup, ?_⟩
  rcases system with ⟨list, heap⟩
  cases list with
  | none =>
      constructor
      · rfl
      · simp [ObjectMap.initial, ObjectCall.outcome, objectCleanup, entries]
  | some present =>
      constructor
      · rfl
      · simp [ObjectMap.initial, ObjectCall.outcome, objectCleanup, entries]

theorem instanceNumberSet_simulated (represents : RepresentsObjects system map)
    (invariant : ObjectsInvariant system) {index : ℕ} {objectInstance : UInt32} {room : Bool}
    (safe : ∀ after, ObjectCallSafe ⟨system, .instanceNumberSet index objectInstance room, after⟩) :
    Simulated keylist kind system map (.instanceNumberSet index objectInstance room) := by
  have renumbered : Renumbered kind (objectIndexToInstance index system) objectInstance room system
      (networkPortObjectInstanceNumberSet keylist kind index objectInstance room system) :=
    networkPortObjectInstanceNumberSet_spec invariant index objectInstance room
  have enumerates := represents.enumerates invariant
  unfold Simulated
  simp only [ObjectCall.outcome]
  generalize networkPortObjectInstanceNumberSet keylist kind index objectInstance room system =
    result at renumbered
  cases renumbered with
  | none absent =>
      refine ⟨map, .notRenumbered enumerates ?_, represents⟩
      by_contra inside
      exact absent (objectIndexToInstance_mem (Nat.not_le.mp inside))
  | @lost address present rest heap list taken full =>
      have listed : objectIndexToInstance index system ∈ system.instances := by
        rw [ObjectSystem.instances, list]
        exact List.mem_map_of_mem (mem_of_perm_cons taken)
      have roomy := ((instanceNumberSet_safe_iff listed).mp (safe system)).2.2
      rw [full] at roomy
      cases roomy
  | @moved address present rest added list taken restSorted roomy perm sorted =>
      rcases system with ⟨objectList, heap⟩
      change objectList = some present at list
      subst list
      have listed : objectIndexToInstance index { objectList := some present, heap } ∈
          present.map Prod.fst := List.mem_map_of_mem (mem_of_perm_cons taken)
      rcases (instanceNumberSet_safe_iff listed).mp (safe ⟨some present, heap⟩) with
        ⟨inside, unused, _⟩
      rcases invariant.holds (mem_of_perm_cons taken) with ⟨descr, holds⟩
      -- the descriptor leaves its old instance, and comes back under the new one
      have removed := represents.remove invariant taken
      have removedInvariant := (invariant.remove taken restSorted).1
      have restUnused : objectInstance ∉ rest.map Prod.fst := by
        intro restMem
        apply unused
        exact (taken.map Prod.fst).mem_iff.mp (List.mem_cons_of_mem _ restMem)
      have added := removed.add removedInvariant restUnused
        (Function.update_self address none heap) perm (kind.instanceNumberSet objectInstance descr)
      rw [Function.update_idem] at added
      have held : heap address = some descr := holds
      simp only [held, Option.map_some]
      refine ⟨_, .renumbered enumerates (getElem?_objectIndexToInstance inside) ?_ ?_ roomy, added⟩
      · exact (represents.objects _ _).mpr ⟨address, mem_of_perm_cons taken, holds⟩
      · exact (represents.eq_none_iff invariant objectInstance).mpr unused

/-- The step lemma: the map makes every safe call, with the same result. -/
theorem objectCall_simulated (represents : RepresentsObjects system map)
    (invariant : ObjectsInvariant system) {call : ObjectCall} (fresh : call.Fresh system)
    (safe : ∀ after, ObjectCallSafe ⟨system, call, after⟩) :
    Simulated keylist kind system map call := by
  cases call with
  | init created => exact objectInit_simulated represents created
  | create instanceNumber malloc room => exact objectCreate_simulated represents invariant fresh safe
  | delete instanceNumber => exact objectDelete_simulated represents invariant instanceNumber
  | cleanup => exact objectCleanup_simulated represents
  | instanceNumberSet index objectInstance room =>
      exact instanceNumberSet_simulated represents invariant safe

/-! ## Looking at a list that represents a map -/

/-- The lookups of the list give what the map holds. -/
structure LookupsAgree (keylist : Search UInt32 ℕ) (system : ObjectSystem Descr)
    (map : ObjectMap Descr) : Prop where
  found : ∀ instanceNumber, (objectFindDescription keylist instanceNumber system).bind
    system.heap = map.objects instanceNumber
  indexed : ∃ instances, Enumerates map instances ∧ objectCount system = instances.length ∧
    (∀ index, objectIndexToInstance index system = instances[index]?.getD 0) ∧
    (∀ index instanceNumber, instances[index]? = some instanceNumber →
      objectInstanceToIndex keylist instanceNumber system = index) ∧
    ∀ instanceNumber, instanceNumber ∉ instances →
      objectInstanceToIndex keylist instanceNumber system = noIndex

theorem RepresentsObjects.lookupsAgree (represents : RepresentsObjects system map)
    (invariant : ObjectsInvariant system) : LookupsAgree keylist system map where
  found := by
    intro instanceNumber
    have absent := data_eq_none_iff keylist invariant.sorted instanceNumber
    unfold objectFindDescription
    cases looked : data keylist system.objectList instanceNumber with
    | none =>
        rw [Option.bind_none, eq_comm, represents.eq_none_iff invariant]
        exact absent.mp looked
    | some address =>
        have mem := mem_of_data_eq_some keylist looked
        rcases invariant.holds mem with ⟨descr, holds⟩
        rw [Option.bind_some, holds, eq_comm]
        exact (represents.objects _ _).mpr ⟨address, mem, holds⟩
  indexed := by
    refine ⟨system.instances, represents.enumerates invariant, ?_, ?_, ?_, ?_⟩
    · rw [objectCount, ObjectSystem.instances, List.length_map]
    · intro index
      rw [objectIndexToInstance, keyAt, ObjectSystem.instances, List.getElem?_map]
    · intro index instanceNumber listed
      cases found : keylist.findIndex (entries system.objectList) instanceNumber with
      | none =>
          have absent := keylist.findIndex_none _ _ invariant.sorted found
          exact absurd (List.mem_of_getElem? listed) absent
      | some place =>
          rcases keylist.findIndex_some _ _ _ found with ⟨address, held⟩
          have placed : system.instances[place]? = some instanceNumber := by
            rw [ObjectSystem.instances, List.getElem?_map, held]
            rfl
          rw [objectInstanceToIndex, found, Option.getD_some]
          rcases List.getElem?_eq_some_iff.mp placed with ⟨inside, _⟩
          exact (List.getElem?_inj inside invariant.unique).mp (placed.trans listed.symm)
    · intro instanceNumber absent
      cases found : keylist.findIndex (entries system.objectList) instanceNumber with
      | none => rw [objectInstanceToIndex, found, Option.getD_none]
      | some place =>
          rcases keylist.findIndex_some _ _ _ found with ⟨address, held⟩
          exact absurd (List.mem_map_of_mem (List.mem_of_getElem? held)) absent

end Calls

/-! ## Runs -/

section Runs

variable {keylist : Search UInt32 ℕ} {kind : ObjectKind Descr}

/-- The calls of a run of the list, with their results. -/
def objectResults (keylist : Search UInt32 ℕ) (kind : ObjectKind Descr)
    (taken : List (Taken (ObjectSystem Descr) ObjectCall)) : List (ObjectCall × Option Bool) :=
  taken.map fun transition =>
    (transition.label, (transition.label.outcome keylist kind transition.before).1)

/-- Every run whose calls are safe is a run of the map, and the list represents the map. -/
theorem objectRun_represents {last : ObjectSystem Descr}
    {taken : List (Taken (ObjectSystem Descr) ObjectCall)}
    (run : Run (ObjectStep keylist kind) (ObjectSystem.initial Descr) taken last)
    (safe : ∀ call ∈ taken, ObjectCallSafe call) :
    ObjectsInvariant last ∧ ∃ steps map,
      Run (ObjectMapStep kind) (ObjectMap.initial Descr) steps map ∧
        steps.map Taken.label = objectResults keylist kind taken ∧ RepresentsObjects last map := by
  induction run with
  | start =>
      exact ⟨ObjectsInvariant.initial Descr, [], _, .start, rfl, RepresentsObjects.initial Descr⟩
  | @next earlier middle last call run move ih =>
      rw [List.forall_mem_append, List.forall_mem_singleton] at safe
      rcases ih safe.1 with ⟨invariant, steps, map, mapRun, labels, represents⟩
      have kept := objectCallKept_iff invariant move
      refine ⟨kept.2 (kept.1.mpr safe.2), ?_⟩
      have everySafe : ∀ after, ObjectCallSafe ⟨middle, call, after⟩ := fun _ => safe.2
      rcases objectCall_simulated represents invariant move.1 everySafe with ⟨after, step, now⟩
      refine ⟨_, after, mapRun.next step, ?_, ?_⟩
      · simp only [objectResults, List.map_append] at labels ⊢
        rw [labels]
        rfl
      · rw [move.2]
        exact now

/--
Every run whose calls are safe is a run of the map with the same results, and in the end
the lookups of the list give what the map holds.
-/
theorem objectRun_refines {last : ObjectSystem Descr}
    {taken : List (Taken (ObjectSystem Descr) ObjectCall)}
    (run : Run (ObjectStep keylist kind) (ObjectSystem.initial Descr) taken last)
    (safe : ∀ call ∈ taken, ObjectCallSafe call) :
    ∃ steps map, Run (ObjectMapStep kind) (ObjectMap.initial Descr) steps map ∧
      steps.map Taken.label = objectResults keylist kind taken ∧
      LookupsAgree keylist last map := by
  rcases objectRun_represents run safe with
    ⟨invariant, steps, map, mapRun, labels, represents⟩
  exact ⟨steps, map, mapRun, labels, represents.lookupsAgree invariant⟩

/-- An object that is created, with the list before it and a lookup after it. -/
theorem objectRun_refines_created :
    ∃ steps map, Run (ObjectMapStep numberedKind) (ObjectMap.initial UInt32) steps map ∧
      steps.map Taken.label = [(.init true, none), (.create 5 (some 1) true, some true)] ∧
      map.objects 5 = some 5 := by
  let empty := ObjectSystem.initial UInt32
  let listed := objectInit true empty
  let last := (objectCreate Search.linear numberedKind 5 (some 1) true listed).2
  have first : ObjectStep Search.linear numberedKind empty (.init true) listed := ⟨trivial, rfl⟩
  have second : ObjectStep Search.linear numberedKind listed (.create 5 (some 1) true) last :=
    ⟨rfl, rfl⟩
  rcases objectRun_refines ((Run.start.next first).next second)
    (by simp [ObjectCallSafe, listed, empty, objectInit, ObjectSystem.initial]) with
    ⟨steps, map, run, labels, agree⟩
  refine ⟨steps, map, run, ?_, ?_⟩
  · rw [labels]
    rfl
  · rw [← agree.found 5]
    rfl

end Runs

end BacnetZephyr
