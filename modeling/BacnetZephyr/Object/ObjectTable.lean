import BacnetZephyr.Foundation.Transition
import Mathlib.Data.List.Nodup
import Mathlib.Logic.Function.Basic

/-!
# Traversals of the object table

The functions of the object kinds stand in a table in read-only memory, and with routing
the Routing object takes the place of the Device object in what a traversal sees. Routing
is switched on at any time, also in the middle of a traversal: the pointer that comes back
is then the Device object although the next one would be the Routing object.

`objectTable_traversed` says that this goes well whatever threads traverse the table: no
pointer outside the table is incremented, and every entry is seen once and in its place.
-/

namespace BacnetZephyr

open Transition

/-- A pointer to `struct object_functions`: an entry of the table, or `Routing_object`. -/
inductive ObjectFunctions where
  | entry (index : ℕ)
  | routingObject
deriving DecidableEq

/-- The table as it is linked, with the place of `Device_object` in it. -/
structure ObjectTable where
  size : ℕ
  deviceObject : ℕ
  /-- `BAC_ROUTING`. -/
  bacRouting : Bool

section Functions

variable (table : ObjectTable) (routingDevice : Bool)

def deviceObjectFilterOut (object : ObjectFunctions) : ObjectFunctions :=
  if table.bacRouting && routingDevice && object = .entry table.deviceObject then .routingObject
  else object

def deviceObjectFilterIn (object : ObjectFunctions) : ObjectFunctions :=
  if table.bacRouting && routingDevice && object = .routingObject then .entry table.deviceObject
  else object

/-- `Device_Objects_Get_First_Object`; a null pointer is `none`. -/
def deviceObjectsGetFirstObject : Option ObjectFunctions :=
  if 0 < table.size then some (deviceObjectFilterOut table routingDevice (.entry 0)) else none

/-- `Device_Objects_Get_Next_Object`; an error when a pointer outside the table is incremented. -/
def deviceObjectsGetNextObject (object : Option ObjectFunctions) :
    Except Unit (Option ObjectFunctions) :=
  match object with
  | none => .ok none
  | some object =>
      match deviceObjectFilterIn table routingDevice object with
      | .routingObject => .error ()
      | .entry index =>
          if index + 1 < table.size then
            .ok (some (deviceObjectFilterOut table routingDevice (.entry (index + 1))))
          else .ok none

end Functions

/-! ## Any number of traversals -/

/-- Where a traversal is, and what it has seen. -/
structure Traversal where
  object : Option ObjectFunctions
  seen : List ObjectFunctions

structure TableState (Thread : Type) where
  routingDevice : Bool
  /-- The traversal of a thread that has begun one. -/
  traversal : Thread → Option Traversal

inductive TableEvent (Thread : Type) where
  | routingDeviceInit
  | getFirst (thread : Thread)
  | getNext (thread : Thread)

section Steps

variable {Thread : Type} [DecidableEq Thread] (table : ObjectTable)

def TableState.withTraversal (state : TableState Thread) (thread : Thread)
    (traversal : Traversal) : TableState Thread :=
  { state with traversal := Function.update state.traversal thread (some traversal) }

/-- One call of a thread; a pointer outside the table has no next state. -/
inductive TableStep : TableState Thread → TableEvent Thread → TableState Thread → Prop where
  | routingDeviceInit {state : TableState Thread} (routing : table.bacRouting = true) :
      TableStep state .routingDeviceInit { state with routingDevice := true }
  | getFirst {state : TableState Thread} {thread : Thread} {object : Option ObjectFunctions}
      (first : deviceObjectsGetFirstObject table state.routingDevice = object) :
      TableStep state (.getFirst thread)
        (state.withTraversal thread { object, seen := object.toList })
  | getNext {state : TableState Thread} {thread : Thread} {traversal : Traversal}
      {object : Option ObjectFunctions} (begun : state.traversal thread = some traversal)
      (next : deviceObjectsGetNextObject table state.routingDevice traversal.object =
        .ok object) :
      TableStep state (.getNext thread)
        (state.withTraversal thread { object, seen := traversal.seen ++ object.toList })

/-- Nobody has begun, and routing is off. -/
def TableState.initial : TableState Thread where
  routingDevice := false
  traversal := fun _ => none

end Steps

/-! ## What a traversal has seen -/

section Traversed

variable {table : ObjectTable} {routingDevice later : Bool} {index : ℕ}

/-- The pointer stands for the entry; the Routing object only once routing is on. -/
inductive StandsFor (table : ObjectTable) (routingDevice : Bool) (index : ℕ) :
    ObjectFunctions → Prop where
  | entry : StandsFor table routingDevice index (.entry index)
  | routingObject (routing : table.bacRouting = true) (on : routingDevice = true)
      (device : index = table.deviceObject) :
      StandsFor table routingDevice index .routingObject

theorem StandsFor.mono {object : ObjectFunctions}
    (stands : StandsFor table routingDevice index object)
    (monotone : routingDevice = true → later = true) : StandsFor table later index object := by
  cases stands with
  | entry => exact .entry
  | routingObject routing on device => exact .routingObject routing (monotone on) device

/-- What is handed out stands for the entry. -/
theorem standsFor_filterOut (table : ObjectTable) (routingDevice : Bool) (index : ℕ) :
    StandsFor table routingDevice index
      (deviceObjectFilterOut table routingDevice (.entry index)) := by
  unfold deviceObjectFilterOut
  split
  · rename_i replaced
    simp only [Bool.and_eq_true, decide_eq_true_eq, ObjectFunctions.entry.injEq] at replaced
    exact .routingObject replaced.1.1 replaced.1.2 replaced.2
  · exact .entry

/-- What comes back is the entry again. -/
theorem filterIn_of_standsFor {object : ObjectFunctions}
    (stands : StandsFor table routingDevice index object) :
    deviceObjectFilterIn table routingDevice object = .entry index := by
  cases stands with
  | entry => simp [deviceObjectFilterIn]
  | routingObject routing on device => simp [deviceObjectFilterIn, routing, on, device]

/-- A pointer stands for one entry only. -/
theorem StandsFor.unique {other : ℕ} {object : ObjectFunctions}
    (stands : StandsFor table routingDevice index object)
    (also : StandsFor table routingDevice other object) : index = other := by
  cases stands with
  | entry =>
      cases also with
      | entry => rfl
  | routingObject routing on device =>
      cases also with
      | routingObject routing' on' device' => rw [device, device']

/-- With routing on, the Device object is not handed out. -/
theorem filterOut_ne_device {object : ObjectFunctions} (routing : table.bacRouting = true) :
    deviceObjectFilterOut table true object ≠ .entry table.deviceObject := by
  unfold deviceObjectFilterOut
  by_cases device : object = .entry table.deviceObject
  · simp [routing, device]
  · simp [device]

/--
The objects that a traversal has seen stand for the first entries, each in its place; the
traversal is at the last of them, or has come to the end of the table.
-/
structure Traversal.InPlace (table : ObjectTable) (routingDevice : Bool)
    (traversal : Traversal) : Prop where
  seen : ∀ index object, traversal.seen[index]? = some object →
    StandsFor table routingDevice index object
  inside : traversal.seen.length ≤ table.size
  finished : traversal.object = none → traversal.seen.length = table.size
  last : ∀ object, traversal.object = some object →
    0 < traversal.seen.length ∧ StandsFor table routingDevice (traversal.seen.length - 1) object

theorem Traversal.InPlace.mono {traversal : Traversal}
    (inPlace : traversal.InPlace table routingDevice)
    (monotone : routingDevice = true → later = true) : traversal.InPlace table later where
  seen := fun index object found => (inPlace.seen index object found).mono monotone
  inside := inPlace.inside
  finished := inPlace.finished
  last := by
    intro object isLast
    have ⟨begun, stands⟩ := inPlace.last object isLast
    exact ⟨begun, stands.mono monotone⟩

theorem inPlace_first (table : ObjectTable) (routingDevice : Bool) :
    Traversal.InPlace table routingDevice
      { object := deviceObjectsGetFirstObject table routingDevice
        seen := (deviceObjectsGetFirstObject table routingDevice).toList } := by
  unfold deviceObjectsGetFirstObject
  have stands := standsFor_filterOut table routingDevice 0
  split
  · rename_i nonempty
    refine ⟨?_, nonempty, fun none => (by cases none), ?_⟩
    · intro index object found
      cases index with
      | zero =>
          cases found
          exact stands
      | succ index => cases found
    · rintro _ ⟨⟩
      exact ⟨Nat.zero_lt_one, stands⟩
  · rename_i empty
    refine ⟨?_, Nat.zero_le _, fun _ => (Nat.eq_zero_of_not_pos empty).symm, ?_⟩
    · intro index object found
      cases found
    · rintro _ ⟨⟩

/-- From its place a traversal goes on to the next entry, or ends after the last. -/
theorem getNext_of_inPlace {traversal : Traversal}
    (inPlace : traversal.InPlace table routingDevice) :
    deviceObjectsGetNextObject table routingDevice traversal.object =
      .ok (if traversal.seen.length < table.size then
        some (deviceObjectFilterOut table routingDevice (.entry traversal.seen.length))
      else none) := by
  cases isObject : traversal.object with
  | none =>
      rw [if_neg (Nat.lt_irrefl _ |> (inPlace.finished isObject ▸ ·))]
      rfl
  | some object =>
      have ⟨begun, stands⟩ := inPlace.last object isObject
      simp only [deviceObjectsGetNextObject, filterIn_of_standsFor stands]
      rw [Nat.sub_add_cancel begun]
      split <;> rfl

theorem Traversal.InPlace.next {traversal : Traversal}
    (inPlace : traversal.InPlace table routingDevice) {object : Option ObjectFunctions}
    (next : deviceObjectsGetNextObject table routingDevice traversal.object = .ok object) :
    Traversal.InPlace table routingDevice
      { object, seen := traversal.seen ++ object.toList } := by
  rw [getNext_of_inPlace inPlace, Except.ok.injEq] at next
  have inside := inPlace.inside
  subst next
  split
  · rename_i more
    have stands := standsFor_filterOut table routingDevice traversal.seen.length
    have length : (traversal.seen ++ (some (deviceObjectFilterOut table routingDevice
        (.entry traversal.seen.length))).toList).length = traversal.seen.length + 1 := by
      rw [List.length_append]
      rfl
    constructor
    · intro index object found
      rw [List.getElem?_append] at found
      split at found
      · exact inPlace.seen index object found
      · rename_i beyond
        have place : index = traversal.seen.length := by
          have bound := (List.getElem?_eq_some_iff.mp found).1
          have one : (some (deviceObjectFilterOut table routingDevice
            (.entry traversal.seen.length))).toList.length = 1 := rfl
          omega
        subst place
        rw [Nat.sub_self] at found
        cases found
        exact stands
    · rw [length]
      exact more
    · intro none
      cases none
    · rintro _ ⟨⟩
      rw [length]
      exact ⟨Nat.succ_pos _, stands⟩
  · rename_i beyond
    have same : traversal.seen ++ (none : Option ObjectFunctions).toList = traversal.seen :=
      List.append_nil _
    constructor
    · rw [same]
      exact inPlace.seen
    · rw [same]
      exact inside
    · intro _
      simp only [same]
      omega
    · rintro _ ⟨⟩

/-- Nothing is seen twice. -/
theorem Traversal.InPlace.nodup {traversal : Traversal}
    (inPlace : traversal.InPlace table routingDevice) : traversal.seen.Nodup := by
  rw [List.nodup_iff_injective_get]
  intro first second same
  have stands : ∀ index : Fin traversal.seen.length,
      StandsFor table routingDevice index (traversal.seen.get index) :=
    fun index => inPlace.seen index _ (List.getElem?_eq_getElem index.isLt)
  have once := stands first
  rw [same] at once
  exact Fin.ext (once.unique (stands second))

end Traversed

/-! ## Every interleaving -/

section Run

variable {Thread : Type} [DecidableEq Thread] {table : ObjectTable}

def TableState.InPlace (table : ObjectTable) (state : TableState Thread) : Prop :=
  ∀ thread traversal, state.traversal thread = some traversal →
    traversal.InPlace table state.routingDevice

theorem TableState.InPlace.withTraversal {state : TableState Thread}
    (inPlace : state.InPlace table) {thread : Thread} {traversal : Traversal}
    (placed : traversal.InPlace table state.routingDevice) :
    (state.withTraversal thread traversal).InPlace table := by
  intro other found begun
  by_cases same : other = thread
  · subst same
    have isFound : traversal = found := by
      simpa [TableState.withTraversal] using begun
    rw [← isFound]
    exact placed
  · apply inPlace other found
    simpa [TableState.withTraversal, same] using begun

theorem TableStep.inPlace {before after : TableState Thread} {event : TableEvent Thread}
    (inPlace : before.InPlace table) (step : TableStep table before event after) :
    after.InPlace table := by
  cases step with
  | routingDeviceInit routing =>
      intro thread traversal begun
      exact (inPlace thread traversal begun).mono fun _ => rfl
  | getFirst first =>
      subst first
      exact inPlace.withTraversal (inPlace_first table _)
  | getNext begun next => exact inPlace.withTraversal ((inPlace _ _ begun).next next)

/-- What is true of a traversal at any moment. -/
structure Traversed (table : ObjectTable) (routingDevice : Bool) (traversal : Traversal) :
    Prop where
  seen : ∀ index object, traversal.seen[index]? = some object →
    StandsFor table routingDevice index object
  once : traversal.seen.Nodup
  goesOn : deviceObjectsGetNextObject table routingDevice traversal.object =
    .ok (if traversal.seen.length < table.size then
      some (deviceObjectFilterOut table routingDevice (.entry traversal.seen.length))
    else none)
  finished : traversal.object = none → traversal.seen.length = table.size
  hidden : table.bacRouting = true → routingDevice = true →
    deviceObjectsGetNextObject table routingDevice traversal.object ≠
      .ok (some (.entry table.deviceObject))

/--
However threads traverse the table and whenever routing is switched on, each traversal
sees the entries one after the other, each once, the Device object possibly as the Routing
object. It can always go on to the next entry, ends only after the whole table, and with
routing on does not come to the Device object any more.
-/
theorem objectTable_traversed {last : TableState Thread}
    {taken : List (Taken (TableState Thread) (TableEvent Thread))}
    (run : Run (TableStep table) .initial taken last) {thread : Thread} {traversal : Traversal}
    (begun : last.traversal thread = some traversal) :
    Traversed table last.routingDevice traversal := by
  have nobody : TableState.InPlace table (.initial : TableState Thread) := by
    intro thread traversal begun
    cases begun
  have inPlace := run.invariant nobody (fun _ _ _ inPlace step => step.inPlace inPlace) thread
    traversal begun
  have goesOn := getNext_of_inPlace inPlace
  refine ⟨inPlace.seen, inPlace.nodup, goesOn, inPlace.finished, ?_⟩
  intro routing on device
  rw [goesOn, Except.ok.injEq] at device
  split at device
  · rw [on, Option.some.injEq] at device
    exact filterOut_ne_device routing device
  · cases device

/-- Routing is switched on between the Device object and the entry after it. -/
theorem objectTable_traversed_routing :
    let table : ObjectTable := { size := 3, deviceObject := 0, bacRouting := true }
    Traversed table true
      { object := some (.entry 1), seen := [.entry 0, .entry 1] } := by
  intro table
  let begun : TableState Unit :=
    TableState.initial.withTraversal () { object := some (.entry 0), seen := [.entry 0] }
  let routed : TableState Unit := { begun with routingDevice := true }
  let last : TableState Unit :=
    routed.withTraversal () { object := some (.entry 1), seen := [.entry 0, .entry 1] }
  have first : TableStep table .initial (.getFirst ()) begun := .getFirst rfl
  have routing : TableStep table begun .routingDeviceInit routed := .routingDeviceInit rfl
  have isBegun : routed.traversal () = some { object := some (.entry 0), seen := [.entry 0] } := rfl
  have next : TableStep table routed (.getNext ()) last := .getNext isBegun rfl
  exact objectTable_traversed (.next (.next (.next .start first) routing) next)
    (show last.traversal () = some _ from rfl)

end Run

end BacnetZephyr
