import BacnetZephyr.Foundation.Program
import BacnetZephyr.Foundation.Transition
import Mathlib.Logic.Function.Basic

/-!
# A two-part cell under a recursive mutex

Threads run code that stores both parts of a cell, loads both, and takes and releases
a mutex. Storing and loading are two steps each, between which other threads run; a
load may take the parts in either order. All that is assumed of the mutex is that a
thread takes it only while no other thread has it.

Code is `Guarded` at a depth if it stores under the mutex and returns with another
given depth. When all code that threads start is guarded, a cell that no thread is
storing is whole, and so is every pair that a thread with the mutex loads.
-/

namespace LockedCell

open Transition

variable {First Second Work : Type} {Answer : Work → Type} {α β : Type}

inductive Call (First Second Work : Type) where
  | lock
  | unlock
  | store (first : First) (second : Second)
  | load
  | work (asked : Work)

def Call.Response (Answer : Work → Type) : Call First Second Work → Type
  | load => First × Second
  | work asked => Answer asked
  | lock | unlock | store _ _ => Unit

abbrev Code (First Second : Type) {Work : Type} (Answer : Work → Type) :=
  Program (Call First Second Work) (Call.Response Answer)

/-- The code, started at a depth, stores under the mutex and returns at the given depth. -/
def Guarded (exit : ℕ) : Code First Second Answer α → ℕ → Prop
  | .done _, depth => depth = exit
  | .call .lock next, depth => Guarded exit (next ()) (depth + 1)
  | .call .unlock next, depth => 0 < depth ∧ Guarded exit (next ()) (depth - 1)
  | .call (.store _ _) next, depth => 0 < depth ∧ Guarded exit (next ()) depth
  | .call .load next, depth => ∀ loaded, Guarded exit (next loaded) depth
  | .call (.work _) next, depth => ∀ answer, Guarded exit (next answer) depth

theorem Guarded.bind {middle exit depth : ℕ} {code : Code First Second Answer α}
    {next : α → Code First Second Answer β} (first : Guarded middle code depth)
    (rest : ∀ value, Guarded exit (next value) middle) :
    Guarded exit (code.bind next) depth := by
  induction code generalizing depth with
  | done value =>
      subst first
      exact rest value
  | call call _ ih =>
      cases call with
      | lock => exact ih () first
      | unlock => exact ⟨first.1, ih () first.2⟩
      | store => exact ⟨first.1, ih () first.2⟩
      | load => exact fun loaded => ih loaded (first loaded)
      | work => exact fun answer => ih answer (first answer)

/-- A path through code from a depth to its return, with the value and the depth there. -/
inductive Returns : Code First Second Answer α → ℕ → α → ℕ → Prop where
  | done (value : α) (depth : ℕ) : Returns (.done value) depth value depth
  | lock {next : Unit → Code First Second Answer α} {depth after : ℕ} {value : α}
      (rest : Returns (next ()) (depth + 1) value after) :
      Returns (.call .lock next) depth value after
  | unlock {next : Unit → Code First Second Answer α} {depth after : ℕ} {value : α}
      (rest : Returns (next ()) (depth - 1) value after) :
      Returns (.call .unlock next) depth value after
  | store {first : First} {second : Second} {next : Unit → Code First Second Answer α}
      {depth after : ℕ} {value : α} (rest : Returns (next ()) depth value after) :
      Returns (.call (.store first second) next) depth value after
  | load {next : First × Second → Code First Second Answer α} {depth after : ℕ} {value : α}
      (loaded : First × Second) (rest : Returns (next loaded) depth value after) :
      Returns (.call .load next) depth value after
  | work {work : Work} {next : Answer work → Code First Second Answer α} {depth after : ℕ}
      {value : α} (answer : Answer work) (rest : Returns (next answer) depth value after) :
      Returns (.call (.work work) next) depth value after

/-- Guarded code returns at its depth on every path. -/
theorem Returns.depth_eq {exit depth after : ℕ} {code : Code First Second Answer α} {value : α}
    (returns : Returns code depth value after) (guarded : Guarded exit code depth) :
    after = exit := by
  induction returns with
  | done => exact guarded
  | lock _ ih => exact ih guarded
  | unlock _ ih => exact ih guarded.2
  | store _ ih => exact ih guarded.2
  | load loaded _ ih => exact ih (guarded loaded)
  | work answer _ ih => exact ih (guarded answer)

/-! ## Threads -/

/-- Where a thread is; between the two steps of a store or a load it keeps what it has. -/
inductive Control (First Second : Type) {Work : Type} (Answer : Work → Type) (α : Type) where
  | idle
  | running (code : Code First Second Answer α)
  | storing (first : First) (second : Second) (rest : Code First Second Answer α)
  | loadedFirst (first : First) (next : First × Second → Code First Second Answer α)
  | loadedSecond (second : Second) (next : First × Second → Code First Second Answer α)

def Control.Storing : Control First Second Answer α → Prop
  | storing _ _ _ => True
  | idle | running _ | loadedFirst _ _ | loadedSecond _ _ => False

inductive Event (First Second α : Type) where
  | started
  | returned (value : α)
  | locked
  | unlocked
  | storing
  | stored (pair : First × Second)
  | loading
  | loaded (pair : First × Second)
  | worked

/-- What a thread sees: the cell, its own depth and where it is. -/
structure View (First Second : Type) {Work : Type} (Answer : Work → Type) (α : Type) where
  cell : First × Second
  depth : ℕ
  control : Control First Second Answer α

/-- A step of a thread, without the other threads. -/
inductive Move (jobs : Code First Second Answer α → Prop) :
    View First Second Answer α → Event First Second α → View First Second Answer α → Prop where
  | start {cell depth} {job} (mem : jobs job) :
      Move jobs ⟨cell, depth, .idle⟩ .started ⟨cell, depth, .running job⟩
  | finish {cell depth} {value} :
      Move jobs ⟨cell, depth, .running (.done value)⟩ (.returned value) ⟨cell, depth, .idle⟩
  | lock {cell depth} {next} :
      Move jobs ⟨cell, depth, .running (.call .lock next)⟩ .locked
        ⟨cell, depth + 1, .running (next ())⟩
  | unlock {cell depth} {next} :
      Move jobs ⟨cell, depth, .running (.call .unlock next)⟩ .unlocked
        ⟨cell, depth - 1, .running (next ())⟩
  | storeFirst {cell depth} {first second} {next} :
      Move jobs ⟨cell, depth, .running (.call (.store first second) next)⟩ .storing
        ⟨(first, cell.2), depth, .storing first second (next ())⟩
  | storeSecond {cell depth} {first second} {rest} :
      Move jobs ⟨cell, depth, .storing first second rest⟩ (.stored (first, second))
        ⟨(cell.1, second), depth, .running rest⟩
  | loadFirst {cell depth} {next} :
      Move jobs ⟨cell, depth, .running (.call .load next)⟩ .loading
        ⟨cell, depth, .loadedFirst cell.1 next⟩
  | loadSecond {cell depth} {next} :
      Move jobs ⟨cell, depth, .running (.call .load next)⟩ .loading
        ⟨cell, depth, .loadedSecond cell.2 next⟩
  | loadRest {cell depth} {first} {next} :
      Move jobs ⟨cell, depth, .loadedFirst first next⟩ (.loaded (first, cell.2))
        ⟨cell, depth, .running (next (first, cell.2))⟩
  | loadFront {cell depth} {second} {next} :
      Move jobs ⟨cell, depth, .loadedSecond second next⟩ (.loaded (cell.1, second))
        ⟨cell, depth, .running (next (cell.1, second))⟩
  | work {cell depth} {work} {next} (answer : Answer work) :
      Move jobs ⟨cell, depth, .running (.call (.work work) next)⟩ .worked
        ⟨cell, depth, .running (next answer)⟩

/-- What holds of a thread all the time. -/
def View.Kept (view : View First Second Answer α) : Prop :=
  match view.control with
  | .idle => view.depth = 0
  | .running code => Guarded 0 code view.depth
  | .storing first _ rest => 0 < view.depth ∧ Guarded 0 rest view.depth ∧ view.cell.1 = first
  | .loadedFirst first next =>
      (∀ loaded, Guarded 0 (next loaded) view.depth) ∧ (0 < view.depth → view.cell.1 = first)
  | .loadedSecond second next =>
      (∀ loaded, Guarded 0 (next loaded) view.depth) ∧ (0 < view.depth → view.cell.2 = second)

variable {jobs : Code First Second Answer α → Prop} {before after : View First Second Answer α}
  {event : Event First Second α}

theorem Move.kept (guarded : ∀ job, jobs job → Guarded 0 job 0)
    (move : Move jobs before event after) (kept : before.Kept) : after.Kept := by
  cases move with
  | start mem =>
      have outside : _ = 0 := kept
      subst outside
      exact guarded _ mem
  | finish => exact kept
  | lock => exact kept
  | unlock => exact kept.2
  | storeFirst => exact ⟨kept.1, kept.2, rfl⟩
  | storeSecond => exact kept.2.1
  | loadFirst => exact ⟨kept, fun _ => rfl⟩
  | loadSecond => exact ⟨kept, fun _ => rfl⟩
  | loadRest => exact kept.1 _
  | loadFront => exact kept.1 _
  | work answer => exact kept answer

/-- A thread without the mutex does not depend on the cell. -/
theorem View.Kept.frame {cell : First × Second} (kept : before.Kept) (outside : before.depth = 0) :
    (View.mk cell 0 before.control).Kept := by
  rcases before with ⟨_, depth, control⟩
  change depth = 0 at outside
  subst outside
  cases control with
  | idle => rfl
  | running code => exact kept
  | storing => exact absurd kept.1 (Nat.lt_irrefl 0)
  | loadedFirst => exact ⟨kept.1, fun inside => absurd inside (Nat.lt_irrefl 0)⟩
  | loadedSecond => exact ⟨kept.1, fun inside => absurd inside (Nat.lt_irrefl 0)⟩

theorem View.Kept.depth_pos (kept : before.Kept) (storing : before.control.Storing) :
    0 < before.depth := by
  rcases before with ⟨cell, depth, control⟩
  cases control with
  | storing => exact kept.1
  | idle | running | loadedFirst | loadedSecond => cases storing

/-- A thread changes the cell under the mutex only. -/
theorem Move.cell_eq (move : Move jobs before event after) (kept : before.Kept)
    (outside : before.depth = 0) : after.cell = before.cell := by
  cases move with
  | storeFirst => exact absurd outside (Nat.ne_of_gt kept.1)
  | storeSecond => exact absurd outside (Nat.ne_of_gt kept.1)
  | _ => rfl

theorem Move.depth_pos (move : Move jobs before event after) (inside : 0 < after.depth) :
    0 < before.depth ∨ event = .locked := by
  cases move with
  | lock => exact Or.inr rfl
  | unlock => exact Or.inl (Nat.lt_of_lt_of_le inside (Nat.sub_le _ _))
  | _ => exact Or.inl inside

theorem Move.depth_eq_zero {value : α} (move : Move jobs before event after) (kept : before.Kept)
    (ends : event = .started ∨ event = .returned value) : before.depth = 0 ∧ after.depth = 0 := by
  cases move with
  | start | finish => exact ⟨kept, kept⟩
  | _ => simp at ends

/-- A load that ends under the mutex has the pair in the cell, and no store is under way there. -/
theorem Move.loaded_eq {pair : First × Second} (move : Move jobs before (.loaded pair) after)
    (kept : before.Kept) (inside : 0 < before.depth) :
    pair = before.cell ∧ ¬before.control.Storing := by
  cases move with
  | loadRest =>
      have first := kept.2 inside
      exact ⟨Prod.ext first.symm rfl, id⟩
  | loadFront =>
      have second := kept.2 inside
      exact ⟨Prod.ext rfl second.symm, id⟩

/-- What a step does to the cell: it opens a store, ends one, or leaves the cell alone. -/
theorem Move.cell_cases (move : Move jobs before event after) (kept : before.Kept) :
    after.control.Storing ∨ (∃ pair, event = .stored pair ∧ after.cell = pair) ∨
      (after.cell = before.cell ∧ ¬before.control.Storing) := by
  cases move with
  | storeFirst => exact Or.inl trivial
  | storeSecond => exact Or.inr (Or.inl ⟨_, rfl, Prod.ext kept.2.2 rfl⟩)
  | _ => exact Or.inr (Or.inr ⟨rfl, id⟩)

/-! ## Systems of threads -/

variable {Thread : Type}

structure State (Thread First Second : Type) {Work : Type} (Answer : Work → Type) (α : Type) where
  cell : First × Second
  depth : Thread → ℕ
  control : Thread → Control First Second Answer α

def State.view (state : State Thread First Second Answer α) (thread : Thread) :
    View First Second Answer α where
  cell := state.cell
  depth := state.depth thread
  control := state.control thread

/-- All threads idle, and the mutex free. -/
def State.initial (Thread : Type) (Answer : Work → Type) (α : Type) (cell : First × Second) :
    State Thread First Second Answer α where
  cell := cell
  depth := fun _ => 0
  control := fun _ => .idle

variable [DecidableEq Thread]

/-- The view of one thread put back into the state. -/
def State.set (state : State Thread First Second Answer α) (thread : Thread)
    (view : View First Second Answer α) : State Thread First Second Answer α where
  cell := view.cell
  depth := Function.update state.depth thread view.depth
  control := Function.update state.control thread view.control

/-- One thread moves; it takes the mutex only while no other thread has it. -/
inductive Step (jobs : Code First Second Answer α → Prop) :
    State Thread First Second Answer α → Thread × Event First Second α →
      State Thread First Second Answer α → Prop where
  | move {state : State Thread First Second Answer α} {thread : Thread}
      {event : Event First Second α} {view : View First Second Answer α}
      (move : Move jobs (state.view thread) event view)
      (free : event = .locked → ∀ other, other ≠ thread → state.depth other = 0) :
      Step jobs state (thread, event) (state.set thread view)

omit [DecidableEq Thread] in
/-- The pairs of the stores that have ended. -/
def stored (taken : List (Taken (State Thread First Second Answer α)
    (Thread × Event First Second α))) : List (First × Second) :=
  taken.filterMap fun transition =>
    match transition.label.2 with
    | .stored pair => some pair
    | _ => none

/-- At most one thread has the mutex, and without a store under way the cell is whole. -/
structure Invariant (pairs : List (First × Second))
    (state : State Thread First Second Answer α) : Prop where
  exclusive : ∀ left right, 0 < state.depth left → 0 < state.depth right → left = right
  kept : ∀ thread, (state.view thread).Kept
  whole : (∀ thread, ¬(state.control thread).Storing) → state.cell ∈ pairs

variable {state : State Thread First Second Answer α} {thread other : Thread}
  {view : View First Second Answer α}

theorem State.view_set : (state.set thread view).view thread = view := by
  simp [State.set, State.view]

theorem State.view_set_of_ne (ne : other ≠ thread) :
    (state.set thread view).view other = ⟨view.cell, state.depth other, state.control other⟩ := by
  simp [State.set, State.view, Function.update_of_ne ne]

/-- The step lemma: a step keeps the invariant, with the pair it stored if it ended a store. -/
theorem Invariant.step {pairs : List (First × Second)} {later : State Thread First Second Answer α}
    {label : Thread × Event First Second α} (guarded : ∀ job, jobs job → Guarded 0 job 0)
    (invariant : Invariant pairs state) (step : Step jobs state label later) :
    Invariant (pairs ++ stored [⟨state, label, later⟩]) later := by
  cases step with
  | @move thread event view move free =>
      have kept := invariant.kept thread
      -- Only the thread that moves can have the mutex, unless it changes neither it nor the cell.
      have others : 0 < view.depth → ∀ other, other ≠ thread → state.depth other = 0 := by
        intro inside other ne
        rcases move.depth_pos inside with before | locked
        · by_contra held
          exact ne (invariant.exclusive other thread (Nat.pos_of_ne_zero held) before)
        · exact free locked other ne
      refine { exclusive := ?_, kept := ?_, whole := ?_ }
      · intro left right leftInside rightInside
        by_cases leftSame : left = thread
        · by_cases rightSame : right = thread
          · rw [leftSame, rightSame]
          · subst leftSame
            simp only [State.set, Function.update_self, Function.update_of_ne rightSame]
              at leftInside rightInside
            exact absurd (others leftInside right rightSame) (Nat.ne_of_gt rightInside)
        · by_cases rightSame : right = thread
          · subst rightSame
            simp only [State.set, Function.update_self, Function.update_of_ne leftSame]
              at leftInside rightInside
            exact absurd (others rightInside left leftSame) (Nat.ne_of_gt leftInside)
          · simp only [State.set, Function.update_of_ne leftSame,
              Function.update_of_ne rightSame] at leftInside rightInside
            exact invariant.exclusive left right leftInside rightInside
      · intro other
        by_cases same : other = thread
        · subst same
          rw [State.view_set]
          exact move.kept guarded kept
        · rw [State.view_set_of_ne same]
          have before := invariant.kept other
          by_cases outside : state.depth other = 0
          · rw [outside]
            exact before.frame outside
          · have without : state.depth thread = 0 := by
              by_contra held
              exact same (invariant.exclusive other thread (Nat.pos_of_ne_zero outside)
                (Nat.pos_of_ne_zero held))
            rw [move.cell_eq kept without]
            exact before
      · intro quiet
        have threadQuiet := quiet thread
        simp only [State.set, Function.update_self] at threadQuiet
        rcases move.cell_cases kept with storing | ⟨pair, rfl, cell⟩ | ⟨cell, before⟩
        · exact absurd storing threadQuiet
        · apply List.mem_append_right
          simp [stored, State.set, cell]
        · apply List.mem_append_left
          change view.cell ∈ pairs
          rw [cell]
          apply invariant.whole
          intro other
          by_cases same : other = thread
          · subst same
            exact before
          · have otherQuiet := quiet other
            simpa only [State.set, Function.update_of_ne same] using otherQuiet

/-- The run lemma. -/
theorem Invariant.run {cell : First × Second} {last : State Thread First Second Answer α}
    {taken : List (Taken (State Thread First Second Answer α) (Thread × Event First Second α))}
    (guarded : ∀ job, jobs job → Guarded 0 job 0)
    (run : Run (Step jobs) (State.initial Thread Answer α cell) taken last) :
    Invariant (cell :: stored taken) last := by
  refine @Run.invariant_taken _ _ _ _ _ _ (fun taken last => Invariant (cell :: stored taken) last)
    ?_ ?_ run
  · exact
      { exclusive := by simp [State.initial]
        kept := fun _ => rfl
        whole := by simp [State.initial] }
  · intro earlier before label after invariant step
    have next := invariant.step guarded step
    rwa [List.cons_append, stored, stored, ← List.filterMap_append] at next

/-- What a thread with the mutex loads, one earlier store wrote, or it is the initial pair. -/
theorem loaded_mem {cell : First × Second} {last : State Thread First Second Answer α}
    {early late : List (Taken (State Thread First Second Answer α)
      (Thread × Event First Second α))}
    {transition : Taken (State Thread First Second Answer α) (Thread × Event First Second α)}
    {pair : First × Second} (guarded : ∀ job, jobs job → Guarded 0 job 0)
    (run : Run (Step jobs) (State.initial Thread Answer α cell) (early ++ transition :: late) last)
    (loaded : transition.label.2 = .loaded pair)
    (inside : 0 < transition.before.depth transition.label.1) :
    pair ∈ cell :: stored early := by
  rcases run.split with ⟨front, step, _⟩
  have invariant := Invariant.run guarded front
  rcases transition with ⟨before, ⟨thread, event⟩, after⟩
  change event = _ at loaded
  subst loaded
  change Step jobs before (thread, .loaded pair) after at step
  cases step with
  | move move free =>
      rcases move.loaded_eq (invariant.kept thread) inside with ⟨same, threadQuiet⟩
      rw [same]
      apply invariant.whole
      intro other storing
      have otherInside := (invariant.kept other).depth_pos storing
      have sameThread := invariant.exclusive other thread otherInside inside
      subst sameThread
      exact threadQuiet storing

/-- A thread starts and returns without the mutex. -/
theorem depth_eq_zero {cell : First × Second} {last : State Thread First Second Answer α}
    {early late : List (Taken (State Thread First Second Answer α)
      (Thread × Event First Second α))}
    {transition : Taken (State Thread First Second Answer α) (Thread × Event First Second α)}
    {value : α} (guarded : ∀ job, jobs job → Guarded 0 job 0)
    (run : Run (Step jobs) (State.initial Thread Answer α cell) (early ++ transition :: late) last)
    (ends : transition.label.2 = .started ∨ transition.label.2 = .returned value) :
    transition.before.depth transition.label.1 = 0 ∧
      transition.after.depth transition.label.1 = 0 := by
  rcases run.split with ⟨front, step, _⟩
  have invariant := Invariant.run guarded front
  rcases transition with ⟨before, ⟨thread, event⟩, after⟩
  change Step jobs before (thread, event) after at step
  cases step with
  | @move _ _ view move free =>
      have outside := move.depth_eq_zero (invariant.kept thread) ends
      refine ⟨outside.1, ?_⟩
      simpa only [State.set, Function.update_self] using outside.2

end LockedCell
