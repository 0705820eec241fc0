import BacnetZephyr.Foundation.Program
import BacnetZephyr.Foundation.Transition
import Mathlib.Logic.Function.Basic

/-!
# Threads whose shared calls are made under a lock

Threads run programs. Some calls take and release a recursive lock, some use a shared
state, and the answers of all others are left open. Between any two calls of a thread
the others may run; all that is assumed of the lock is that a thread takes it only
while no other thread has it.

In the atomic system a thread makes all calls from taking the lock to its release in one
step. `serializable` is the simulation: when programs use the shared state only under
the lock, what the threads do one call at a time they also do one section at a time,
with the same calls and answers of each thread, and the calls that use the shared state
in the same order.
-/

namespace Sections

open Program Transition

variable {Op : Type} {Response : Op → Type} {α β : Type}

/-- What a call is to the lock and to the shared state. -/
inductive Role where
  | lock
  | unlock
  | shared
  | own
deriving DecidableEq

/-- A shared state: which calls use it, and with what answers they change it. -/
structure Resource (Op : Type) (Response : Op → Type) where
  role : Op → Role
  Shared : Type
  answers : Shared → (op : Op) → Response op → Shared → Prop

variable (resource : Resource Op Response)

/-! ## Disciplined programs -/

/--
Started at a depth the program uses the shared state under the lock, does not release
the lock below the floor, and ends at the exit depth.
-/
def Disciplined (floor exit : ℕ) : Program Op Response α → ℕ → Prop
  | .done _, depth => depth = exit
  | .call op next, depth =>
      match resource.role op with
      | .lock => ∀ response, Disciplined floor exit (next response) (depth + 1)
      | .unlock => floor < depth ∧ ∀ response, Disciplined floor exit (next response) (depth - 1)
      | .shared => 0 < depth ∧ ∀ response, Disciplined floor exit (next response) depth
      | .own => ∀ response, Disciplined floor exit (next response) depth

section Disciplined

variable {resource} {floor middle exit depth : ℕ}

theorem Disciplined.bind {program : Program Op Response α} {next : α → Program Op Response β}
    (first : Disciplined resource floor middle program depth)
    (rest : ∀ value, Disciplined resource floor exit (next value) middle) :
    Disciplined resource floor exit (program.bind next) depth := by
  induction program generalizing depth with
  | done value =>
      subst first
      exact rest value
  | call op later ih =>
      simp only [Disciplined] at first
      simp only [Program.bind, Disciplined]
      split at first
      · exact fun response => ih response (first response)
      · exact ⟨first.1, fun response => ih response (first.2 response)⟩
      · exact ⟨first.1, fun response => ih response (first.2 response)⟩
      · exact fun response => ih response (first response)

theorem Disciplined.mono {lower : ℕ} {program : Program Op Response α} (below : lower ≤ floor)
    (disciplined : Disciplined resource floor exit program depth) :
    Disciplined resource lower exit program depth := by
  induction program generalizing depth with
  | done value => exact disciplined
  | call op later ih =>
      simp only [Disciplined] at disciplined ⊢
      split at disciplined
      · exact fun response => ih response (disciplined response)
      · exact ⟨Nat.lt_of_le_of_lt below disciplined.1,
          fun response => ih response (disciplined.2 response)⟩
      · exact ⟨disciplined.1, fun response => ih response (disciplined.2 response)⟩
      · exact fun response => ih response (disciplined response)

end Disciplined

/-! ## Programs that avoid calls -/

/-- The program never makes a call of this kind, whatever the responses. -/
def Avoids (avoided : Op → Prop) : Program Op Response α → Prop
  | .done _ => True
  | .call op next => ¬avoided op ∧ ∀ response, Avoids avoided (next response)

section Avoids

variable {avoided : Op → Prop}

theorem Avoids.pure (value : α) : Avoids avoided (pure value : Program Op Response α) := trivial

theorem Avoids.bind {program : Program Op Response α} {next : α → Program Op Response β}
    (first : Avoids avoided program) (rest : ∀ value, Avoids avoided (next value)) :
    Avoids avoided (program >>= next) := by
  induction program with
  | done value => exact rest value
  | call op later ih => exact ⟨first.1, fun response => ih response (first.2 response)⟩

theorem Avoids.call {op : Op} {next : Response op → Program Op Response α} (allowed : ¬avoided op)
    (rest : ∀ response, Avoids avoided (next response)) :
    Avoids avoided (perform op >>= next) :=
  ⟨allowed, rest⟩

theorem Avoids.performAll {ops : List Op} (allowed : ∀ op ∈ ops, ¬avoided op) :
    Avoids avoided (Program.performAll ops : Program Op Response Unit) := by
  induction ops with
  | nil => trivial
  | cons op ops ih =>
      rw [List.forall_mem_cons] at allowed
      exact ⟨allowed.1, fun _ => ih allowed.2⟩

theorem Avoids.mono {other : Op → Prop} {program : Program Op Response α}
    (avoids : Avoids avoided program) (implies : ∀ op, other op → avoided op) :
    Avoids other program := by
  induction program with
  | done value => trivial
  | call op later ih =>
      exact ⟨fun bad => avoids.1 (implies op bad), fun response => ih response (avoids.2 response)⟩

/-- A program that does not touch the lock is disciplined under it. -/
theorem Avoids.disciplined {resource : Resource Op Response} {depth : ℕ}
    {program : Program Op Response α}
    (avoids : Avoids (fun op => resource.role op = .lock ∨ resource.role op = .unlock) program)
    (held : 0 < depth) : Disciplined resource depth depth program depth := by
  induction program with
  | done value => rfl
  | call op next ih =>
      simp only [Disciplined]
      split
      · rename_i role
        exact absurd (Or.inl role) avoids.1
      · rename_i role
        exact absurd (Or.inr role) avoids.1
      · exact ⟨held, fun response => ih response (avoids.2 response)⟩
      · exact fun response => ih response (avoids.2 response)

end Avoids

/-! ## One thread -/

/-- What a thread has: its depth in the lock, the shared state and the rest of its program. -/
structure View (α : Type) where
  depth : ℕ
  shared : resource.Shared
  program : Program Op Response α

/-- A call of a thread. -/
inductive Calls : View resource α → Event Op Response → View resource α → Prop where
  | lock {depth : ℕ} {shared : resource.Shared} {op : Op}
      {next : Response op → Program Op Response α} (response : Response op)
      (role : resource.role op = .lock) :
      Calls ⟨depth, shared, .call op next⟩ ⟨op, response⟩ ⟨depth + 1, shared, next response⟩
  | unlock {depth : ℕ} {shared : resource.Shared} {op : Op}
      {next : Response op → Program Op Response α} (response : Response op)
      (role : resource.role op = .unlock) :
      Calls ⟨depth, shared, .call op next⟩ ⟨op, response⟩ ⟨depth - 1, shared, next response⟩
  | shared {depth : ℕ} {shared later : resource.Shared} {op : Op}
      {next : Response op → Program Op Response α} {response : Response op}
      (role : resource.role op = .shared) (answers : resource.answers shared op response later) :
      Calls ⟨depth, shared, .call op next⟩ ⟨op, response⟩ ⟨depth, later, next response⟩
  | own {depth : ℕ} {shared : resource.Shared} {op : Op}
      {next : Response op → Program Op Response α} (response : Response op)
      (role : resource.role op = .own) :
      Calls ⟨depth, shared, .call op next⟩ ⟨op, response⟩ ⟨depth, shared, next response⟩

/--
From the shared state the program has taken the lock and made the calls, and it had the
lock all the time before the last one.
-/
inductive Inside (shared : resource.Shared) (program : Program Op Response α) :
    List (Event Op Response) → View resource α → Prop where
  | enter {op : Op} {next : Response op → Program Op Response α} (response : Response op)
      (role : resource.role op = .lock) (calls : program = .call op next) :
      Inside shared program [⟨op, response⟩] ⟨1, shared, next response⟩
  | call {events : List (Event Op Response)} {view later : View resource α}
      {event : Event Op Response} (inside : Inside shared program events view)
      (held : 0 < view.depth) (calls : Calls resource view event later) :
      Inside shared program (events ++ [event]) later

variable {resource}

theorem Disciplined.calls {floor exit : ℕ} {view later : View resource α}
    {event : Event Op Response} (disciplined : Disciplined resource floor exit view.program view.depth)
    (calls : Calls resource view event later) :
    Disciplined resource floor exit later.program later.depth := by
  cases calls with
  | lock response role =>
      simp only [Disciplined, role] at disciplined
      exact disciplined response
  | unlock response role =>
      simp only [Disciplined, role] at disciplined
      exact disciplined.2 response
  | shared role answers =>
      simp only [Disciplined, role] at disciplined
      exact disciplined.2 _
  | own response role =>
      simp only [Disciplined, role] at disciplined
      exact disciplined response

/-- The lock is not released below the floor. -/
theorem Disciplined.floor_le {floor exit : ℕ} {view later : View resource α}
    {event : Event Op Response}
    (disciplined : Disciplined resource floor exit view.program view.depth)
    (calls : Calls resource view event later) (above : floor ≤ view.depth) :
    floor ≤ later.depth := by
  cases calls with
  | lock response role => exact Nat.le_succ_of_le above
  | unlock response role =>
      simp only [Disciplined, role] at disciplined
      exact Nat.le_pred_of_lt disciplined.1
  | shared role answers => exact above
  | own response role => exact above

/-! ## Programs wrapped in the lock -/

/-- The program takes the lock, runs the body, and releases the lock. -/
def wrapped (lock unlock : Op) (body : Program Op Response α) : Program Op Response α :=
  .call lock fun _ => body.bind fun value => .call unlock fun _ => .done value

/-- The body has made the calls, on its own. -/
inductive Alone (first : View resource α) : List (Event Op Response) → View resource α → Prop where
  | start : Alone first [] first
  | call {events : List (Event Op Response)} {view later : View resource α}
      {event : Event Op Response} (alone : Alone first events view)
      (calls : Calls resource view event later) : Alone first (events ++ [event]) later

/-- What a precondition promises holds of the program on its own. -/
theorem Alone.wp {allows : (op : Op) → Response op → Prop}
    {post : α → List (Event Op Response) → Prop} {first view : View resource α}
    {events : List (Event Op Response)} (alone : Alone first events view)
    (holds : first.program.wp allows post)
    (allowed : ∀ event ∈ events, allows event.1 event.2) :
    view.program.wp allows fun value trace => post value (events ++ trace) := by
  induction alone with
  | start => exact holds
  | @call events view later event alone calls ih =>
      rw [List.forall_mem_append, List.forall_mem_singleton] at allowed
      have before := ih allowed.1
      cases calls with
      | lock response role | unlock response role | own response role | shared role answers =>
          apply wp_mono (before _ allowed.2)
          intro value trace holds
          rw [List.append_assoc]
          exact holds

/-- A call of a program that avoids calls, and what is left of the program. -/
theorem Calls.avoids {avoided : Op → Prop} {view later : View resource α}
    {event : Event Op Response} (calls : Calls resource view event later)
    (avoids : Avoids avoided view.program) : Avoids avoided later.program ∧ ¬avoided event.1 := by
  cases calls with
  | lock response role | unlock response role | own response role | shared role answers =>
      exact ⟨avoids.2 _, avoids.1⟩

theorem Alone.avoids {avoided : Op → Prop} {first view : View resource α}
    {events : List (Event Op Response)} (alone : Alone first events view)
    (avoids : Avoids avoided first.program) :
    Avoids avoided view.program ∧ ∀ event ∈ events, ¬avoided event.1 := by
  induction alone with
  | start => exact ⟨avoids, by simp⟩
  | @call events view later event alone calls ih =>
      rcases calls.avoids ih.1 with ⟨rest, allowed⟩
      rw [List.forall_mem_append, List.forall_mem_singleton]
      exact ⟨rest, ih.2, allowed⟩

theorem Inside.avoids {avoided : Op → Prop} {shared : resource.Shared}
    {program : Program Op Response α} {events : List (Event Op Response)} {view : View resource α}
    (inside : Inside resource shared program events view) (avoids : Avoids avoided program) :
    Avoids avoided view.program := by
  induction inside with
  | enter response role calls =>
      subst calls
      exact avoids.2 response
  | call inside held calls ih => exact (calls.avoids ih).1

section Keeps

variable {avoided : Op → Prop} {Part : Type} {part : resource.Shared → Part}
  (kept : ∀ shared op response later, ¬avoided op → resource.answers shared op response later →
    part later = part shared)

include kept

/-- What only avoided calls change. -/
theorem Calls.keeps {view later : View resource α} {event : Event Op Response}
    (calls : Calls resource view event later) (allowed : ¬avoided event.1) :
    part later.shared = part view.shared := by
  cases calls with
  | lock | unlock | own => rfl
  | shared role answers => exact kept _ _ _ _ allowed answers

theorem Inside.keeps {shared : resource.Shared} {program : Program Op Response α}
    {events : List (Event Op Response)} {view : View resource α}
    (inside : Inside resource shared program events view) (avoids : Avoids avoided program) :
    part view.shared = part shared := by
  induction inside with
  | enter => rfl
  | @call events view later event inside held calls ih =>
      have allowed := (calls.avoids (inside.avoids avoids)).2
      rw [calls.keeps kept allowed, ih]

/-- Every call that uses the shared state is answered by a state with the same part. -/
theorem Alone.answered {first view : View resource α} {events : List (Event Op Response)}
    (alone : Alone first events view) (avoids : Avoids avoided first.program) :
    part view.shared = part first.shared ∧
      ∀ event ∈ events, resource.role event.1 = .shared →
        ∃ shared later, part shared = part first.shared ∧
          resource.answers shared event.1 event.2 later := by
  induction alone with
  | start => exact ⟨rfl, by simp⟩
  | @call events view later event alone calls ih =>
      have allowed := (calls.avoids (alone.avoids avoids).1).2
      rw [List.forall_mem_append, List.forall_mem_singleton]
      refine ⟨(calls.keeps kept allowed).trans ih.1, ih.2, fun role => ?_⟩
      cases calls with
      | lock _ other | unlock _ other | own _ other =>
          rw [role] at other
          cases other
      | shared _ answers => exact ⟨_, _, ih.1, answers⟩

end Keeps

section Wrapped

variable {lock unlock : Op} {body : Program Op Response α} {shared : resource.Shared}

theorem Disciplined.wrapped (locks : resource.role lock = .lock)
    (unlocks : resource.role unlock = .unlock) (disciplined : Disciplined resource 1 1 body 1) :
    Disciplined resource 0 0 (wrapped lock unlock body) 0 := by
  simp only [Sections.wrapped, Disciplined, locks]
  intro response
  apply (disciplined.mono (Nat.zero_le 1)).bind
  intro value
  simp only [Disciplined, unlocks]
  simp

/-- A call of a program with something after it is a call of the program. -/
theorem Calls.of_bind {depth : ℕ} {now : resource.Shared} {op : Op}
    {next : Response op → Program Op Response α} {after : α → Program Op Response β}
    {event : Event Op Response} {later : View resource β}
    (calls : Calls resource ⟨depth, now, (Program.call op next).bind after⟩ event later) :
    ∃ rest, later.program = rest.bind after ∧
      Calls resource ⟨depth, now, .call op next⟩ event ⟨later.depth, later.shared, rest⟩ := by
  change Calls resource ⟨depth, now, .call op fun response => (next response).bind after⟩ event
    later at calls
  cases calls with
  | lock response role => exact ⟨next response, rfl, .lock response role⟩
  | unlock response role => exact ⟨next response, rfl, .unlock response role⟩
  | @shared _ _ _ _ _ response role answers => exact ⟨next response, rfl, .shared role answers⟩
  | own response role => exact ⟨next response, rfl, .own response role⟩

/-- How far a wrapped program has come: it is in the body, or it has released the lock. -/
inductive WrappedAt (lock unlock : Op) (body : Program Op Response α) (shared : resource.Shared)
    (events : List (Event Op Response)) (view : View resource α) : Prop where
  | body (response : Response lock) (made : List (Event Op Response))
      (rest : Program Op Response α) (same : events = ⟨lock, response⟩ :: made)
      (program : view.program = rest.bind fun value => .call unlock fun _ => .done value)
      (alone : Alone ⟨1, shared, body⟩ made ⟨view.depth, view.shared, rest⟩)
      (disciplined : Disciplined resource 1 1 rest view.depth) (held : 1 ≤ view.depth)
  | released (response : Response lock) (made : List (Event Op Response))
      (response' : Response unlock) (value : α)
      (same : events = ⟨lock, response⟩ :: made ++ [⟨unlock, response'⟩])
      (program : view.program = .done value) (depth : view.depth = 0)
      (alone : Alone ⟨1, shared, body⟩ made ⟨1, view.shared, .done value⟩)

theorem WrappedAt.of_inside (unlocks : resource.role unlock = .unlock)
    (disciplined : Disciplined resource 1 1 body 1) {events : List (Event Op Response)}
    {view : View resource α} (inside : Inside resource shared (wrapped lock unlock body) events view) :
    WrappedAt lock unlock body shared events view := by
  induction inside with
  | enter response role calls =>
      simp only [Sections.wrapped, Program.call.injEq] at calls
      rcases calls with ⟨rfl, next⟩
      rw [← eq_of_heq next]
      exact .body response [] body rfl rfl .start disciplined (Nat.le_refl 1)
  | @call events view later event inside held calls ih =>
      rcases view with ⟨depth, now, program⟩
      cases ih with
      | body response made rest same program alone inner above =>
          subst same
          dsimp only at program alone inner above
          subst program
          cases rest with
          | done value =>
              have one : depth = 1 := inner
              subst one
              cases calls with
              | unlock response' role => exact .released response made response' value rfl rfl rfl alone
              | lock response' role | shared role answers | own response' role =>
                  rw [unlocks] at role
                  cases role
          | call op next =>
              rcases calls.of_bind with ⟨rest', program, made'⟩
              let before : View resource α := ⟨depth, now, .call op next⟩
              let after : View resource α := ⟨later.depth, later.shared, rest'⟩
              have moves : Calls resource before event after := made'
              have innerBefore : Disciplined resource 1 1 before.program before.depth := inner
              have keeps : 1 ≤ after.depth := innerBefore.floor_le moves above
              exact .body response (made ++ [event]) rest' rfl program (alone.call made')
                (innerBefore.calls moves) keeps
      | released response made response' value same program depth alone =>
          exact absurd depth (Nat.ne_of_gt held)

/-- A section of a wrapped program is the whole of it, and the body runs on its own. -/
theorem Inside.wrapped (unlocks : resource.role unlock = .unlock)
    (disciplined : Disciplined resource 1 1 body 1) {events : List (Event Op Response)}
    {last : resource.Shared} {rest : Program Op Response α}
    (inside : Inside resource shared (wrapped lock unlock body) events ⟨0, last, rest⟩) :
    ∃ response made response' value, rest = .done value ∧
      events = ⟨lock, response⟩ :: made ++ [⟨unlock, response'⟩] ∧
      Alone ⟨1, shared, body⟩ made ⟨1, last, .done value⟩ := by
  cases WrappedAt.of_inside unlocks disciplined inside with
  | body response made rest same program alone inner above =>
      exact absurd above (Nat.not_succ_le_zero 0)
  | released response made response' value same program depth alone =>
      exact ⟨response, made, response', value, program, same, alone⟩

end Wrapped

/-! ## Systems of threads -/

/-- What a thread does: it starts a program, makes a call, or returns. -/
inductive Activity (Op : Type) (Response : Op → Type) (α : Type) where
  | started (job : Program Op Response α)
  | called (event : Event Op Response)
  | returned (value : α)

variable {Thread : Type}

structure State (resource : Resource Op Response) (α Thread : Type) where
  shared : resource.Shared
  depth : Thread → ℕ
  control : Thread → Option (Program Op Response α)

/-- A state between two sections. -/
structure AtomicState (resource : Resource Op Response) (α Thread : Type) where
  shared : resource.Shared
  control : Thread → Option (Program Op Response α)

/-- All threads idle, and the lock free. -/
def State.initial (shared : resource.Shared) : State resource α Thread where
  shared := shared
  depth := fun _ => 0
  control := fun _ => none

def AtomicState.initial (shared : resource.Shared) : AtomicState resource α Thread where
  shared := shared
  control := fun _ => none

abbrev Label (Thread Op : Type) (Response : Op → Type) (α : Type) :=
  Thread × List (Activity Op Response α)

variable [DecidableEq Thread]

/-- One thread does one thing; it takes the lock only while no other thread has it. -/
inductive Step (jobs : Program Op Response α → Prop) :
    State resource α Thread → Label Thread Op Response α → State resource α Thread → Prop where
  | start {state : State resource α Thread} {thread : Thread} {job : Program Op Response α}
      (idle : state.control thread = none) (mem : jobs job) :
      Step jobs state (thread, [.started job])
        { state with control := Function.update state.control thread (some job) }
  | finish {state : State resource α Thread} {thread : Thread} {value : α}
      (done : state.control thread = some (.done value)) :
      Step jobs state (thread, [.returned value])
        { state with control := Function.update state.control thread none }
  | call {state : State resource α Thread} {thread : Thread} {program : Program Op Response α}
      {event : Event Op Response} {later : View resource α}
      (running : state.control thread = some program)
      (calls : Calls resource ⟨state.depth thread, state.shared, program⟩ event later)
      (free : resource.role event.1 = .lock → ∀ other, other ≠ thread → state.depth other = 0) :
      Step jobs state (thread, [.called event])
        { shared := later.shared
          depth := Function.update state.depth thread later.depth
          control := Function.update state.control thread (some later.program) }

/-- One thread does one thing, which may be a whole section. -/
inductive AtomicStep (jobs : Program Op Response α → Prop) :
    AtomicState resource α Thread → Label Thread Op Response α →
      AtomicState resource α Thread → Prop where
  | start {state : AtomicState resource α Thread} {thread : Thread}
      {job : Program Op Response α} (idle : state.control thread = none) (mem : jobs job) :
      AtomicStep jobs state (thread, [.started job])
        { state with control := Function.update state.control thread (some job) }
  | finish {state : AtomicState resource α Thread} {thread : Thread} {value : α}
      (done : state.control thread = some (.done value)) :
      AtomicStep jobs state (thread, [.returned value])
        { state with control := Function.update state.control thread none }
  | own {state : AtomicState resource α Thread} {thread : Thread} {op : Op}
      {next : Response op → Program Op Response α} (response : Response op)
      (running : state.control thread = some (.call op next))
      (role : resource.role op = .own) :
      AtomicStep jobs state (thread, [.called ⟨op, response⟩])
        { state with control := Function.update state.control thread (some (next response)) }
  | atOnce {state : AtomicState resource α Thread} {thread : Thread}
      {program rest : Program Op Response α} {events : List (Event Op Response)}
      {shared : resource.Shared} (running : state.control thread = some program)
      (inside : Inside resource state.shared program events ⟨0, shared, rest⟩) :
      AtomicStep jobs state (thread, events.map .called)
        { shared, control := Function.update state.control thread (some rest) }

/-- A thread that is about to run a wrapped program makes one section of it. -/
theorem AtomicStep.of_wrapped {jobs : Program Op Response α → Prop} {lock unlock : Op}
    {body : Program Op Response α} {state later : AtomicState resource α Thread}
    {label : Label Thread Op Response α} (locks : resource.role lock = .lock)
    (running : state.control label.1 = some (wrapped lock unlock body))
    (step : AtomicStep jobs state label later) :
    ∃ events rest, label.2 = events.map .called ∧ later.control label.1 = some rest ∧
      Inside resource state.shared (wrapped lock unlock body) events ⟨0, later.shared, rest⟩ := by
  cases step with
  | start idle mem =>
      rw [idle] at running
      cases running
  | finish done =>
      rw [done, Option.some.injEq] at running
      cases running
  | own response calls role =>
      rw [calls, Option.some.injEq] at running
      cases running
      rw [locks] at role
      cases role
  | @atOnce thread program rest events shared begun inside =>
      rw [begun, Option.some.injEq] at running
      subst running
      exact ⟨events, rest, rfl, Function.update_self thread (some rest) state.control, inside⟩

/-! ## What has been done -/

section Done

variable {System : Type}

/-- What one thread has done. -/
def activities (thread : Thread)
    (taken : List (Taken System (Label Thread Op Response α))) : List (Activity Op Response α) :=
  taken.flatMap fun transition =>
    if transition.label.1 = thread then transition.label.2 else []

theorem activities_snoc (thread mover : Thread)
    (taken : List (Taken System (Label Thread Op Response α))) (before after : System)
    (done : List (Activity Op Response α)) :
    activities thread (taken ++ [⟨before, (mover, done), after⟩]) =
      activities thread taken ++ if mover = thread then done else [] := by
  simp [activities]

omit [DecidableEq Thread]

variable (resource)

def sharedCall : Activity Op Response α → Option (Event Op Response)
  | .called event => if resource.role event.1 = .shared then some event else none
  | .started _ | .returned _ => none

/-- The calls of a label that use the shared state, with their thread. -/
def sharedOf (label : Label Thread Op Response α) : List (Thread × Event Op Response) :=
  (label.2.filterMap (sharedCall resource)).map (Prod.mk label.1)

/-- The calls that have used the shared state, in order. -/
def sharedCalls (taken : List (Taken System (Label Thread Op Response α))) :
    List (Thread × Event Op Response) :=
  taken.flatMap fun transition => sharedOf resource transition.label

theorem sharedCalls_snoc (taken : List (Taken System (Label Thread Op Response α)))
    (before after : System) (label : Label Thread Op Response α) :
    sharedCalls resource (taken ++ [⟨before, label, after⟩]) =
      sharedCalls resource taken ++ sharedOf resource label := by
  simp [sharedCalls]

theorem sharedOf_append (thread : Thread) (first second : List (Activity Op Response α)) :
    sharedOf resource (thread, first ++ second) =
      sharedOf resource (thread, first) ++ sharedOf resource (thread, second) := by
  simp [sharedOf]

theorem sharedOf_call_of_ne (thread : Thread) {event : Event Op Response}
    (other : resource.role event.1 ≠ .shared) :
    sharedOf resource (thread, ([.called event] : List (Activity Op Response α))) = [] := by
  simp [sharedOf, sharedCall, other]

end Done

/-! ## The simulation -/

/--
The threads have done `taken`, and the atomic system `sections`: the same but for the
section of the thread that has the lock, which is still to come.
-/
structure Matches (taken : List (Taken (State resource α Thread) (Label Thread Op Response α)))
    (state : State resource α Thread)
    (sections : List (Taken (AtomicState resource α Thread) (Label Thread Op Response α)))
    (atomic : AtomicState resource α Thread) : Prop where
  exclusive : ∀ left right, 0 < state.depth left → 0 < state.depth right → left = right
  disciplined : ∀ thread program, state.control thread = some program →
    Disciplined resource 0 0 program (state.depth thread)
  idle : ∀ thread, state.control thread = none → state.depth thread = 0
  outside : ∀ thread, state.depth thread = 0 →
    atomic.control thread = state.control thread ∧
      activities thread sections = activities thread taken
  free : (∀ thread, state.depth thread = 0) →
    atomic.shared = state.shared ∧ sharedCalls resource sections = sharedCalls resource taken
  inside : ∀ thread rest, 0 < state.depth thread → state.control thread = some rest →
    ∃ begun events, atomic.control thread = some begun ∧
      Inside resource atomic.shared begun events ⟨state.depth thread, state.shared, rest⟩ ∧
      activities thread taken = activities thread sections ++ events.map .called ∧
      sharedCalls resource taken =
        sharedCalls resource sections ++
          sharedOf resource (thread, (events.map .called : List (Activity Op Response α)))

section Simulation

variable {jobs : Program Op Response α → Prop}
  {taken : List (Taken (State resource α Thread) (Label Thread Op Response α))}
  {state : State resource α Thread}
  {sections : List (Taken (AtomicState resource α Thread) (Label Thread Op Response α))}
  {atomic : AtomicState resource α Thread} {thread : Thread}

theorem Matches.initial (shared : resource.Shared) :
    Matches [] (State.initial shared : State resource α Thread) [] (.initial shared) where
  exclusive left right inside _ := absurd inside (Nat.lt_irrefl 0)
  disciplined thread program running := by cases running
  idle _ _ := rfl
  outside _ _ := ⟨rfl, rfl⟩
  free _ := ⟨rfl, rfl⟩
  inside thread rest inside _ := absurd inside (Nat.lt_irrefl 0)

/-- Only one thread has the lock. -/
theorem Matches.depth_eq_zero (related : Matches taken state sections atomic)
    (held : 0 < state.depth thread) {other : Thread} (different : other ≠ thread) :
    state.depth other = 0 := by
  by_contra inside
  exact different (related.exclusive other thread (Nat.pos_of_ne_zero inside) held)

omit [DecidableEq Thread] in
theorem eq_of_others {depth : Thread → ℕ} (others : ∀ other, other ≠ thread → depth other = 0)
    {holder : Thread} (held : 0 < depth holder) : holder = thread := by
  by_contra different
  exact absurd (others holder different) (Nat.ne_of_gt held)

/-- The thread that has moved is as disciplined as it was, and so are the others. -/
theorem Matches.disciplined_update (related : Matches taken state sections atomic)
    {rest : Program Op Response α} {depth : ℕ} (next : Disciplined resource 0 0 rest depth)
    {other : Thread} {program : Program Op Response α}
    (running : Function.update state.control thread (some rest) other = some program) :
    Disciplined resource 0 0 program (Function.update state.depth thread depth other) := by
  by_cases same : other = thread
  · subst same
    rw [Function.update_self, Option.some.injEq] at running
    rw [Function.update_self, ← running]
    exact next
  · rw [Function.update_of_ne same] at running ⊢
    exact related.disciplined other program running

/-- A step without the lock, of both systems. -/
theorem Matches.outsideStep (related : Matches taken state sections atomic)
    (without : state.depth thread = 0) {control : Option (Program Op Response α)}
    (disciplined : ∀ program, control = some program → Disciplined resource 0 0 program 0)
    {done : List (Activity Op Response α)} (unshared : sharedOf resource (thread, done) = []) :
    let later := { state with control := Function.update state.control thread control }
    let atomicLater := { atomic with control := Function.update atomic.control thread control }
    Matches (taken ++ [⟨state, (thread, done), later⟩]) later
      (sections ++ [⟨atomic, (thread, done), atomicLater⟩]) atomicLater := by
  intro later atomicLater
  refine
    { exclusive := related.exclusive
      disciplined := ?_, idle := ?_, outside := ?_, free := ?_, inside := ?_ }
  · intro other program running
    by_cases same : other = thread
    · subst same
      simp only [later, Function.update_self] at running
      change Disciplined resource 0 0 program (state.depth other)
      rw [without]
      exact disciplined program running
    · simp only [later, Function.update_of_ne same] at running
      exact related.disciplined other program running
  · intro other stopped
    by_cases same : other = thread
    · subst same
      exact without
    · simp only [later, Function.update_of_ne same] at stopped
      exact related.idle other stopped
  · intro other outside
    have before := related.outside other outside
    simp only [activities_snoc, before.2, and_true]
    by_cases same : other = thread
    · subst same
      simp [later, atomicLater]
    · simp only [later, atomicLater, Function.update_of_ne same]
      exact before.1
  · intro outside
    have before := related.free outside
    simp only [sharedCalls_snoc, before.2, and_true]
    exact before.1
  · intro other rest held running
    have different : other ≠ thread := by
      rintro rfl
      exact absurd without (Nat.ne_of_gt held)
    simp only [later, Function.update_of_ne different] at running
    rcases related.inside other rest held running with ⟨begun, events, control, inside, did, used⟩
    refine ⟨begun, events, ?_, inside, ?_, ?_⟩
    · simp only [atomicLater, Function.update_of_ne different]
      exact control
    · simp [activities_snoc, did, Ne.symm different]
    · simp [sharedCalls_snoc, used, unshared]

/-- A thread takes the lock, and the atomic system waits. -/
theorem Matches.enter (related : Matches taken state sections atomic)
    (free : ∀ other, state.depth other = 0) {op : Op} {next : Response op → Program Op Response α}
    (running : state.control thread = some (.call op next)) (role : resource.role op = .lock)
    (response : Response op) :
    let later : State resource α Thread :=
      { state with
        depth := Function.update state.depth thread 1
        control := Function.update state.control thread (some (next response)) }
    Matches (taken ++ [⟨state, (thread, [.called ⟨op, response⟩]), later⟩]) later sections
      atomic := by
  intro later
  have unshared : resource.role op ≠ .shared := by simp [role]
  have others : ∀ other, other ≠ thread → later.depth other = 0 := by
    intro other different
    simpa only [later, Function.update_of_ne different] using free other
  have waits := related.outside thread (free thread)
  have starts := related.disciplined thread _ running
  simp only [Disciplined, role, free thread] at starts
  refine
    { exclusive := ?_, disciplined := ?_, idle := ?_, outside := ?_, free := ?_, inside := ?_ }
  · exact fun left right leftHeld rightHeld =>
      (eq_of_others others leftHeld).trans (eq_of_others others rightHeld).symm
  · exact fun _ _ => related.disciplined_update (starts response)
  · intro other stopped
    by_cases same : other = thread
    · subst same
      simp [later] at stopped
    · exact others other same
  · intro other outside
    have different : other ≠ thread := by
      rintro rfl
      simp [later] at outside
    have before := related.outside other (free other)
    simp only [later, Function.update_of_ne different, activities_snoc, Ne.symm different, if_false,
      List.append_nil]
    exact before
  · intro outside
    have taken := outside thread
    simp [later] at taken
  · intro other rest held runs
    have same := eq_of_others others held
    subst same
    simp only [later, Function.update_self, Option.some.injEq] at runs ⊢
    subst runs
    have before := related.free free
    refine ⟨.call op next, [⟨op, response⟩], ?_, ?_, ?_, ?_⟩
    · rw [waits.1, running]
    · rw [before.1]
      exact .enter response role rfl
    · simp [activities_snoc, waits.2]
    · simp [sharedCalls_snoc, before.2]

/-- A thread that has the lock makes a call and keeps the lock. -/
theorem Matches.within (related : Matches taken state sections atomic)
    {program : Program Op Response α} (running : state.control thread = some program)
    (held : 0 < state.depth thread) {event : Event Op Response} {view : View resource α}
    (calls : Calls resource ⟨state.depth thread, state.shared, program⟩ event view)
    (keeps : 0 < view.depth) :
    let later : State resource α Thread :=
      { shared := view.shared
        depth := Function.update state.depth thread view.depth
        control := Function.update state.control thread (some view.program) }
    Matches (taken ++ [⟨state, (thread, [.called event]), later⟩]) later sections atomic := by
  intro later
  have others : ∀ other, other ≠ thread → later.depth other = 0 := by
    intro other different
    simpa only [later, Function.update_of_ne different] using related.depth_eq_zero held different
  have next := (related.disciplined thread program running).calls calls
  refine
    { exclusive := ?_, disciplined := ?_, idle := ?_, outside := ?_, free := ?_, inside := ?_ }
  · exact fun left right leftHeld rightHeld =>
      (eq_of_others others leftHeld).trans (eq_of_others others rightHeld).symm
  · exact fun _ _ => related.disciplined_update next
  · intro other stopped
    by_cases same : other = thread
    · subst same
      simp [later] at stopped
    · exact others other same
  · intro other outside
    have different : other ≠ thread := by
      rintro rfl
      simp only [later, Function.update_self] at outside
      omega
    have before := related.outside other (related.depth_eq_zero held different)
    simp only [later, Function.update_of_ne different, activities_snoc, Ne.symm different, if_false,
      List.append_nil]
    exact before
  · intro outside
    have taken := outside thread
    simp only [later, Function.update_self] at taken
    omega
  · intro other rest inside runs
    have same := eq_of_others others inside
    subst same
    simp only [later, Function.update_self, Option.some.injEq] at runs ⊢
    subst runs
    rcases related.inside other program held running with ⟨begun, events, control, path, did, used⟩
    refine ⟨begun, events ++ [event], control, path.call held calls, ?_, ?_⟩
    · simp [activities_snoc, did]
    · rw [sharedCalls_snoc, used, List.map_append, sharedOf_append, List.append_assoc]
      rfl

/-- A thread releases the lock, and the atomic system makes the whole section. -/
theorem Matches.leave (related : Matches taken state sections atomic)
    {program : Program Op Response α} (running : state.control thread = some program)
    (held : 0 < state.depth thread) {event : Event Op Response} {shared : resource.Shared}
    {rest : Program Op Response α}
    (calls : Calls resource ⟨state.depth thread, state.shared, program⟩ event ⟨0, shared, rest⟩) :
    let later : State resource α Thread :=
      { shared
        depth := Function.update state.depth thread 0
        control := Function.update state.control thread (some rest) }
    ∃ done atomicLater, AtomicStep jobs atomic (thread, done) atomicLater ∧
      Matches (taken ++ [⟨state, (thread, [.called event]), later⟩]) later
        (sections ++ [⟨atomic, (thread, done), atomicLater⟩]) atomicLater := by
  intro later
  rcases related.inside thread program held running with ⟨begun, events, control, path, did, used⟩
  have whole : Inside resource atomic.shared begun (events ++ [event]) ⟨0, shared, rest⟩ :=
    path.call held calls
  have next := (related.disciplined thread program running).calls calls
  have free : ∀ other, later.depth other = 0 := by
    intro other
    by_cases same : other = thread
    · subst same
      simp [later]
    · simpa only [later, Function.update_of_ne same] using related.depth_eq_zero held same
  refine ⟨_, _, .atOnce control whole, ?_⟩
  refine
    { exclusive := ?_, disciplined := ?_, idle := ?_, outside := ?_, free := ?_, inside := ?_ }
  · intro left right leftHeld
    exact absurd (free left) (Nat.ne_of_gt leftHeld)
  · exact fun _ _ => related.disciplined_update next
  · intro other _
    exact free other
  · intro other _
    by_cases same : other = thread
    · subst same
      simp [later, activities_snoc, did]
    · have before := related.outside other (related.depth_eq_zero held same)
      simp only [later, Function.update_of_ne same, activities_snoc, Ne.symm same, if_false,
        List.append_nil]
      exact before
  · intro _
    refine ⟨rfl, ?_⟩
    rw [sharedCalls_snoc, sharedCalls_snoc, used, List.map_append, sharedOf_append,
      List.append_assoc]
    rfl
  · intro other rest inside
    exact absurd (free other) (Nat.ne_of_gt inside)

/-- The step lemma: the atomic system makes a step of its own, or waits. -/
theorem Matches.step (guarded : ∀ job, jobs job → Disciplined resource 0 0 job 0)
    (related : Matches taken state sections atomic) {label : Label Thread Op Response α}
    {later : State resource α Thread} (step : Step jobs state label later) :
    (∃ done atomicLater, AtomicStep jobs atomic (label.1, done) atomicLater ∧
      Matches (taken ++ [⟨state, label, later⟩]) later
        (sections ++ [⟨atomic, (label.1, done), atomicLater⟩]) atomicLater) ∨
      Matches (taken ++ [⟨state, label, later⟩]) later sections atomic := by
  cases step with
  | @start thread job idle mem =>
      have without := related.idle thread idle
      refine Or.inl ⟨_, _, .start ?_ mem, related.outsideStep without ?_ rfl⟩
      · rw [(related.outside thread without).1, idle]
      · intro program same
        rw [← Option.some.inj same]
        exact guarded job mem
  | @finish thread value done =>
      have without : state.depth thread = 0 := related.disciplined thread _ done
      refine Or.inl ⟨_, _, .finish ?_, related.outsideStep without ?_ rfl⟩
      · rw [(related.outside thread without).1, done]
      · intro program impossible
        cases impossible
  | @call thread program event view running calls free =>
      by_cases without : state.depth thread = 0
      · -- a disciplined program without the lock takes it or makes a call of its own
        have disciplined := related.disciplined thread program running
        rw [without] at disciplined
        cases calls with
        | lock response role =>
            have alone : ∀ other, state.depth other = 0 := by
              intro other
              by_cases same : other = thread
              · rw [same]
                exact without
              · exact free role other same
            right
            rw [without]
            exact related.enter alone running role response
        | unlock response role =>
            simp only [Disciplined, role] at disciplined
            exact absurd disciplined.1 (Nat.lt_irrefl 0)
        | shared role answers =>
            simp only [Disciplined, role] at disciplined
            exact absurd disciplined.1 (Nat.lt_irrefl 0)
        | @own _ _ op next response role =>
            simp only [Disciplined, role] at disciplined
            rw [Function.update_eq_self]
            refine Or.inl ⟨_, _, .own response ?_ role, related.outsideStep without ?_ ?_⟩
            · rw [(related.outside thread without).1, running]
            · intro program same
              rw [← Option.some.inj same]
              exact disciplined response
            · exact sharedOf_call_of_ne resource thread (by simp [role])
      · have held := Nat.pos_of_ne_zero without
        by_cases keeps : 0 < view.depth
        · exact Or.inr (related.within running held calls keeps)
        · rcases view with ⟨depth, shared, rest⟩
          have released : depth = 0 := Nat.eq_zero_of_not_pos keeps
          subst released
          exact Or.inl (related.leave running held calls)

/-- The run lemma. -/
theorem Matches.run (guarded : ∀ job, jobs job → Disciplined resource 0 0 job 0)
    {shared : resource.Shared} (run : Run (Step jobs) (State.initial shared) taken state) :
    ∃ sections atomic, Run (AtomicStep jobs) (.initial shared) sections atomic ∧
      Matches taken state sections atomic := by
  have invariant := @Run.invariant_taken _ _ (Step jobs) (State.initial shared) state taken
    fun taken state => ∃ sections atomic, Run (AtomicStep jobs) (.initial shared) sections atomic ∧
      Matches taken state sections atomic
  apply invariant ⟨[], _, .start, .initial shared⟩ _ run
  rintro earlier before label after ⟨sections, atomic, atomicRun, related⟩ step
  rcases related.step guarded step with ⟨done, atomicLater, moves, matched⟩ | matched
  · exact ⟨_, _, atomicRun.next moves, matched⟩
  · exact ⟨_, _, atomicRun, matched⟩

end Simulation

/--
What threads do one call at a time is done by sections: to the same shared state, with
the same calls and answers of each thread, and with the calls that use the shared state
in the same order.
-/
structure Serializes (taken : List (Taken (State resource α Thread) (Label Thread Op Response α)))
    (last : State resource α Thread)
    (sections : List (Taken (AtomicState resource α Thread) (Label Thread Op Response α)))
    (atomic : AtomicState resource α Thread) : Prop where
  shared : atomic.shared = last.shared
  control : atomic.control = last.control
  activities : ∀ thread, activities thread sections = activities thread taken
  calls : sharedCalls resource sections = sharedCalls resource taken

/-- Whatever the threads do one call at a time, they can do one section at a time. -/
theorem serializable {jobs : Program Op Response α → Prop}
    (guarded : ∀ job, jobs job → Disciplined resource 0 0 job 0) {shared : resource.Shared}
    {taken : List (Taken (State resource α Thread) (Label Thread Op Response α))}
    {last : State resource α Thread} (run : Run (Step jobs) (State.initial shared) taken last)
    (free : ∀ thread, last.depth thread = 0) :
    ∃ sections atomic, Run (AtomicStep jobs) (.initial shared) sections atomic ∧
      Serializes taken last sections atomic := by
  rcases Matches.run guarded run with ⟨sections, atomic, atomicRun, related⟩
  refine ⟨sections, atomic, atomicRun, (related.free free).1, ?_, ?_, (related.free free).2⟩
  · funext thread
    exact (related.outside thread (free thread)).1
  · exact fun thread => (related.outside thread (free thread)).2

/-! ## One thread alone -/

/-- A world whose answers are those of the shared state. -/
structure Realizes (respond : resource.Shared → (op : Op) → Response op × resource.Shared) :
    Prop where
  answers : ∀ shared op, resource.role op = .shared →
    resource.answers shared op (respond shared op).1 (respond shared op).2
  keeps : ∀ shared op, resource.role op ≠ .shared → (respond shared op).2 = shared

section Realizes

variable {respond : resource.Shared → (op : Op) → Response op × resource.Shared}

/-- The next call of a thread, answered by the world. -/
theorem Realizes.calls (realizes : Realizes respond) (depth : ℕ) (shared : resource.Shared)
    (op : Op) (next : Response op → Program Op Response α) :
    ∃ later, Calls resource ⟨depth, shared, .call op next⟩ ⟨op, (respond shared op).1⟩
      ⟨later, (respond shared op).2, next (respond shared op).1⟩ := by
  cases role : resource.role op with
  | lock =>
      rw [realizes.keeps shared op (by simp [role])]
      exact ⟨_, .lock _ role⟩
  | unlock =>
      rw [realizes.keeps shared op (by simp [role])]
      exact ⟨_, .unlock _ role⟩
  | shared => exact ⟨_, .shared role (realizes.answers shared op role)⟩
  | own =>
      rw [realizes.keeps shared op (by simp [role])]
      exact ⟨_, .own _ role⟩

/-- A thread that no other interrupts does what the run of its program in the world does. -/
theorem Realizes.alone {jobs : Program Op Response α → Prop} (realizes : Realizes respond)
    {first : State resource α Thread} {thread : Thread} {program : Program Op Response α}
    (running : first.control thread = some program)
    (others : ∀ other, other ≠ thread → first.depth other = 0)
    (disciplined : Disciplined resource 0 0 program (first.depth thread)) :
    ∃ taken last, Run (Step jobs) first taken last ∧ (∀ other, last.depth other = 0) ∧
      last.shared = (program.run ⟨resource.Shared, respond⟩ first.shared).state ∧
      last.control thread =
        some (.done (program.run ⟨resource.Shared, respond⟩ first.shared).value) ∧
      ∀ other, other ≠ thread → last.control other = first.control other := by
  induction program generalizing first with
  | done value =>
      refine ⟨[], first, .start, ?_, rfl, running, fun _ _ => rfl⟩
      intro other
      by_cases same : other = thread
      · rw [same]
        exact disciplined
      · exact others other same
  | call op next ih =>
      rcases realizes.calls (first.depth thread) first.shared op next with ⟨depth, calls⟩
      have step : Step jobs first _ _ := .call running calls fun _ => others
      let middle : State resource α Thread :=
        { shared := (respond first.shared op).2
          depth := Function.update first.depth thread depth
          control := Function.update first.control thread
            (some (next (respond first.shared op).1)) }
      have rest : ∀ other, other ≠ thread → middle.depth other = 0 := by
        intro other different
        simpa only [middle, Function.update_of_ne different] using others other different
      have kept : Disciplined resource 0 0 (next (respond first.shared op).1)
          (middle.depth thread) := by
        simpa only [middle, Function.update_self] using disciplined.calls calls
      rcases ih _ (Function.update_self ..) rest kept with
        ⟨taken, last, run, free, shared, ends, same⟩
      refine ⟨_ :: taken, last, run.cons step, free, shared, ends, ?_⟩
      intro other different
      rw [same other different]
      exact Function.update_of_ne different _ _

end Realizes

end Sections
