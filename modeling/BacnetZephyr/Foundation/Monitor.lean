import BacnetZephyr.Foundation.Program

/-!
# Monitors of programs

A monitor reads the trace of a program call by call and keeps a state; it has no next
state for a call that breaks the discipline it watches. `Guarded` says that a program
started in a state of the monitor is accepted with any responses, and what is known of
its value and of the state then reached. It composes along the structure of the
program; `Guarded.sound` carries it to the runs in any world.
-/

namespace Program

variable {Op : Type} {Response : Op → Type} {α β State : Type}

abbrev Monitor (Op : Type) (Response : Op → Type) (State : Type) :=
  State → Event Op Response → Option State

namespace Monitor

variable (monitor : Monitor Op Response State)

/-- The state after a trace the monitor accepts. -/
def follow : State → List (Event Op Response) → Option State
  | state, [] => some state
  | state, event :: rest =>
      match monitor state event with
      | none => none
      | some next => follow next rest

variable {monitor} {state last : State}

theorem follow_append_eq_some {first second : List (Event Op Response)} :
    monitor.follow state (first ++ second) = some last ↔
      ∃ middle, monitor.follow state first = some middle ∧
        monitor.follow middle second = some last := by
  induction first generalizing state with
  | nil => simp [follow]
  | cons event rest ih =>
      simp only [List.cons_append, follow]
      cases monitor state event with
      | none => simp
      | some next => exact ih

/-- Every call of an accepted trace is accepted in the state reached by the calls before it. -/
theorem follow_at {before after : List (Event Op Response)} {event : Event Op Response}
    (accepted : monitor.follow state (before ++ event :: after) = some last) :
    ∃ middle next, monitor.follow state before = some middle ∧
      monitor middle event = some next := by
  rcases follow_append_eq_some.mp accepted with ⟨middle, reached, rest⟩
  simp only [follow] at rest
  rcases accepts : monitor middle event with _ | next
  · simp [accepts] at rest
  · exact ⟨middle, next, reached, accepts⟩

end Monitor

/-- Whatever the responses, the monitor accepts the program and the postcondition holds. -/
def Guarded (monitor : Monitor Op Response State) (program : Program Op Response α)
    (state : State) (post : α → State → Prop) : Prop :=
  program.wp (fun _ _ => True) fun value trace =>
    ∃ last, monitor.follow state trace = some last ∧ post value last

namespace Guarded

variable {monitor : Monitor Op Response State} {program : Program Op Response α}
  {state : State} {post : α → State → Prop}

theorem pure {value : α} (holds : post value state) :
    Guarded monitor (pure value) state post :=
  ⟨state, rfl, holds⟩

theorem bind {next : α → Program Op Response β} {post' : β → State → Prop}
    (first : Guarded monitor program state post)
    (rest : ∀ value middle, post value middle → Guarded monitor (next value) middle post') :
    Guarded monitor (program >>= next) state post' := by
  rw [Guarded, wp_bind]
  apply wp_mono first
  rintro value trace ⟨middle, accepted, holds⟩
  apply wp_mono (rest value middle holds)
  rintro value' trace' ⟨last, accepted', holds'⟩
  exact ⟨last, Monitor.follow_append_eq_some.mpr ⟨middle, accepted, accepted'⟩, holds'⟩

theorem perform {op : Op} {post : Response op → State → Prop}
    (accepts : ∀ response, ∃ next, monitor state ⟨op, response⟩ = some next ∧
      post response next) :
    Guarded monitor (Program.perform op) state post := by
  intro response _
  rcases accepts response with ⟨next, accepted, holds⟩
  exact ⟨next, by simp [Monitor.follow, accepted], holds⟩

theorem call {op : Op} {next : Response op → Program Op Response β} {post' : β → State → Prop}
    (accepts : ∀ response, ∃ middle, monitor state ⟨op, response⟩ = some middle ∧
      Guarded monitor (next response) middle post') :
    Guarded monitor (Program.perform op >>= next) state post' :=
  bind (perform accepts) fun _ _ guarded => guarded

/-- Calls that leave the monitor as it is. -/
theorem performAll {ops : List Op}
    (accepts : ∀ op ∈ ops, ∀ response, monitor state ⟨op, response⟩ = some state) :
    Guarded monitor (Program.performAll ops) state fun _ last => last = state := by
  induction ops with
  | nil => exact pure rfl
  | cons op ops ih =>
      rw [List.forall_mem_cons] at accepts
      show Guarded monitor (Program.perform op >>= fun _ => Program.performAll ops) state _
      apply call
      intro response
      exact ⟨state, accepts.1 response, ih accepts.2⟩

/-- A guarded program makes only calls the monitor accepts, if every call has a response. -/
theorem of_call (answered : ∀ op, Nonempty (Response op)) {op : Op}
    {next : Response op → Program Op Response β} {post : β → State → Prop}
    (guarded : Guarded monitor (.call op next) state post) (response : Response op) :
    ∃ middle, monitor state ⟨op, response⟩ = some middle ∧
      Guarded monitor (next response) middle post := by
  have rest := guarded response trivial
  cases accepted : monitor state ⟨op, response⟩ with
  | none =>
      let world : World Op Response :=
        { State := Unit, respond := fun _ op => (Classical.choice (answered op), ()) }
      rcases wp_sound rest world () fun _ _ => trivial with ⟨last, follows, _⟩
      simp [Monitor.follow, accepted] at follows
  | some middle =>
      refine ⟨middle, rfl, wp_mono rest ?_⟩
      rintro value trace ⟨last, follows, holds⟩
      simp only [Monitor.follow, accepted] at follows
      exact ⟨last, follows, holds⟩

/-- In every world the monitor accepts the run. -/
theorem sound (guarded : Guarded monitor program state post) (world : World Op Response)
    (start : world.State) :
    ∃ last, monitor.follow state (program.run world start).trace = some last ∧
      post (program.run world start).value last :=
  wp_sound guarded world start fun _ _ => trivial

end Guarded

end Program
