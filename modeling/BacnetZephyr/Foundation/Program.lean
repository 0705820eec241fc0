import Mathlib.Data.List.Basic

/-!
# Programs that call their surroundings

A program makes calls, each answered by a response whose type depends on the call.
A world answers the calls of a program one after the other; a run in a world has a
value and a trace of the calls with their responses. Programs are well-founded trees,
so every run ends.

`wp` is the weakest precondition under a relation between calls and responses, for
postconditions on the value and the trace. `wp_sound` connects it with the runs whose
trace obeys the relation. `Ensures` is the special case of a program whose observable
calls are fixed; it composes by joining them.
-/

inductive Program (Op : Type) (Response : Op → Type) (α : Type) : Type where
  | done (value : α)
  | call (op : Op) (next : Response op → Program Op Response α)

namespace Program

variable {Op : Type} {Response : Op → Type} {α β γ : Type}

/-- A call together with its response. -/
abbrev Event (Op : Type) (Response : Op → Type) := Σ op : Op, Response op

def bind : Program Op Response α → (α → Program Op Response β) → Program Op Response β
  | done value, next => next value
  | call op rest, next => call op fun response => (rest response).bind next

instance : Monad (Program Op Response) where
  pure := done
  bind := bind

theorem bind_done (program : Program Op Response α) : program.bind done = program := by
  induction program with
  | done value => rfl
  | call op rest ih => exact congrArg (call op) (funext ih)

theorem bind_bind (program : Program Op Response α) (next : α → Program Op Response β)
    (last : β → Program Op Response γ) :
    (program.bind next).bind last = program.bind fun value => (next value).bind last := by
  induction program with
  | done value => rfl
  | call op rest ih => exact congrArg (call op) (funext ih)

instance : LawfulMonad (Program Op Response) :=
  .mk' _ bind_done (fun _ _ => rfl) bind_bind

def perform (op : Op) : Program Op Response (Response op) := call op done

/-- Calls one after the other whose responses are not looked at. -/
def performAll : List Op → Program Op Response Unit
  | [] => done ()
  | op :: ops => call op fun _ => performAll ops

/-- A world that answers calls; its answers may depend on everything before. -/
structure World (Op : Type) (Response : Op → Type) where
  State : Type
  respond : State → (op : Op) → Response op × State

structure Outcome (Op : Type) (Response : Op → Type) (α State : Type) where
  value : α
  trace : List (Event Op Response)
  state : State

def run (world : World Op Response) :
    Program Op Response α → world.State → Outcome Op Response α world.State
  | done value, state => { value, trace := [], state }
  | call op next, state =>
      let (response, state) := world.respond state op
      let outcome := (next response).run world state
      { outcome with trace := ⟨op, response⟩ :: outcome.trace }

/-- A world that gives allowed answers only has allowed traces. -/
theorem mem_trace_allowed {allows : (op : Op) → Response op → Prop} {world : World Op Response}
    (answers : ∀ state op, allows op (world.respond state op).1) (program : Program Op Response α)
    (state : world.State) : ∀ event ∈ (program.run world state).trace, allows event.1 event.2 := by
  induction program generalizing state with
  | done value => simp [run]
  | call op next ih =>
      simp only [run, List.mem_cons, forall_eq_or_imp]
      exact ⟨answers state op, ih _ _⟩

section Wp

variable (allows : (op : Op) → Response op → Prop)

/--
Whatever allowed responses the calls get, the postcondition holds of the value and the
trace.
-/
def wp : Program Op Response α → (α → List (Event Op Response) → Prop) → Prop
  | done value, post => post value []
  | call op next, post =>
      ∀ response, allows op response →
        (next response).wp fun value trace => post value (⟨op, response⟩ :: trace)

variable {allows}

theorem wp_mono {program : Program Op Response α} {post post' : α → List (Event Op Response) → Prop}
    (holds : program.wp allows post)
    (implies : ∀ value trace, post value trace → post' value trace) :
    program.wp allows post' := by
  induction program generalizing post post' with
  | done value => exact implies value [] holds
  | call op next ih =>
      intro response allowed
      exact ih response (holds response allowed) fun value trace => implies value _

theorem wp_bind (program : Program Op Response α) (next : α → Program Op Response β)
    (post : β → List (Event Op Response) → Prop) :
    (program >>= next).wp allows post =
      program.wp allows fun value trace =>
        (next value).wp allows fun value' trace' => post value' (trace ++ trace') := by
  induction program generalizing post with
  | done value => rfl
  | call op rest ih =>
      apply forall_congr
      intro response
      apply congrArg (allows op response → ·)
      exact ih response fun value trace => post value (⟨op, response⟩ :: trace)

/-- What the precondition promises holds of every run with an allowed trace. -/
theorem wp_sound {program : Program Op Response α} {post : α → List (Event Op Response) → Prop}
    (holds : program.wp allows post) (world : World Op Response) (state : world.State)
    (allowed : ∀ event ∈ (program.run world state).trace, allows event.1 event.2) :
    post (program.run world state).value (program.run world state).trace := by
  induction program generalizing post state with
  | done value => exact holds
  | call op next ih =>
      simp only [run, List.mem_cons, forall_eq_or_imp] at allowed ⊢
      exact ih _ (holds _ allowed.1) _ allowed.2

end Wp

section Yields

variable {world : World Op Response} {state : world.State}

theorem run_bind (world : World Op Response) (state : world.State)
    (program : Program Op Response α) (next : α → Program Op Response β) :
    (program >>= next).run world state =
      let first := program.run world state
      let rest := (next first.value).run world first.state
      { rest with trace := first.trace ++ rest.trace } := by
  induction program generalizing state with
  | done value => rfl
  | call op rest ih =>
      have later := ih (world.respond state op).1 (world.respond state op).2
      exact congrArg (fun outcome : Outcome Op Response β world.State =>
        { outcome with trace := ⟨op, (world.respond state op).1⟩ :: outcome.trace }) later

/-- The run in this world from this state ends with the postcondition. -/
def Yields (world : World Op Response) (state : world.State) (program : Program Op Response α)
    (post : α → List (Event Op Response) → world.State → Prop) : Prop :=
  post (program.run world state).value (program.run world state).trace
    (program.run world state).state

variable {program : Program Op Response α}
  {post : α → List (Event Op Response) → world.State → Prop}

theorem Yields.pure {value : α} (holds : post value [] state) :
    Yields world state (pure value) post := holds

theorem Yields.bind {next : α → Program Op Response β}
    {post' : β → List (Event Op Response) → world.State → Prop}
    (first : Yields world state program post)
    (rest : ∀ value trace middle, post value trace middle →
      Yields world middle (next value) fun value' trace' last =>
        post' value' (trace ++ trace') last) :
    Yields world state (program >>= next) post' := by
  rw [Yields, run_bind]
  exact rest _ _ _ first

/-- A call with the answer the world gives in this state. -/
theorem Yields.call {op : Op} {next : Response op → Program Op Response α}
    {response : Response op} {after : world.State}
    (answer : world.respond state op = (response, after))
    (rest : Yields world after (next response) fun value trace last =>
      post value (⟨op, response⟩ :: trace) last) :
    Yields world state (perform op >>= next) post := by
  rw [Yields, run_bind, perform, run]
  simp only [run, answer]
  exact rest

/-- Calls that leave the world as it is. -/
theorem Yields.performAll {ops : List Op}
    (keeps : ∀ op ∈ ops, (world.respond state op).2 = state) :
    Yields world state (performAll ops) fun _ _ last => last = state := by
  induction ops with
  | nil => rfl
  | cons op ops ih =>
      rw [List.forall_mem_cons] at keeps
      show ((Program.performAll ops).run world (world.respond state op).2).state = state
      rw [keeps.1]
      exact ih keeps.2

theorem Yields.mono {post' : α → List (Event Op Response) → world.State → Prop}
    (yields : Yields world state program post)
    (implies : ∀ value trace last, post value trace last → post' value trace last) :
    Yields world state program post' :=
  implies _ _ _ yields

/-- What holds for all responses can be used in one world. -/
theorem Yields.and_wp {always : α → List (Event Op Response) → Prop}
    (yields : Yields world state program post) (holds : program.wp (fun _ _ => True) always) :
    Yields world state program fun value trace last =>
      post value trace last ∧ always value trace :=
  ⟨yields, wp_sound holds world state fun _ _ => trivial⟩

end Yields

section Ensures

variable {Observation : Type}

/--
Whatever allowed responses the calls get, the value is good and the observations of the
trace are the given ones.
-/
def Ensures (allows : (op : Op) → Response op → Prop)
    (observe : Event Op Response → Option Observation) (program : Program Op Response α)
    (good : α → Prop) (observations : List Observation) : Prop :=
  program.wp allows fun value trace => good value ∧ trace.filterMap observe = observations

variable {allows : (op : Op) → Response op → Prop}
  {observe : Event Op Response → Option Observation} {program : Program Op Response α}
  {good : α → Prop} {observations : List Observation}

theorem Ensures.pure {value : α} (holds : good value) :
    Ensures allows observe (pure value) good [] :=
  ⟨holds, rfl⟩

theorem Ensures.bind {next : α → Program Op Response β} {good' : β → Prop}
    {observations' : List Observation} (first : Ensures allows observe program good observations)
    (rest : ∀ value, good value → Ensures allows observe (next value) good' observations') :
    Ensures allows observe (program >>= next) good' (observations ++ observations') := by
  rw [Ensures, wp_bind]
  apply wp_mono first
  rintro value trace ⟨holds, seen⟩
  apply wp_mono (rest value holds)
  rintro value' trace' ⟨holds', seen'⟩
  refine ⟨holds', ?_⟩
  rw [List.filterMap_append, seen, seen']

theorem Ensures.quiet_bind {next : α → Program Op Response β} {good' : β → Prop}
    (first : Ensures allows observe program good [])
    (rest : ∀ value, good value → Ensures allows observe (next value) good' observations) :
    Ensures allows observe (program >>= next) good' observations :=
  first.bind rest

theorem Ensures.bind_quiet {next : α → Program Op Response β} {good' : β → Prop}
    (first : Ensures allows observe program good observations)
    (rest : ∀ value, good value → Ensures allows observe (next value) good' []) :
    Ensures allows observe (program >>= next) good' observations := by
  have joined := first.bind rest
  rw [List.append_nil] at joined
  exact joined

theorem Ensures.observed_bind {next : α → Program Op Response β} {good' : β → Prop}
    {observation : Observation} (first : Ensures allows observe program good [observation])
    (rest : ∀ value, good value → Ensures allows observe (next value) good' observations) :
    Ensures allows observe (program >>= next) good' (observation :: observations) :=
  first.bind rest

theorem Ensures.quiet_call {op : Op} {next : Response op → Program Op Response β}
    {good' : β → Prop} (quiet : ∀ response, observe ⟨op, response⟩ = none)
    (rest : ∀ response, allows op response →
      Ensures allows observe (next response) good' observations) :
    Ensures allows observe (perform op >>= next) good' observations := by
  have first : Ensures allows observe (perform op) (allows op) [] := by
    intro response allowed
    refine ⟨allowed, ?_⟩
    simp [quiet response]
  exact first.quiet_bind rest

theorem Ensures.observed_call {op : Op} {next : Response op → Program Op Response β}
    {good' : β → Prop} {observation : Observation}
    (observed : ∀ response, observe ⟨op, response⟩ = some observation)
    (rest : ∀ response, allows op response →
      Ensures allows observe (next response) good' observations) :
    Ensures allows observe (perform op >>= next) good' (observation :: observations) := by
  have first : Ensures allows observe (perform op) (allows op) [observation] := by
    intro response allowed
    refine ⟨allowed, ?_⟩
    simp [observed response]
  exact first.observed_bind rest

/-- Every run with an allowed trace has a good value and the given observations. -/
theorem Ensures.sound (ensures : Ensures allows observe program good observations)
    (world : World Op Response) (state : world.State)
    (allowed : ∀ event ∈ (program.run world state).trace, allows event.1 event.2) :
    good (program.run world state).value ∧
      (program.run world state).trace.filterMap observe = observations :=
  wp_sound ensures world state allowed

end Ensures

end Program
