import Mathlib.Data.List.Basic

/-!
# Procedures that return early and can fault

A procedure reads and changes a state. It may return before its end, with a result of
its own, and it may do what it must never do, which is a fault. `eval` runs it; the
equations of `eval` execute a procedure step by step, and `Faultless` composes along
its structure.
-/

/-- The monad of procedures: `throw` returns early. -/
abbrev Procedure (Fault State Return α : Type) := ExceptT Return (StateT State (Except Fault)) α

namespace Procedure

variable {Fault State Return Caller α β : Type}

def fault (what : Fault) : Procedure Fault State Return α := fun _ => .error what

def modifyState (change : State → State) : Procedure Fault State Return Unit :=
  fun state => .ok (.ok (), change state)

/-- Look at the state. -/
def ask (question : State → α) : Procedure Fault State Return α :=
  fun state => .ok (.ok (question state), state)

/-- Call a procedure; what it returns early is its result all the same. -/
def call (procedure : Procedure Fault State Return Return) :
    Procedure Fault State Caller Return :=
  fun state =>
    match procedure state with
    | .error what => .error what
    | .ok (.error result, after) | .ok (.ok result, after) => .ok (.ok result, after)

/-- The fault, or the early return or value with the state after it. -/
def eval (procedure : Procedure Fault State Return α) (state : State) :
    Except Fault (Except Return α × State) := procedure state

section Eval

variable {procedure : Procedure Fault State Return α} {state : State}

@[simp]
theorem eval_pure (value : α) :
    eval (pure value : Procedure Fault State Return α) state = .ok (.ok value, state) := rfl

@[simp]
theorem eval_throw (result : Return) :
    eval (throw result : Procedure Fault State Return α) state = .ok (.error result, state) := rfl

@[simp]
theorem eval_fault (what : Fault) :
    eval (fault what : Procedure Fault State Return α) state = .error what := rfl

@[simp]
theorem eval_modifyState (change : State → State) :
    eval (modifyState change : Procedure Fault State Return Unit) state =
      .ok (.ok (), change state) := rfl

@[simp]
theorem eval_ask (question : State → α) :
    eval (ask question : Procedure Fault State Return α) state =
      .ok (.ok (question state), state) := rfl

theorem eval_call (called : Procedure Fault State Return Return) :
    eval (call called : Procedure Fault State Caller Return) state =
      match eval called state with
      | .error what => .error what
      | .ok (.error result, after) | .ok (.ok result, after) => .ok (.ok result, after) := rfl

theorem eval_bind (next : α → Procedure Fault State Return β) :
    eval (procedure >>= next) state =
      match eval procedure state with
      | .error what => .error what
      | .ok (.error result, after) => .ok (.error result, after)
      | .ok (.ok value, after) => eval (next value) after := by
  change (StateT.bind procedure _ state : Except Fault _) = _
  simp only [StateT.bind, eval]
  cases procedure state with
  | error what => rfl
  | ok outcome =>
      rcases outcome with ⟨_ | _, after⟩ <;> rfl

theorem eval_bind_ok {value : α} {after : State} (next : α → Procedure Fault State Return β)
    (first : eval procedure state = .ok (.ok value, after)) :
    eval (procedure >>= next) state = eval (next value) after := by
  rw [eval_bind, first]

theorem eval_bind_error {result : Return} {after : State}
    (next : α → Procedure Fault State Return β)
    (first : eval procedure state = .ok (.error result, after)) :
    eval (procedure >>= next) state = .ok (.error result, after) := by
  rw [eval_bind, first]

@[simp]
theorem eval_ite (condition : Prop) [Decidable condition]
    (left right : Procedure Fault State Return α) :
    eval (if condition then left else right) state =
      if condition then eval left state else eval right state := by
  split <;> rfl

end Eval

/-- Started in the state, the procedure does not fault. -/
def FaultlessAt (procedure : Procedure Fault State Return α) (state : State) : Prop :=
  ∃ outcome, eval procedure state = .ok outcome

def Faultless (procedure : Procedure Fault State Return α) : Prop :=
  ∀ state, FaultlessAt procedure state

section Faultless

variable {procedure : Procedure Fault State Return α} {state : State}

@[simp]
theorem faultlessAt_pure (value : α) :
    FaultlessAt (pure value : Procedure Fault State Return α) state := ⟨_, rfl⟩

@[simp]
theorem faultlessAt_throw (result : Return) :
    FaultlessAt (throw result : Procedure Fault State Return α) state := ⟨_, rfl⟩

@[simp]
theorem not_faultlessAt_fault (what : Fault) :
    ¬FaultlessAt (fault what : Procedure Fault State Return α) state := by
  rintro ⟨outcome, ok⟩
  cases ok

@[simp]
theorem faultlessAt_ite (condition : Prop) [Decidable condition]
    (left right : Procedure Fault State Return α) :
    FaultlessAt (if condition then left else right) state ↔
      if condition then FaultlessAt left state else FaultlessAt right state := by
  split <;> rfl

@[simp]
theorem fault_bind (what : Fault) (next : α → Procedure Fault State Return β) :
    (fault what >>= next : Procedure Fault State Return β) = fault what := rfl

theorem faultlessAt_of_ok {outcome : Except Return α × State}
    (ok : eval procedure state = .ok outcome) : FaultlessAt procedure state := ⟨outcome, ok⟩

theorem Faultless.pure (value : α) : Faultless (pure value : Procedure Fault State Return α) :=
  fun _ => ⟨_, rfl⟩

theorem Faultless.throw (result : Return) :
    Faultless (throw result : Procedure Fault State Return α) :=
  fun _ => ⟨_, rfl⟩

theorem Faultless.modifyState (change : State → State) :
    Faultless (modifyState change : Procedure Fault State Return Unit) :=
  fun _ => ⟨_, rfl⟩

theorem Faultless.ask (question : State → α) :
    Faultless (ask question : Procedure Fault State Return α) :=
  fun _ => ⟨_, rfl⟩

theorem faultlessAt_bind_ok {value : α} {after : State} (next : α → Procedure Fault State Return β)
    (first : eval procedure state = .ok (.ok value, after)) :
    FaultlessAt (procedure >>= next) state ↔ FaultlessAt (next value) after := by
  rw [FaultlessAt, FaultlessAt, eval_bind_ok next first]

theorem FaultlessAt.bind {next : α → Procedure Fault State Return β}
    (first : FaultlessAt procedure state) (rest : ∀ value, Faultless (next value)) :
    FaultlessAt (procedure >>= next) state := by
  rcases first with ⟨⟨result | value, after⟩, ok⟩
  · exact faultlessAt_of_ok (eval_bind_error next ok)
  · exact (faultlessAt_bind_ok next ok).mpr (rest value after)

theorem Faultless.bind {next : α → Procedure Fault State Return β} (first : Faultless procedure)
    (rest : ∀ value, Faultless (next value)) : Faultless (procedure >>= next) :=
  fun state => (first state).bind rest

theorem Faultless.map {function : α → β} (first : Faultless procedure) :
    Faultless (function <$> procedure) := by
  rw [map_eq_pure_bind]
  exact first.bind fun value => .pure _

theorem Faultless.call {called : Procedure Fault State Return Return} (first : Faultless called) :
    Faultless (call called : Procedure Fault State Caller Return) := by
  intro state
  rcases first state with ⟨⟨_ | _, after⟩, ok⟩
  · exact ⟨_, by rw [eval_call, ok]⟩
  · exact ⟨_, by rw [eval_call, ok]⟩

end Faultless

/-- Unless the procedure returns early, it leaves the state as it is. -/
def LeavesState (procedure : Procedure Fault State Return α) : Prop :=
  ∀ state value after, eval procedure state = .ok (.ok value, after) → after = state

section LeavesState

variable {procedure : Procedure Fault State Return α}

theorem LeavesState.pure (value : α) :
    LeavesState (pure value : Procedure Fault State Return α) := by
  intro state result after ok
  cases ok
  rfl

theorem LeavesState.fault (what : Fault) :
    LeavesState (fault what : Procedure Fault State Return α) := by
  intro state value after ok
  cases ok

theorem LeavesState.bind {next : α → Procedure Fault State Return β} (first : LeavesState procedure)
    (rest : ∀ value, LeavesState (next value)) : LeavesState (procedure >>= next) := by
  intro state value after ok
  rw [eval_bind] at ok
  split at ok
  · cases ok
  · cases ok
  · rename_i middle between reached
    have same := first _ _ _ reached
    subst same
    exact rest middle _ _ _ ok

end LeavesState

/-- Whatever comes of the procedure, it takes the state along the relation. -/
def MovesAlong (relation : State → State → Prop) (procedure : Procedure Fault State Return α) :
    Prop :=
  ∀ state outcome after, eval procedure state = .ok (outcome, after) → relation state after

section MovesAlong

variable {procedure : Procedure Fault State Return α} {relation : State → State → Prop}

theorem MovesAlong.fault (what : Fault) :
    MovesAlong relation (fault what : Procedure Fault State Return α) := by
  intro state outcome after ok
  cases ok

theorem MovesAlong.modifyState {change : State → State}
    (moves : ∀ state, relation state (change state)) :
    MovesAlong relation (modifyState change : Procedure Fault State Return Unit) := by
  intro state outcome after ok
  cases ok
  exact moves state

theorem MovesAlong.call {called : Procedure Fault State Return Return}
    (first : MovesAlong relation called) :
    MovesAlong relation (call called : Procedure Fault State Caller Return) := by
  intro state outcome after ok
  rw [eval_call] at ok
  rcases reached : eval called state with what | ⟨_ | _, between⟩
  · rw [reached] at ok
    cases ok
  · rw [reached] at ok
    cases ok
    exact first _ _ _ reached
  · rw [reached] at ok
    cases ok
    exact first _ _ _ reached

variable (reflexive : ∀ state, relation state state)
include reflexive

theorem MovesAlong.pure (value : α) :
    MovesAlong relation (pure value : Procedure Fault State Return α) := by
  intro state outcome after ok
  cases ok
  exact reflexive state

theorem MovesAlong.throw (result : Return) :
    MovesAlong relation (throw result : Procedure Fault State Return α) := by
  intro state outcome after ok
  cases ok
  exact reflexive state

theorem MovesAlong.ask (question : State → α) :
    MovesAlong relation (ask question : Procedure Fault State Return α) := by
  intro state outcome after ok
  cases ok
  exact reflexive state

omit reflexive

/-- A first part may move along a relation that the other one absorbs. -/
theorem MovesAlong.bind_absorbed {quiet : State → State → Prop}
    (early : ∀ first last, quiet first last → relation first last)
    (absorbed : ∀ first middle last, quiet first middle → relation middle last →
      relation first last)
    {next : α → Procedure Fault State Return β} (first : MovesAlong quiet procedure)
    (rest : ∀ value, (∃ state after, eval procedure state = .ok (.ok value, after)) →
      MovesAlong relation (next value)) : MovesAlong relation (procedure >>= next) := by
  intro state outcome after ok
  rw [eval_bind] at ok
  split at ok
  · cases ok
  · rename_i reached
    cases ok
    exact early _ _ (first _ _ _ reached)
  · rename_i value between reached
    exact absorbed _ _ _ (first _ _ _ reached) (rest value ⟨_, _, reached⟩ _ _ _ ok)

/-- The rest has to move along the relation for the values that the first part gives. -/
theorem MovesAlong.bind (transitive : ∀ first middle last, relation first middle →
      relation middle last → relation first last)
    {next : α → Procedure Fault State Return β} (first : MovesAlong relation procedure)
    (rest : ∀ value, (∃ state after, eval procedure state = .ok (.ok value, after)) →
      MovesAlong relation (next value)) : MovesAlong relation (procedure >>= next) :=
  MovesAlong.bind_absorbed (fun _ _ moved => moved) transitive first rest

end MovesAlong

/--
Where the condition holds the procedure returns early, with a result and a state that
`stop` allows; elsewhere it does in this state what the other procedure does.
-/
structure Guards (stop : Return → State → Prop) (state : State) (refused : Prop)
    (procedure next : Procedure Fault State Return α) : Prop where
  stops : refused → ∃ result after, eval procedure state = .ok (.error result, after) ∧
    stop result after
  goesOn : ¬refused → eval procedure state = eval next state

section Guards

variable {stop : Return → State → Prop} {state : State} {refused : Prop}
  {procedure next : Procedure Fault State Return α}

theorem Guards.pass (procedure : Procedure Fault State Return α) :
    Guards stop state False procedure procedure where
  stops impossible := impossible.elim
  goesOn _ := rfl

theorem Guards.ask (question : State → α) :
    Guards stop state False (ask question : Procedure Fault State Return α)
      (pure (question state)) where
  stops impossible := impossible.elim
  goesOn _ := rfl

theorem Guards.of_eval {result : Return} {after : State} (allowed : stop result after)
    (early : eval procedure state = .ok (.error result, after)) :
    Guards stop state True procedure next where
  stops _ := ⟨result, after, early, allowed⟩
  goesOn impossible := absurd trivial impossible

theorem Guards.of_iff {condition : Prop} (guards : Guards stop state refused procedure next)
    (same : condition ↔ refused) : Guards stop state condition procedure next where
  stops holds := guards.stops (same.mp holds)
  goesOn fails := guards.goesOn fun holds => fails (same.mpr holds)

/-- A value that is read without touching the state is passed on to the rest. -/
theorem Guards.bind {value : α} {later : Prop} {rest : α → Procedure Fault State Return β}
    {last : Procedure Fault State Return β}
    (first : Guards stop state refused procedure (pure value))
    (second : Guards stop state later (rest value) last) :
    Guards stop state (refused ∨ later) (procedure >>= rest) last where
  stops := by
    intro either
    by_cases early : refused
    · rcases first.stops early with ⟨result, after, stopped, allowed⟩
      exact ⟨result, after, eval_bind_error rest stopped, allowed⟩
    · rcases second.stops (either.resolve_left early) with ⟨result, after, stopped, allowed⟩
      refine ⟨result, after, ?_, allowed⟩
      rw [eval_bind_ok rest (first.goesOn early), stopped]
  goesOn := by
    intro neither
    rw [eval_bind_ok rest (first.goesOn fun early => neither (.inl early))]
    exact second.goesOn fun late => neither (.inr late)

theorem Guards.map {value : α} (function : α → β)
    (guards : Guards stop state refused procedure (pure value)) :
    Guards stop state refused (function <$> procedure) (pure (function value)) := by
  rw [map_eq_pure_bind]
  exact (guards.bind (Guards.pass _)).of_iff (or_false refused).symm.to_iff

end Guards

end Procedure
