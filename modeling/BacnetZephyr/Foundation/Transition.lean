import Mathlib.Data.List.Basic

/-!
# Runs of labelled transition systems

A run lists the transitions it takes, each with the states before and after it.
`Run.invariant` carries an invariant of the steps to a whole run. `Run.forall_iff`
is for a property of single transitions that holds under a condition known before
the step: once the two agree wherever the invariant holds, the runs with the
property are the runs whose steps all meet the condition.
-/

namespace Transition

variable {State Label : Type}

structure Taken (State Label : Type) where
  before : State
  label : Label
  after : State

inductive Run (step : State → Label → State → Prop) (first : State) :
    List (Taken State Label) → State → Prop where
  | start : Run step first [] first
  | next {taken : List (Taken State Label)} {middle last : State} {label : Label}
      (run : Run step first taken middle) (move : step middle label last) :
      Run step first (taken ++ [⟨middle, label, last⟩]) last

variable {step : State → Label → State → Prop} {first last : State}
  {taken : List (Taken State Label)}

theorem Run.invariant {Invariant : State → Prop} (initial : Invariant first)
    (kept : ∀ before label after, Invariant before → step before label after → Invariant after)
    (run : Run step first taken last) : Invariant last := by
  induction run with
  | start => exact initial
  | next _ move ih => exact kept _ _ _ ih move

/-- An invariant that holds as long as every transition has the property. -/
theorem Run.invariant_of_forall {Invariant : State → Prop} {holds : Taken State Label → Prop}
    (initial : Invariant first)
    (kept : ∀ before label after, Invariant before → step before label after →
      holds ⟨before, label, after⟩ → Invariant after)
    (run : Run step first taken last) (all : ∀ transition ∈ taken, holds transition) :
    Invariant last := by
  induction run with
  | start => exact initial
  | next _ move ih =>
      simp only [List.mem_append, List.mem_singleton] at all
      apply kept _ _ _ _ move
      · exact all _ (Or.inr rfl)
      · apply ih
        intro transition mem
        exact all transition (Or.inl mem)

theorem Run.forall_iff {Invariant : State → Prop} {holds meets : Taken State Label → Prop}
    (initial : Invariant first)
    (kept : ∀ before label after, Invariant before → step before label after →
      holds ⟨before, label, after⟩ → Invariant after)
    (agree : ∀ before label after, Invariant before → step before label after →
      (holds ⟨before, label, after⟩ ↔ meets ⟨before, label, after⟩))
    (run : Run step first taken last) :
    (∀ transition ∈ taken, holds transition) ↔ ∀ transition ∈ taken, meets transition := by
  induction run with
  | start => simp
  | @next taken middle last label run move ih =>
      simp only [List.forall_mem_append, List.forall_mem_singleton]
      constructor
      · rintro ⟨earlier, now⟩
        have invariant := run.invariant_of_forall initial kept earlier
        exact ⟨ih.mp earlier, (agree middle label last invariant move).mp now⟩
      · rintro ⟨earlier, now⟩
        have invariant := run.invariant_of_forall initial kept (ih.mpr earlier)
        exact ⟨ih.mpr earlier, (agree middle label last invariant move).mpr now⟩

/-- An invariant that also speaks of the transitions taken so far. -/
theorem Run.invariant_taken {Invariant : List (Taken State Label) → State → Prop}
    (initial : Invariant [] first)
    (kept : ∀ earlier before label after, Invariant earlier before → step before label after →
      Invariant (earlier ++ [⟨before, label, after⟩]) after)
    (run : Run step first taken last) : Invariant taken last := by
  induction run with
  | start => exact initial
  | next _ move ih => exact kept _ _ _ _ ih move

/-- A run taken apart at one of its transitions. -/
theorem Run.split {early late : List (Taken State Label)} {transition : Taken State Label}
    (run : Run step first (early ++ transition :: late) last) :
    Run step first early transition.before ∧
      step transition.before transition.label transition.after ∧
      Run step transition.after late last := by
  generalize both : early ++ transition :: late = taken at run
  induction run generalizing late with
  | start => simp at both
  | @next earlier middle last label run move ih =>
      rcases List.eq_nil_or_concat' late with rfl | ⟨late, newest, rfl⟩
      · obtain ⟨rfl, same⟩ := List.append_inj' both rfl
        rw [List.singleton_inj] at same
        subst same
        exact ⟨run, move, .start⟩
      · rw [← List.cons_append, ← List.append_assoc] at both
        obtain ⟨same, newestSame⟩ := List.append_inj' both rfl
        rw [List.singleton_inj] at newestSame
        subst newestSame
        obtain ⟨front, taken, back⟩ := ih same
        exact ⟨front, taken, .next back move⟩

theorem Run.cons {middle : State} {label : Label} (move : step first label middle)
    (run : Run step middle taken last) : Run step first (⟨first, label, middle⟩ :: taken) last := by
  induction run with
  | start => exact Run.next .start move
  | next _ later ih => exact ih.next later

theorem Run.append {middle : State} {later : List (Taken State Label)}
    (early : Run step first taken middle) (late : Run step middle later last) :
    Run step first (taken ++ later) last := by
  induction late with
  | start =>
      rw [List.append_nil]
      exact early
  | next _ move ih =>
      rw [← List.append_assoc]
      exact ih.next move

theorem Run.step_of_mem (run : Run step first taken last) {transition : Taken State Label}
    (mem : transition ∈ taken) : step transition.before transition.label transition.after := by
  rcases List.append_of_mem mem with ⟨early, late, rfl⟩
  exact run.split.2.1

end Transition
