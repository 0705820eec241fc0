import Mathlib.Data.List.Basic

/-!
# Timelines

The values a variable has taken, each with the time it was observed, newest first,
and the time since which the variable has held its present value.
-/

namespace Timeline

variable {α : Type}

/-- The variable has had the value continuously since the time. -/
def HeldSince (timeline : List (ℕ × α)) (value : α) (time : ℕ) : Prop :=
  ∃ newer observed older, timeline = newer ++ (observed, value) :: older ∧ observed ≤ time ∧
    ∀ entry ∈ newer, entry.2 = value

/-- The time of the oldest observation since which the variable has had the value. -/
def heldFrom [DecidableEq α] (value : α) : List (ℕ × α) → Option ℕ
  | [] => none
  | (observed, other) :: older =>
      if other = value then some ((heldFrom value older).getD observed) else none

def Ordered (timeline : List (ℕ × α)) : Prop :=
  timeline.Pairwise fun newer older => older.1 ≤ newer.1

theorem heldSince_cons {observed time : ℕ} {other value : α} {older : List (ℕ × α)} :
    HeldSince ((observed, other) :: older) value time ↔
      other = value ∧ (observed ≤ time ∨ HeldSince older value time) := by
  constructor
  · rintro ⟨newer, observed', older', equal, early, held⟩
    rcases newer with _ | ⟨entry, newer⟩
    · simp only [List.nil_append, List.cons.injEq, Prod.mk.injEq] at equal
      rcases equal with ⟨⟨rfl, rfl⟩, rfl⟩
      exact ⟨rfl, Or.inl early⟩
    · simp only [List.cons_append, List.cons.injEq] at equal
      rcases equal with ⟨rfl, rfl⟩
      refine ⟨held (observed, other) (by simp), Or.inr ⟨newer, observed', older', rfl, early, ?_⟩⟩
      intro entry mem
      exact held entry (by simp [mem])
  · rintro ⟨rfl, early | ⟨newer, observed', older', rfl, early, held⟩⟩
    · exact ⟨[], observed, older, rfl, early, by simp⟩
    · refine ⟨(observed, other) :: newer, observed', older', rfl, early, ?_⟩
      intro entry mem
      rcases List.mem_cons.mp mem with rfl | mem
      · rfl
      · exact held entry mem

variable [DecidableEq α]

theorem mem_of_heldFrom {value : α} {timeline : List (ℕ × α)} {since : ℕ}
    (held : heldFrom value timeline = some since) : ∃ entry ∈ timeline, entry.1 = since := by
  induction timeline with
  | nil => simp [heldFrom] at held
  | cons entry older ih =>
      rcases entry with ⟨observed, other⟩
      simp only [heldFrom] at held
      split at held
      · rcases earlier : heldFrom value older with _ | since'
        · rw [earlier] at held
          exact ⟨(observed, other), by simp, by simpa using held⟩
        · rw [earlier] at held
          rcases ih (by rw [earlier]; simpa using held) with ⟨entry, mem, time⟩
          exact ⟨entry, by simp [mem], time⟩
      · simp at held

/-- The value is held since a time exactly when its oldest observation is not later. -/
theorem heldSince_iff {timeline : List (ℕ × α)} (ordered : Ordered timeline) {value : α}
    {time : ℕ} :
    HeldSince timeline value time ↔
      ∃ since, heldFrom value timeline = some since ∧ since ≤ time := by
  induction timeline with
  | nil => simp [HeldSince, heldFrom]
  | cons entry older ih =>
      rcases entry with ⟨observed, other⟩
      rw [Ordered, List.pairwise_cons] at ordered
      rw [heldSince_cons, ih ordered.2, heldFrom]
      by_cases same : other = value
      · rcases earlier : heldFrom value older with _ | since
        · simp [same]
        · rcases mem_of_heldFrom earlier with ⟨entry, mem, time'⟩
          have before := ordered.1 entry mem
          simp only [same, true_and, Option.some.injEq, exists_eq_left', if_true,
            Option.getD_some]
          omega
      · simp [same]

/-- The value has been held for a delay exactly when its oldest observation is that old. -/
theorem exists_heldSince_iff {timeline : List (ℕ × α)} (ordered : Ordered timeline) {value : α}
    {delay now : ℕ} :
    (∃ time, time + delay ≤ now ∧ HeldSince timeline value time) ↔
      ∃ since, heldFrom value timeline = some since ∧ since + delay ≤ now := by
  constructor
  · rintro ⟨time, early, held⟩
    rcases (heldSince_iff ordered).mp held with ⟨since, oldest, before⟩
    exact ⟨since, oldest, by omega⟩
  · rintro ⟨since, oldest, early⟩
    exact ⟨since, early, (heldSince_iff ordered).mpr ⟨since, oldest, Nat.le_refl since⟩⟩

end Timeline
