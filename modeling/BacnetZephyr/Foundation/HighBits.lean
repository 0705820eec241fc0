import Mathlib.Data.Nat.Notation

/-!
# Filling a word from above

A word with its bits set from some position upwards, and the search for the least
position, not below a given one, that turns one word into another in this way.

The search is decided by the highest zero bit of the target: it ends just above
that bit if it ends above its start at all.
-/

namespace HighBits

variable {w : ℕ} {word target : BitVec w} {low start top : ℕ}

/-- The bits of a word from a position upwards. -/
def highBits (w start : ℕ) : BitVec w := BitVec.allOnes w <<< start

theorem getLsbD_highBits {index : ℕ} (inside : index < w) :
    (highBits w start).getLsbD index = decide (start ≤ index) := by
  simp only [highBits, BitVec.getLsbD_shiftLeft, BitVec.getLsbD_allOnes, inside, decide_true,
    Bool.true_and]
  by_cases below : index < start
  · have notFrom : ¬start ≤ index := by omega
    simp [below, notFrom]
  · have above : start ≤ index := by omega
    have shifted : index - start < w := by omega
    simp [below, above, shifted]

theorem highBits_succ (w start : ℕ) : highBits w start <<< 1 = highBits w (start + 1) :=
  (BitVec.shiftLeft_add _ start 1).symm

/-- Filling from a position upwards keeps the bits below it and sets the others. -/
theorem or_highBits_eq_iff :
    word ||| highBits w start = target ↔
      (∀ index, index < start → index < w → word.getLsbD index = target.getLsbD index) ∧
        ∀ index, start ≤ index → index < w → target.getLsbD index = true := by
  constructor
  · rintro rfl
    refine ⟨?_, ?_⟩
    · intro index below inside
      have notFrom : ¬start ≤ index := by omega
      simp [getLsbD_highBits inside, notFrom]
    · intro index above inside
      simp [getLsbD_highBits inside, above]
  · rintro ⟨kept, filled⟩
    apply BitVec.eq_of_getLsbD_eq
    intro index inside
    simp only [BitVec.getLsbD_or, getLsbD_highBits inside]
    by_cases above : start ≤ index
    · simp [above, filled index above inside]
    · simp [above, kept index (by omega) inside]

/-- The highest zero bit of a word. -/
structure TopZero (target : BitVec w) (top : ℕ) : Prop where
  inside : top < w
  zero : target.getLsbD top = false
  above : ∀ index, top < index → index < w → target.getLsbD index = true

theorem allOnes_or_topZero (target : BitVec w) :
    (∀ index, index < w → target.getLsbD index = true) ∨ ∃ top, TopZero target top := by
  -- going down from the highest bit, all bits passed are ones
  have descend : ∀ bound ≤ w,
      (∀ index, bound ≤ index → index < w → target.getLsbD index = true) →
      (∀ index, index < w → target.getLsbD index = true) ∨ ∃ top, TopZero target top := by
    intro bound
    induction bound with
    | zero =>
        intro _ ones
        exact Or.inl fun index inside => ones index (Nat.zero_le _) inside
    | succ bound ih =>
        intro inside ones
        cases bit : target.getLsbD bound with
        | false =>
            exact Or.inr ⟨bound, inside, bit, fun index above => ones index above⟩
        | true =>
            apply ih (by omega)
            intro index from_bound index_lt
            rcases Nat.eq_or_lt_of_le from_bound with rfl | above
            · exact bit
            · exact ones index above index_lt
  exact descend w (Nat.le_refl w) fun index from_w index_lt => absurd index_lt (by omega)

/-- The least position from `low` on at which filling the word gives the target. -/
structure FirstFill (word target : BitVec w) (low start : ℕ) : Prop where
  low_le : low ≤ start
  fills : word ||| highBits w start = target
  first : ∀ earlier, low ≤ earlier → earlier < start → word ||| highBits w earlier ≠ target

theorem TopZero.lt_of_fills (topZero : TopZero target top)
    (fills : word ||| highBits w start = target) : top < start := by
  rcases Nat.lt_or_ge top start with below | above
  · exact below
  · have one := (or_highBits_eq_iff.mp fills).2 top above topZero.inside
    rw [topZero.zero] at one
    cases one

/-- A search that goes on past its start ends just above a zero bit. -/
theorem FirstFill.topZero (fill : FirstFill word target low start) (inside : start ≤ w)
    (passed : low < start) : TopZero target (start - 1) := by
  have filled := or_highBits_eq_iff.mp fill.fills
  refine ⟨by omega, ?_, fun index above => filled.2 index (by omega)⟩
  cases bit : target.getLsbD (start - 1) with
  | false => rfl
  | true =>
      exfalso
      apply fill.first (start - 1) (by omega) (by omega)
      apply or_highBits_eq_iff.mpr
      refine ⟨fun index below => filled.1 index (by omega), ?_⟩
      intro index from_last index_lt
      rcases Nat.eq_or_lt_of_le from_last with rfl | above
      · exact bit
      · exact filled.2 index (by omega) index_lt

/-- Words that agree up to the highest zero bit of the target are told apart just above it. -/
theorem TopZero.firstFill (topZero : TopZero target top) (low_le : low ≤ top + 1)
    (agree : ∀ index, index ≤ top → word.getLsbD index = target.getLsbD index) :
    FirstFill word target low (top + 1) where
  low_le := low_le
  fills := or_highBits_eq_iff.mpr
    ⟨fun index below _ => agree index (by omega), fun index above => topZero.above index above⟩
  first := by
    intro earlier _ before fills
    have := topZero.lt_of_fills fills
    omega

theorem FirstFill.unique {other : ℕ} (fill : FirstFill word target low start)
    (otherFill : FirstFill word target low other) : start = other := by
  rcases Nat.lt_trichotomy start other with before | same | after
  · exact absurd fill.fills (otherFill.first start fill.low_le before)
  · exact same
  · exact absurd otherFill.fills (fill.first other otherFill.low_le after)

end HighBits
