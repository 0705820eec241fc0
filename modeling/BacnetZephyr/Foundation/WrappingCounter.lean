import Mathlib.Algebra.Group.Nat.Defs
import Mathlib.Data.Nat.Notation

/-!
# Wrapping counters

A clock counts in `k` bits and wraps; its readings are words of `w` bits, and the
time between two readings is their difference as words. The difference is right
across a wrap only if the words wrap where the counter does.
-/

namespace WrappingCounter

variable {k w : ℕ}

/-- The counter of `k` bits, read into a word of `w` bits. -/
def reading (k w time : ℕ) : BitVec w := (BitVec.ofNat k time).setWidth w

/-- The time between two readings, in words of `w` bits. -/
def elapsed (k w start now : ℕ) : ℕ := (reading k w now - reading k w start).toNat

theorem toNat_reading (wide : k ≤ w) (time : ℕ) : (reading k w time).toNat = time % 2 ^ k := by
  have small : time % 2 ^ k < 2 ^ w :=
    Nat.lt_of_lt_of_le (Nat.mod_lt time (Nat.two_pow_pos k)) (Nat.pow_le_pow_right (by decide) wide)
  rw [reading, BitVec.toNat_setWidth, BitVec.toNat_ofNat, Nat.mod_eq_of_lt small]

theorem elapsed_eq_mod (wide : k ≤ w) (start now : ℕ) :
    elapsed k w start now = (2 ^ w - start % 2 ^ k + now % 2 ^ k) % 2 ^ w := by
  rw [elapsed, BitVec.toNat_sub, toNat_reading wide, toNat_reading wide]

/-- Within one period of the counter the difference is right in every width. -/
theorem elapsed_of_same_period (wide : k ≤ w) {start now : ℕ} (ordered : start ≤ now)
    (period : start / 2 ^ k = now / 2 ^ k) : elapsed k w start now = now - start := by
  have startParts := Nat.div_add_mod start (2 ^ k)
  have nowParts := Nat.div_add_mod now (2 ^ k)
  rw [period] at startParts
  have startSmall := Nat.mod_lt start (Nat.two_pow_pos k)
  have nowSmall := Nat.mod_lt now (Nat.two_pow_pos k)
  have widths : 2 ^ k ≤ 2 ^ w := Nat.pow_le_pow_right (by decide) wide
  have sum : 2 ^ w - start % 2 ^ k + now % 2 ^ k = now - start + 2 ^ w := by omega
  rw [elapsed_eq_mod wide, sum, Nat.add_mod_right, Nat.mod_eq_of_lt (by omega)]

/-- Across a wrap the difference is too large by what the words hold beyond the counter. -/
theorem elapsed_of_next_period (wide : k ≤ w) {start now : ℕ} (near : now - start < 2 ^ k)
    (period : now / 2 ^ k = start / 2 ^ k + 1) :
    elapsed k w start now = 2 ^ w - 2 ^ k + (now - start) := by
  have startParts := Nat.div_add_mod start (2 ^ k)
  have nowParts := Nat.div_add_mod now (2 ^ k)
  rw [period, Nat.mul_add, Nat.mul_one] at nowParts
  have startSmall := Nat.mod_lt start (Nat.two_pow_pos k)
  have widths : 2 ^ k ≤ 2 ^ w := Nat.pow_le_pow_right (by decide) wide
  have sum : 2 ^ w - start % 2 ^ k + now % 2 ^ k = 2 ^ w - 2 ^ k + (now - start) := by omega
  rw [elapsed_eq_mod wide, sum, Nat.mod_eq_of_lt (by omega)]

/-- Two times less than a period apart lie in one period or in two adjacent ones. -/
theorem same_or_next_period {start now : ℕ} (ordered : start ≤ now) (near : now - start < 2 ^ k) :
    start / 2 ^ k = now / 2 ^ k ∨ now / 2 ^ k = start / 2 ^ k + 1 := by
  have lower : start / 2 ^ k ≤ now / 2 ^ k := Nat.div_le_div_right ordered
  have upper : now / 2 ^ k ≤ (start + 2 ^ k) / 2 ^ k := Nat.div_le_div_right (by omega)
  rw [Nat.add_div_right start (Nat.two_pow_pos k)] at upper
  omega

/--
For times less than a period apart the difference is right exactly when the words are as
wide as the counter or the counter has not wrapped.
-/
theorem elapsed_eq_iff (wide : k ≤ w) {start now : ℕ} (ordered : start ≤ now)
    (near : now - start < 2 ^ k) :
    elapsed k w start now = now - start ↔ w = k ∨ start / 2 ^ k = now / 2 ^ k := by
  rcases same_or_next_period ordered near with same | next
  · simp only [elapsed_of_same_period wide ordered same, same, or_true]
  · have wrapped : ¬start / 2 ^ k = now / 2 ^ k := by omega
    rw [elapsed_of_next_period wide near next]
    simp only [wrapped, or_false]
    constructor
    · intro right
      have narrow : 2 ^ w ≤ 2 ^ k := by omega
      exact Nat.le_antisymm ((Nat.pow_le_pow_iff_right (by decide)).mp narrow) wide
    · intro equal
      rw [equal]
      omega

end WrappingCounter
