import Mathlib.Algebra.Group.Nat.Defs
import Mathlib.Order.CompletePartialOrder
import Mathlib.Order.Interval.Set.Disjoint

/-!
# Address ranges in machine arithmetic

Half-open ranges of addresses, and the test of two of them for a common address
when their ends are computed modulo the size of the address space. A range that
ends exactly at the top of the space has the computed end 0.
-/

namespace AddressRange

def addresses (start size : ℕ) : Set ℕ := Set.Ico start (start + size)

theorem disjoint_of_le {start size start' size' : ℕ}
    (apart : start' + size' ≤ start ∨ start + size ≤ start') :
    Disjoint (addresses start size) (addresses start' size') := by
  rw [addresses, addresses, Set.Ico_disjoint_Ico]
  omega

section Machine

variable {w : ℕ} {start size start' size' : BitVec w}

/-- The intersection test on computed ends. -/
def overlapTest (start size start' size' : BitVec w) : Bool :=
  start < start' + size' ∧ start' < start + size

theorem toNat_end_of_lt (below : start.toNat + size.toNat < 2 ^ w) :
    (start + size).toNat = start.toNat + size.toNat := by
  rw [BitVec.toNat_add, Nat.mod_eq_of_lt below]

theorem toNat_end_of_eq (top : start.toNat + size.toNat = 2 ^ w) : (start + size).toNat = 0 := by
  rw [BitVec.toNat_add, top, Nat.mod_self]

/-- Below the top of the address space the test misses no common address. -/
theorem disjoint_of_overlapTest_false (below : start.toNat + size.toNat < 2 ^ w)
    (below' : start'.toNat + size'.toNat < 2 ^ w)
    (apart : overlapTest start size start' size' = false) :
    Disjoint (addresses start.toNat size.toNat) (addresses start'.toNat size'.toNat) := by
  apply disjoint_of_le
  simp only [overlapTest, decide_eq_false_iff_not, not_and_or, BitVec.lt_def, not_lt,
    toNat_end_of_lt below, toNat_end_of_lt below'] at apart
  exact apart

/-- The test is negative as soon as one of the ranges ends at the top. -/
theorem overlapTest_eq_false_of_top
    (top : start.toNat + size.toNat = 2 ^ w ∨ start'.toNat + size'.toNat = 2 ^ w) :
    overlapTest start size start' size' = false := by
  simp only [overlapTest, decide_eq_false_iff_not, BitVec.lt_def]
  rintro ⟨before, before'⟩
  rcases top with top | top
  · rw [toNat_end_of_eq top] at before'
    omega
  · rw [toNat_end_of_eq top] at before
    omega

end Machine

end AddressRange
