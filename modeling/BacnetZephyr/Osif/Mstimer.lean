import BacnetZephyr.Foundation.WrappingCounter

/-!
# The millisecond timer

`mstimer_now` returns the kernel's 32-bit uptime in an `unsigned long`, and the timers
subtract two of its values in `unsigned long`. Where that has 64 bits, an interval in
which the uptime wraps is measured as almost the whole range of the type, so a running
timer expires at the wrap.
-/

namespace BacnetZephyr

open WrappingCounter

/-- The kernel's uptime in milliseconds, modulo `2 ^ 32`. -/
def kUptimeGet32 (uptime : ℕ) : BitVec 32 := BitVec.ofNat 32 uptime

/-- `mstimer_now` at an uptime, for a width of `unsigned long`. -/
def mstimerNow (ulongBits uptime : ℕ) : BitVec ulongBits :=
  (kUptimeGet32 uptime).setWidth ulongBits

/-- The time between two uptimes as the timers measure it. -/
def mstimerElapsed (ulongBits start now : ℕ) : BitVec ulongBits :=
  mstimerNow ulongBits now - mstimerNow ulongBits start

theorem toNat_mstimerElapsed (ulongBits start now : ℕ) :
    (mstimerElapsed ulongBits start now).toNat = elapsed 32 ulongBits start now :=
  rfl

/-- `unsigned long` is at least as wide as the uptime of the kernel. -/
theorem uptime_le_ulong {ulongBits : ℕ} (width : ulongBits = 32 ∨ ulongBits = 64) :
    32 ≤ ulongBits := by
  omega

/--
An interval of less than `2 ^ 32` milliseconds is measured right exactly when
`unsigned long` has 32 bits or the uptime does not wrap in it.
-/
theorem mstimerElapsed_eq_iff {ulongBits : ℕ} (width : ulongBits = 32 ∨ ulongBits = 64)
    {start now : ℕ} (ordered : start ≤ now) (near : now - start < 2 ^ 32) :
    (mstimerElapsed ulongBits start now).toNat = now - start ↔
      ulongBits = 32 ∨ start / 2 ^ 32 = now / 2 ^ 32 := by
  rw [toNat_mstimerElapsed]
  exact elapsed_eq_iff (uptime_le_ulong width) ordered near

/-- With 32 bits the second before and the second after the wrap are two seconds apart. -/
theorem mstimerElapsed_eq_iff_narrow :
    (mstimerElapsed 32 4294966296 4294968296).toNat = 4294968296 - 4294966296 ↔
      32 = 32 ∨ 4294966296 / 2 ^ 32 = 4294968296 / 2 ^ 32 :=
  mstimerElapsed_eq_iff (Or.inl rfl) (by decide) (by decide)

/-- With 64 bits the millisecond in which the uptime wraps is measured wrong. -/
theorem not_mstimerElapsed_eq_wrap :
    ¬∀ ulongBits start now : ℕ, ulongBits = 32 ∨ ulongBits = 64 → start ≤ now →
      now - start < 2 ^ 32 → (mstimerElapsed ulongBits start now).toNat = now - start := by
  intro right
  have wrapped := right 64 4294967295 4294967296 (Or.inr rfl) (by decide) (by decide)
  revert wrapped
  decide

end BacnetZephyr
