import Mathlib.Data.List.TakeWhile
import Mathlib.Data.List.Basic

/-!
# Strings in byte buffers

A string in a buffer is the bytes before the first terminator, if the buffer has one.
This file says when copying leaves a terminated string: `strncpy` does exactly for
sources shorter than the buffer, and bytes put over the front of a buffer whose contents
are unknown do exactly if they bring their own terminator.
-/

namespace CLib

/-- The bytes of a C string, without its terminator. -/
abbrev ByteString := { bytes : List UInt8 // 0 ∉ bytes }

/-- The bytes before the first terminator. -/
def untilTerminator (bytes : List UInt8) : List UInt8 := bytes.takeWhile fun byte => byte ≠ 0

/-- The buffer holds the text, and its terminator behind it. -/
def HoldsString (buffer text : List UInt8) : Prop := 0 ∈ buffer ∧ untilTerminator buffer = text

/-- `strncpy` over a whole buffer of the size. -/
def strncpy (source : ByteString) (size : ℕ) : List UInt8 :=
  source.val.take size ++ List.replicate (size - source.val.length) 0

theorem zero_notMem_untilTerminator (bytes : List UInt8) : 0 ∉ untilTerminator bytes := by
  intro mem
  simpa using List.mem_takeWhile_imp mem

theorem forall_ne_zero {text : List UInt8} (noTerminator : 0 ∉ text) :
    ∀ byte ∈ text, decide (byte ≠ 0) = true := by
  intro byte mem
  rw [decide_eq_true_eq]
  rintro rfl
  exact noTerminator mem

/-- What follows a terminator does not matter. -/
theorem untilTerminator_append {front : List UInt8} (terminated : 0 ∈ front)
    (rest : List UInt8) : untilTerminator (front ++ rest) = untilTerminator front := by
  have stops : ¬(untilTerminator front).length = front.length := by
    intro whole
    have same : untilTerminator front = front :=
      (List.takeWhile_prefix _).eq_of_length whole
    apply zero_notMem_untilTerminator front
    rwa [same]
  simp only [untilTerminator] at stops ⊢
  rw [List.takeWhile_append, if_neg stops]

theorem untilTerminator_append_zero {text : List UInt8} (noTerminator : 0 ∉ text) :
    untilTerminator (text ++ [0]) = text := by
  rw [untilTerminator, List.takeWhile_append_of_pos (forall_ne_zero noTerminator),
    List.takeWhile_cons_of_neg (by simp), List.append_nil]

/-- A text with its terminator in front is what the buffer holds. -/
theorem holdsString_append {front : List UInt8} (terminated : 0 ∈ front) (rest : List UInt8) :
    HoldsString (front ++ rest) (untilTerminator front) :=
  ⟨List.mem_append_left _ terminated, untilTerminator_append terminated rest⟩

theorem mem_strncpy_iff (source : ByteString) (size : ℕ) :
    0 ∈ strncpy source size ↔ source.val.length < size := by
  have notTaken : 0 ∉ source.val.take size :=
    fun mem => source.property (List.mem_of_mem_take mem)
  simp [strncpy, notTaken]
  omega

theorem holdsString_strncpy {source : ByteString} {size : ℕ} (fits : source.val.length < size) :
    HoldsString (strncpy source size) source.val := by
  refine ⟨(mem_strncpy_iff source size).mpr fits, ?_⟩
  have positive : size - source.val.length = (size - source.val.length - 1) + 1 := by omega
  have split : strncpy source size =
      (source.val ++ [0]) ++ List.replicate (size - source.val.length - 1) 0 := by
    rw [strncpy, List.take_of_length_le fits.le, positive, List.replicate_succ]
    simp
  rw [split, untilTerminator_append (by simp), untilTerminator_append_zero source.property]

/-- A terminated part of a string in front of a buffer gives the whole string. -/
theorem holdsString_take {bytes : List UInt8} {size : ℕ} (terminated : 0 ∈ bytes.take size)
    (rest : List UInt8) : HoldsString (bytes.take size ++ rest) (untilTerminator bytes) := by
  have whole := untilTerminator_append terminated (bytes.drop size)
  rw [List.take_append_drop] at whole
  rw [whole]
  exact holdsString_append terminated rest

end CLib
