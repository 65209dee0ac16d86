import ContingentClaims.Text.Blank
import ContingentClaims.Text.Digits
import Mathlib.Data.List.Induction
import Mathlib.Tactic.Ring

/-!
# Numerals with leading zeros

A numeral that is filled up with zeros denotes the same number, has the width asked
for if the number is small enough, and still holds nothing but digits.
-/

namespace ContingentClaims
namespace Digits

/-! ## Values -/

theorem tenPower_pos (zeros : Nat) : 0 < tenPower zeros :=
  Nat.pow_pos (by decide)

/-- The digits in front count as many times as there are digits behind. -/
theorem value_append (front back : List Char) :
    value (front ++ back) = value front * tenPower back.length + value back := by
  induction back using List.reverseRecOn with
  | nil => simp
  | append_singleton back last backHypothesis =>
      rw [← List.append_assoc, value_append_singleton, backHypothesis,
        value_append_singleton, List.length_append, List.length_singleton, tenPower_succ]
      ring

theorem value_replicate_zero (zeros : Nat) : value (List.replicate zeros '0') = 0 := by
  induction zeros with
  | zero => rfl
  | succ zeros zerosHypothesis =>
      rw [List.replicate_succ', value_append_singleton, zerosHypothesis]
      rfl

@[simp] theorem value_writePadded (width n : Nat) : value (writePadded width n) = n := by
  rw [writePadded, value_append, value_replicate_zero, value_write]
  simp

/-! ## Widths -/

/-- A number below a power of ten has no more digits than the power has zeros. -/
theorem length_write_le
    {n width : Nat}
    (small : n < tenPower (width + 1)) :
    (write n).length ≤ width + 1 := by
  induction width generalizing n with
  | zero =>
      have oneDigit : n < 10 := small
      rw [write, if_pos oneDigit]
      simp
  | succ width widthHypothesis =>
      rw [write]
      split
      next oneDigit => simp
      next large =>
        rw [tenPower_succ] at small
        have front : n / 10 < tenPower (width + 1) := by omega
        have frontLength := widthHypothesis front
        rw [List.length_append, List.length_singleton]
        omega

theorem length_writePadded
    {n width : Nat}
    (small : n < tenPower (width + 1)) :
    (writePadded (width + 1) n).length = width + 1 := by
  have fits := length_write_le small
  rw [writePadded, List.length_append, List.length_replicate]
  omega

/-! ## Characters -/

theorem isDigit_of_mem_writePadded
    {width n : Nat}
    {c : Char}
    (present : c ∈ writePadded width n) :
    isDigit c = true := by
  rw [writePadded, List.mem_append] at present
  rcases present with zero | digit
  · rw [(List.mem_replicate.1 zero).2]
    decide
  · exact isDigit_of_mem_write digit

theorem writePadded_ne_nil (width n : Nat) : writePadded width n ≠ [] := by
  simp [writePadded, write_ne_nil]

@[simp] theorem read?_writePadded (width n : Nat) :
    read? (writePadded width n) = some n := by
  have allDigits : (writePadded width n).all isDigit = true :=
    List.all_eq_true.2 fun _ present => isDigit_of_mem_writePadded present
  have filled : (writePadded width n).isEmpty = false := by
    simp [writePadded_ne_nil]
  simp [read?, allDigits, filled]

/-- A digit is neither a blank nor any of the other marks of a literal. -/
theorem digit_is_plain
    {c : Char}
    (digit : isDigit c = true) :
    Text.isBlank c = false ∧ c ≠ '.' ∧ c ≠ '-' ∧ c ≠ '+' ∧ c ≠ '_' := by
  have range : 48 ≤ c.toNat ∧ c.toNat ≤ 57 := by simpa [isDigit] using digit
  refine ⟨?_, ?_, ?_, ?_, ?_⟩
  · simp only [Text.isBlank, Bool.or_eq_false_iff, Bool.and_eq_false_iff,
      decide_eq_false_iff_not, beq_eq_false_iff_ne]
    omega
  all_goals
    rintro rfl
    revert range
    decide

end Digits
end ContingentClaims
