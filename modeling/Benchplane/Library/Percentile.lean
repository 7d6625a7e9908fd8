import Mathlib.Algebra.Order.BigOperators.Group.List
import Mathlib.Data.List.Sort
import Mathlib.Data.Rat.Floor
import Mathlib.Tactic.Linarith

/-!
# Percentiles and means

A percentile of a list is one of its values, told by counting: enough of the values
do not exceed it, and fewer than that are below it.  It does not depend on the order
of the list, it grows with the percentage, and in a sorted list it stands at the
nearest rank.
-/

namespace Benchplane
namespace Library

/-! ## Percentiles -/

section

variable {α : Type} [LinearOrder α]

/-- At least `percent` percent of the values do not exceed `value`, which is one of
them, and fewer are below it. -/
structure IsPercentile (percent : Nat) (values : List α) (value : α) : Prop where
  mem : value ∈ values
  reached : percent * values.length ≤ 100 * values.countP (fun other => decide (other ≤ value))
  first : 100 * values.countP (fun other => decide (other < value)) < percent * values.length

/-- The order of the values does not matter. -/
theorem IsPercentile.of_perm {percent : Nat} {values permuted : List α} {value : α}
    (h : IsPercentile percent values value) (hperm : values.Perm permuted) :
    IsPercentile percent permuted value := by
  constructor
  · exact hperm.mem_iff.mp h.mem
  · rw [← hperm.length_eq, ← hperm.countP_eq]
    exact h.reached
  · rw [← hperm.length_eq, ← hperm.countP_eq]
    exact h.first

/-- A larger percentage has no smaller percentile. -/
theorem IsPercentile.le_of_le {percent percent' : Nat} {values : List α} {value value' : α}
    (h : IsPercentile percent values value) (h' : IsPercentile percent' values value')
    (hle : percent ≤ percent') : value ≤ value' := by
  by_contra hlt
  have hbelow : values.countP (fun other => decide (other ≤ value')) ≤
      values.countP (fun other => decide (other < value)) := by
    apply List.countP_mono_left
    intro other _ hother
    have hother := of_decide_eq_true hother
    exact decide_eq_true (lt_of_le_of_lt hother (not_le.mp hlt))
  have hscaled := Nat.mul_le_mul_right values.length hle
  have hreached := h'.reached
  have hfirst := h.first
  omega

/-! ## Nearest ranks -/

/-- What stands up to a place of a sorted list does not exceed the value there. -/
theorem lt_countP_le_getElem {values : List α} (hsorted : values.Pairwise (· ≤ ·)) {place : Nat}
    (h : place < values.length) :
    place < values.countP (fun other => decide (other ≤ values[place])) := by
  have hall : (values.take (place + 1)).countP (fun other => decide (other ≤ values[place])) =
      (values.take (place + 1)).length := by
    apply List.countP_eq_length.mpr
    intro other hother
    obtain ⟨i, hi, rfl⟩ := List.getElem_of_mem hother
    rw [List.length_take] at hi
    rw [List.getElem_take]
    have hcases : i < place ∨ i = place := by omega
    rcases hcases with hbefore | rfl
    · exact decide_eq_true (List.pairwise_iff_getElem.mp hsorted i place (by omega) h hbefore)
    · exact decide_eq_true (le_refl _)
  have hlength : (values.take (place + 1)).length = place + 1 := by
    rw [List.length_take]
    omega
  have hsub : (values.take (place + 1)).countP (fun other => decide (other ≤ values[place])) ≤
      values.countP (fun other => decide (other ≤ values[place])) :=
    (List.take_sublist (place + 1) values).countP_le
  omega

/-- What is below the value at a place of a sorted list stands before it. -/
theorem countP_lt_getElem_le {values : List α} (hsorted : values.Pairwise (· ≤ ·)) {place : Nat}
    (h : place < values.length) :
    values.countP (fun other => decide (other < values[place])) ≤ place := by
  have hnone : (values.drop place).countP (fun other => decide (other < values[place])) = 0 := by
    apply List.countP_eq_zero.mpr
    intro other hother
    obtain ⟨i, hi, rfl⟩ := List.getElem_of_mem hother
    rw [List.length_drop] at hi
    rw [List.getElem_drop, decide_eq_true_eq, not_lt]
    have hcases : i = 0 ∨ place < place + i := by omega
    rcases hcases with rfl | hafter
    · exact le_refl _
    · exact List.pairwise_iff_getElem.mp hsorted place (place + i) h (by omega) hafter
  have hbefore : (values.take place).countP (fun other => decide (other < values[place])) ≤
      (values.take place).length := List.countP_le_length
  have hlength : (values.take place).length ≤ place := List.length_take_le _ _
  calc values.countP (fun other => decide (other < values[place]))
      = (values.take place ++ values.drop place).countP _ := by rw [List.take_append_drop]
    _ = (values.take place).countP _ + (values.drop place).countP _ := List.countP_append
    _ ≤ place := by omega

/-- The percentile of a sorted list stands at the rank that is the percentage of the
length, rounded up. -/
theorem isPercentile_getElem {values : List α} (hsorted : values.Pairwise (· ≤ ·))
    {percent : Nat} (hpositive : 0 < percent)
    (h : (percent * values.length + 99) / 100 - 1 < values.length) :
    IsPercentile percent values values[(percent * values.length + 99) / 100 - 1] := by
  have hreached := lt_countP_le_getElem hsorted h
  have hbefore := countP_lt_getElem_le hsorted h
  have hscaled : 0 < percent * values.length := Nat.mul_pos hpositive (by omega)
  constructor
  · exact List.getElem_mem h
  · omega
  · omega

end

/-! ## Means -/

/-- The mean of the values, a rational number. -/
def meanOf (values : List Nat) : Rat := values.sum / values.length

/-- Division of whole numbers is the floor of the mean. -/
theorem floor_meanOf (values : List Nat) :
    ⌊meanOf values⌋ = ((values.sum / values.length : Nat) : Int) :=
  Rat.floor_natCast_div_natCast _ _

/-- A mean lies between the bounds of its values. -/
theorem sum_div_length_mem {values : List Nat} (hne : values ≠ []) {low high : Nat}
    (h : ∀ value ∈ values, low ≤ value ∧ value ≤ high) :
    low ≤ values.sum / values.length ∧ values.sum / values.length ≤ high := by
  have hlength : 0 < values.length := List.length_pos_of_ne_nil hne
  have hlow := List.card_nsmul_le_sum values low fun value hvalue => (h value hvalue).1
  have hhigh := List.sum_le_card_nsmul values high fun value hvalue => (h value hvalue).2
  rw [nsmul_eq_mul, Nat.cast_id] at hlow hhigh
  constructor
  · apply (Nat.le_div_iff_mul_le hlength).mpr
    rw [Nat.mul_comm]
    exact hlow
  · exact Nat.div_le_of_le_mul hhigh

end Library
end Benchplane
