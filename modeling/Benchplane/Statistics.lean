import Benchplane.Evidence.PanicFreedom
import Benchplane.Library.Percentile

/-!
# Summary statistics

What `describe_micros` computes against what the published figures are: the floor of
the mean and two percentiles, whatever the order of the values.
-/

namespace Benchplane

open Library

/-- The figures of a summary, told from the values alone. -/
structure Summarizes (values : List UInt64) (summary : LatencySummary) : Prop where
  mean : (summary.meanMicros.toNat : Int) = ⌊meanOf (values.map UInt64.toNat)⌋
  p50 : IsPercentile 50 (values.map UInt64.toNat) summary.p50Micros.toNat
  p95 : IsPercentile 95 (values.map UInt64.toNat) summary.p95Micros.toNat
  ordered : ∃ minimum ∈ values, ∃ maximum ∈ values,
    (∀ value ∈ values, minimum ≤ value ∧ value ≤ maximum) ∧
    (minimum ≤ summary.p50Micros ∧ summary.p50Micros ≤ summary.p95Micros ∧
      summary.p95Micros ≤ maximum) ∧
    (minimum ≤ summary.meanMicros ∧ summary.meanMicros ≤ maximum)

/-- The order in which `sort_unstable` puts the values. -/
theorem pairwise_mergeSort_le (values : List UInt64) :
    (values.mergeSort fun a b => decide (a ≤ b)).Pairwise (· ≤ ·) := by
  have htransitive : ∀ a b c : UInt64,
      decide (a ≤ b) = true → decide (b ≤ c) = true → decide (a ≤ c) = true := by
    intro a b c hab hbc
    have hab : a.toNat ≤ b.toNat := of_decide_eq_true hab
    have hbc : b.toNat ≤ c.toNat := of_decide_eq_true hbc
    exact decide_eq_true (show a.toNat ≤ c.toNat by omega)
  have htotal : ∀ a b : UInt64, (decide (a ≤ b) || decide (b ≤ a)) = true := by
    intro a b
    rw [Bool.or_eq_true, decide_eq_true_eq, decide_eq_true_eq]
    exact Nat.le_total a.toNat b.toNat
  apply (List.pairwise_mergeSort htransitive htotal values).imp
  intro a b hab
  exact of_decide_eq_true hab

/-- Sorting forgets the order. -/
theorem mergeSort_eq_of_perm {values permuted : List UInt64} (h : values.Perm permuted) :
    (permuted.mergeSort fun a b => decide (a ≤ b)) = values.mergeSort fun a b => decide (a ≤ b) := by
  have hsame : (permuted.mergeSort fun a b => decide (a ≤ b)).Perm
      (values.mergeSort fun a b => decide (a ≤ b)) :=
    ((List.mergeSort_perm permuted _).trans h.symm).trans (List.mergeSort_perm values _).symm
  apply hsame.eq_of_pairwise ?_ (pairwise_mergeSort_le permuted) (pairwise_mergeSort_le values)
  intro a b _ _ hab hba
  have hab : a.toNat ≤ b.toNat := hab
  have hba : b.toNat ≤ a.toNat := hba
  exact UInt64.toNat_inj.mp (by omega)

/-- The nearest rank of the sorted values is the percentile of the values. -/
theorem isPercentile_nearestRank {values : List UInt64} (hne : values ≠ []) {percentile : Nat}
    (hpositive : 0 < percentile) (hpercentile : percentile ≤ 100) :
    IsPercentile percentile (values.map UInt64.toNat)
      (nearestRank (values.mergeSort fun a b => decide (a ≤ b)) percentile).toNat := by
  have hsorted := pairwise_mergeSort_le values
  have hperm := (List.mergeSort_perm values fun a b => decide (a ≤ b)).map UInt64.toNat
  have hlength : (values.mergeSort fun a b => decide (a ≤ b)).length = values.length :=
    List.length_mergeSort _
  have hnonempty : 0 < values.length := List.length_pos_of_ne_nil hne
  generalize (values.mergeSort fun a b => decide (a ≤ b)) = sorted at *
  have hnumbers : (sorted.map UInt64.toNat).Pairwise (· ≤ ·) :=
    List.pairwise_map.mpr (hsorted.imp fun hle => hle)
  have hscaled : percentile * sorted.length ≤ 100 * sorted.length :=
    Nat.mul_le_mul_right _ hpercentile
  have hrank : (percentile * sorted.length + 99) / 100 - 1 < sorted.length := by omega
  have hvalue : (nearestRank sorted percentile).toNat =
      (sorted[(percentile * sorted.length + 99) / 100 - 1]).toNat := by
    rw [nearestRank, List.getD_eq_getElem _ _ hrank]
  have hnearest := isPercentile_getElem hnumbers hpositive
    (by simpa only [List.length_map] using hrank)
  simp only [List.getElem_map, List.length_map] at hnearest
  rw [hvalue]
  exact hnearest.of_perm hperm

/-- The mean is the floor of the rational mean of the values. -/
theorem meanU64_eq_some {values : List UInt64} {mean : UInt64} (h : meanU64 values = some mean) :
    mean.toNat = (values.map UInt64.toNat).sum / (values.map UInt64.toNat).length := by
  unfold meanU64 at h
  split at h
  · contradiction
  · simp only at h
    split at h
    · rename_i hfits
      obtain rfl := Option.some.inj h
      rw [List.length_map, UInt64.toNat_ofNat_of_lt' hfits]
    · contradiction

/-- A nonempty list has a smallest and a largest value. -/
theorem exists_bounds {values : List UInt64} (hne : values ≠ []) :
    ∃ minimum ∈ values, ∃ maximum ∈ values,
      ∀ value ∈ values, minimum ≤ value ∧ value ≤ maximum := by
  have hnonempty : values.toFinset.Nonempty := List.toFinset_nonempty_iff _ |>.mpr hne
  obtain ⟨minimum, hminimum, hlow⟩ := values.toFinset.exists_min_image UInt64.toNat hnonempty
  obtain ⟨maximum, hmaximum, hhigh⟩ := values.toFinset.exists_max_image UInt64.toNat hnonempty
  refine ⟨minimum, List.mem_toFinset.mp hminimum, maximum, List.mem_toFinset.mp hmaximum, ?_⟩
  intro value hvalue
  exact ⟨hlow value (List.mem_toFinset.mpr hvalue), hhigh value (List.mem_toFinset.mpr hvalue)⟩

/-- A percentile lies between the smallest and the largest value. -/
theorem mem_bounds_of_isPercentile {percent : Nat} {values : List UInt64}
    {value minimum maximum : UInt64}
    (h : IsPercentile percent (values.map UInt64.toNat) value.toNat)
    (hbounds : ∀ value ∈ values, minimum ≤ value ∧ value ≤ maximum) :
    minimum ≤ value ∧ value ≤ maximum := by
  obtain ⟨other, hother, hsame⟩ := List.mem_map.mp h.mem
  obtain rfl := UInt64.toNat_inj.mp hsame
  exact hbounds other hother

theorem summarizes_of_describeMicros {values : List UInt64} (hne : values ≠ [])
    {summary : LatencySummary} (h : describeMicros values = some summary) :
    Summarizes values summary := by
  have hperm := List.mergeSort_perm values fun a b => decide (a ≤ b)
  have hp50 := isPercentile_nearestRank hne (show 0 < 50 by omega) (by omega)
  have hp95 := isPercentile_nearestRank hne (show 0 < 95 by omega) (by omega)
  rw [describeMicros, if_neg hne] at h
  obtain ⟨mean, hmean, rfl⟩ := Option.map_eq_some_iff.mp h
  have hmean := meanU64_eq_some hmean
  rw [(hperm.map UInt64.toNat).sum_eq, (hperm.map UInt64.toNat).length_eq] at hmean
  obtain ⟨minimum, hminimum, maximum, hmaximum, hbounds⟩ := exists_bounds hne
  have hvalues : values.map UInt64.toNat ≠ [] := by simpa using hne
  have hwithin : ∀ value ∈ values.map UInt64.toNat,
      minimum.toNat ≤ value ∧ value ≤ maximum.toNat := by
    intro value hvalue
    obtain ⟨other, hother, rfl⟩ := List.mem_map.mp hvalue
    exact hbounds other hother
  have hmeanBounds := sum_div_length_mem hvalues hwithin
  rw [← hmean] at hmeanBounds
  constructor
  case mean => rw [floor_meanOf, hmean]
  case p50 => exact hp50
  case p95 => exact hp95
  case ordered =>
    exact ⟨minimum, hminimum, maximum, hmaximum, hbounds,
      ⟨(mem_bounds_of_isPercentile hp50 hbounds).1, hp50.le_of_le hp95 (by omega),
        (mem_bounds_of_isPercentile hp95 hbounds).2⟩, hmeanBounds⟩

/-- The statistics of every nonempty list of values: the program computes them without a
panic, they are what they are called, and the order of the values does not matter. -/
theorem describeMicros_statistics {values : List UInt64} (hne : values ≠ [])
    (hlength : values.length < 2 ^ 57) :
    ∃ summary, Machine.describeMicros values = some (some summary) ∧ Summarizes values summary ∧
      ∀ permuted, values.Perm permuted → Machine.describeMicros permuted = some (some summary) := by
  have hsorted : (values.mergeSort fun a b => decide (a ≤ b)) ≠ [] := by
    intro hnil
    have hsize := congrArg List.length hnil
    rw [List.length_mergeSort, List.length_nil] at hsize
    exact hne (List.length_eq_zero_iff.mp hsize)
  obtain ⟨mean, hmean⟩ := Option.isSome_iff_exists.mp (meanU64_isSome hsorted)
  have hdescribed : describeMicros values = some
      ⟨mean, nearestRank (values.mergeSort fun a b => decide (a ≤ b)) 50,
        nearestRank (values.mergeSort fun a b => decide (a ≤ b)) 95⟩ := by
    rw [describeMicros, if_neg hne]
    simp only [hmean, Option.map_some]
  refine ⟨_, ?_, summarizes_of_describeMicros hne hdescribed, ?_⟩
  · rw [Machine.describeMicros_eq hlength, hdescribed]
  · intro permuted hperm
    have hnonempty : permuted ≠ [] := by
      intro hnil
      rw [hnil] at hperm
      exact hne hperm.eq_nil
    rw [Machine.describeMicros_eq (by rw [← hperm.length_eq]; exact hlength), ← hdescribed,
      describeMicros, describeMicros, if_neg hne, if_neg hnonempty, mergeSort_eq_of_perm hperm]

theorem describeMicros_statistics_four : ∃ summary,
    Machine.describeMicros [10, 40, 30, 20] = some (some summary) ∧
      Summarizes [10, 40, 30, 20] summary ∧
      ∀ permuted, [10, 40, 30, 20].Perm permuted →
        Machine.describeMicros permuted = some (some summary) :=
  describeMicros_statistics (List.cons_ne_nil _ _) (by decide)

end Benchplane
