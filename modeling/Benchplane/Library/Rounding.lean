import Mathlib.Algebra.BigOperators.Group.List.Basic
import Mathlib.Algebra.Order.Floor.Div
import Mathlib.GroupTheory.GroupAction.Ring
import Mathlib.Tactic.Linarith
import Mathlib.Tactic.Ring

/-!
# Means of rounded values

Raw durations are counted in a fine unit and reported in a coarse one, rounded
up, both one by one and as their mean.  The reported mean and the reported
values then determine each other up to an interval, and the interval is exact:
each of its values is the mean of some raw durations.
-/

namespace Benchplane
namespace Library

/-- Division that adds one unless it is exact is division rounded up. -/
theorem div_add_one_unless_dvd_eq_ceilDiv (n : Nat) {d : Nat} (hd : 0 < d) :
    (n / d + if n % d = 0 then 0 else 1) = n ⌈/⌉ d := by
  apply le_antisymm
  · have hupper := le_smul_ceilDiv (b := n) hd
    rw [smul_eq_mul] at hupper
    have hsplit := Nat.div_add_mod n d
    split
    · rename_i hexact
      refine Nat.le_of_mul_le_mul_left ?_ hd
      rw [Nat.add_zero]
      omega
    · rename_i hrest
      refine Nat.succ_le_of_lt (Nat.lt_of_mul_lt_mul_left (a := d) ?_)
      omega
  · rw [ceilDiv_le_iff_le_mul hd]
    have hsplit := Nat.div_add_mod n d
    have hlt := Nat.mod_lt n hd
    split
    · rw [Nat.add_zero]
      omega
    · rw [Nat.mul_add, Nat.mul_one]
      omega

/-- A positive number stays positive when it is divided and rounded up. -/
theorem ceilDiv_pos {n d : Nat} (hd : 0 < d) (hn : 0 < n) : 0 < n ⌈/⌉ d := by
  by_contra hzero
  have hle := (ceilDiv_le_iff_le_mul (b := n) (c := 0) hd).mp (by omega)
  omega

/-- The values reported for raw durations in units of `unit`. -/
def Reports (unit : Nat) (raw values : List Nat) : Prop :=
  (∀ n ∈ raw, 0 < n) ∧ raw.map (· ⌈/⌉ unit) = values

/-- `mean` can be the reported mean of raw durations that are reported as `values`. -/
def IsReportedMean (unit : Nat) (values : List Nat) (mean : Nat) : Prop :=
  ∃ raw, Reports unit raw values ∧ raw.sum ⌈/⌉ (unit * raw.length) = mean

variable {unit : Nat}

theorem ceilDiv_eq_iff (hunit : 0 < unit) {n value : Nat} (hvalue : 0 < value) :
    n ⌈/⌉ unit = value ↔ unit * (value - 1) < n ∧ n ≤ unit * value := by
  obtain ⟨below, rfl⟩ : ∃ below, value = below + 1 := ⟨value - 1, by omega⟩
  have hle := ceilDiv_le_iff_le_mul (b := n) (c := below + 1) hunit
  have hlt := ceilDiv_le_iff_le_mul (b := n) (c := below) hunit
  simp only [Nat.add_sub_cancel]
  omega

theorem length_le_sum {values : List Nat} (hpos : ∀ value ∈ values, 0 < value) :
    values.length ≤ values.sum := by
  induction values with
  | nil => simp
  | cons value rest ih =>
      have hvalue := hpos value List.mem_cons_self
      have hrest := ih fun other hmem => hpos other (List.mem_cons_of_mem _ hmem)
      simp only [List.length_cons, List.sum_cons]
      omega

/-- The least raw sum is not above the greatest one. -/
theorem least_le_greatest (hunit : 0 < unit) {count total : Nat} (h : count ≤ total) :
    unit * (total - count) + count ≤ unit * total := by
  obtain ⟨spread, rfl⟩ : ∃ spread, total = count + spread := ⟨total - count, by omega⟩
  have hmul : count ≤ unit * count := Nat.le_mul_of_pos_left _ hunit
  rw [Nat.add_sub_cancel_left, Nat.mul_add]
  omega

/-- The sums of raw durations reported as given values form an interval. -/
theorem exists_reports_sum_iff (hunit : 0 < unit) {values : List Nat}
    (hpos : ∀ value ∈ values, 0 < value) {total : Nat} :
    (∃ raw, Reports unit raw values ∧ raw.sum = total) ↔
      unit * (values.sum - values.length) + values.length ≤ total ∧
        total ≤ unit * values.sum := by
  induction values generalizing total with
  | nil =>
      simp only [Reports, List.map_eq_nil_iff, List.sum_nil, List.length_nil]
      constructor
      · rintro ⟨raw, ⟨-, rfl⟩, rfl⟩
        simp
      · intro h
        exact ⟨[], ⟨by simp, rfl⟩, by simp at h; simp [h]⟩
  | cons value rest ih =>
      have hvalue : 0 < value := hpos value List.mem_cons_self
      have hrestPos : ∀ other ∈ rest, 0 < other := fun other hmem =>
        hpos other (List.mem_cons_of_mem _ hmem)
      have hlength := length_le_sum hrestPos
      -- the bounds of the whole list are the bounds of its head plus those of the rest
      have hlower : unit * ((value :: rest).sum - (value :: rest).length) +
          (value :: rest).length =
          (unit * (value - 1) + 1) + (unit * (rest.sum - rest.length) + rest.length) := by
        obtain ⟨below, rfl⟩ : ∃ below, value = below + 1 := ⟨value - 1, by omega⟩
        obtain ⟨spread, hspread⟩ : ∃ spread, rest.sum = rest.length + spread :=
          ⟨rest.sum - rest.length, by omega⟩
        simp only [List.sum_cons, List.length_cons, hspread]
        have hdifference : below + 1 + (rest.length + spread) - (rest.length + 1) =
            below + spread := by omega
        rw [hdifference]
        simp only [Nat.add_sub_cancel, Nat.add_sub_cancel_left]
        ring
      have hupper : unit * (value :: rest).sum = unit * value + unit * rest.sum := by
        rw [List.sum_cons, Nat.mul_add]
      rw [hlower, hupper]
      constructor
      · rintro ⟨raw, ⟨hraw, hmap⟩, rfl⟩
        obtain ⟨n, tail, rfl, hn, htail⟩ := List.map_eq_cons_iff.mp hmap
        have hhead := (ceilDiv_eq_iff hunit hvalue).mp hn
        have hbounds := (ih hrestPos).mp ⟨tail, ⟨fun m hm => hraw m (by simp [hm]), htail⟩, rfl⟩
        rw [List.sum_cons]
        omega
      · rintro ⟨hlow, hhigh⟩
        -- as much as the rest cannot take goes to the head
        obtain ⟨n, hn, hrest⟩ : ∃ n, (unit * (value - 1) < n ∧ n ≤ unit * value) ∧
            unit * (rest.sum - rest.length) + rest.length ≤ total - n ∧
            total - n ≤ unit * rest.sum ∧ n ≤ total := by
          have hstep : unit * (value - 1) + 1 ≤ unit * value := by
            obtain ⟨below, rfl⟩ : ∃ below, value = below + 1 := ⟨value - 1, by omega⟩
            rw [Nat.add_sub_cancel, Nat.mul_add]
            omega
          by_cases hcase : total ≤ unit * (value - 1) + 1 + unit * rest.sum
          · exact ⟨unit * (value - 1) + 1, by omega⟩
          · have hspread := least_le_greatest hunit hlength
            exact ⟨total - unit * rest.sum, by omega⟩
        obtain ⟨tail, ⟨htailPos, htail⟩, hsum⟩ := (ih hrestPos).mpr ⟨hrest.1, hrest.2.1⟩
        refine ⟨n :: tail, ⟨fun m hm => ?_, ?_⟩, ?_⟩
        · rcases List.mem_cons.mp hm with rfl | hm
          · omega
          · exact htailPos m hm
        · rw [List.map_cons, htail, (ceilDiv_eq_iff hunit hvalue).mpr hn]
        · rw [List.sum_cons, hsum]
          omega

/-- The reported means of given values form an interval. -/
theorem isReportedMean_iff (hunit : 0 < unit) {values : List Nat} (hne : values ≠ [])
    (hpos : ∀ value ∈ values, 0 < value) {mean : Nat} :
    IsReportedMean unit values mean ↔
      (unit * (values.sum - values.length) + values.length) ⌈/⌉ (unit * values.length) ≤ mean ∧
        mean ≤ (unit * values.sum) ⌈/⌉ (unit * values.length) := by
  have hlength : 0 < values.length := List.length_pos_of_ne_nil hne
  have hdivisor : 0 < unit * values.length := Nat.mul_pos hunit hlength
  have hmono : ∀ {a b : Nat}, a ≤ b → a ⌈/⌉ (unit * values.length) ≤ b ⌈/⌉ (unit * values.length) :=
    fun hab => (gc_mul_ceilDiv hdivisor).monotone_l hab
  constructor
  · rintro ⟨raw, hreports, rfl⟩
    have hraw : raw.length = values.length := by rw [← hreports.2, List.length_map]
    obtain ⟨hlow, hhigh⟩ := (exists_reports_sum_iff hunit hpos).mp ⟨raw, hreports, rfl⟩
    rw [hraw]
    exact ⟨hmono hlow, hmono hhigh⟩
  · rintro ⟨hlow, hhigh⟩
    generalize hlowest : unit * (values.sum - values.length) + values.length = lowest at hlow
    have hlowestPos : 0 < lowest := by omega
    have hmean : 0 < mean := by
      by_contra hzero
      obtain rfl : mean = 0 := by omega
      have hle := (ceilDiv_le_iff_le_mul hdivisor).mp hlow
      omega
    have hreach : unit * values.length * (mean - 1) < unit * values.sum := by
      by_contra hnot
      have hle := (ceilDiv_le_iff_le_mul (b := unit * values.sum) (c := mean - 1) hdivisor).mpr
        (not_lt.mp hnot)
      omega
    have hfits : lowest ≤ unit * values.length * mean := (ceilDiv_le_iff_le_mul hdivisor).mp hlow
    have hlowHigh : lowest ≤ unit * values.sum :=
      hlowest ▸ least_le_greatest hunit (length_le_sum hpos)
    -- the least sum that rounds up to the mean, unless the values force a larger one
    have hbetween : unit * (values.sum - values.length) + values.length ≤
        max lowest (unit * values.length * (mean - 1) + 1) := hlowest ▸ le_max_left _ _
    obtain ⟨raw, hreports, hsum⟩ := (exists_reports_sum_iff hunit hpos).mpr
      ⟨hbetween, max_le hlowHigh hreach⟩
    have hraw : raw.length = values.length := by rw [← hreports.2, List.length_map]
    refine ⟨raw, hreports, ?_⟩
    rw [hraw, hsum, ceilDiv_eq_iff hdivisor hmean]
    have hstep : unit * values.length * (mean - 1) + 1 ≤ unit * values.length * mean := by
      obtain ⟨below, rfl⟩ : ∃ below, mean = below + 1 := ⟨mean - 1, by omega⟩
      rw [Nat.add_sub_cancel, Nat.mul_add]
      omega
    exact ⟨lt_of_lt_of_le (Nat.lt_succ_self _) (le_max_right _ _), max_le hfits hstep⟩

end Library
end Benchplane
