import Benchplane.Library.Bytes
import Mathlib.Data.Int.Log
import Mathlib.Data.Rat.Floor
import Mathlib.Tactic.Linarith
import Mathlib.Tactic.FieldSimp
import Mathlib.Tactic.Positivity

/-!
# Rounding to binary64

The value of a binary64 operation is the exact value, rounded to 53 binary digits, to the
even one of two that are equally near.  The range of the exponent plays no role here: the
numbers are neither as large nor as small.  A number is printed with a fixed count of
decimal digits by rounding the exact value of its binary digits once more.
-/

namespace Benchplane
namespace Library

/-! ## To the nearest integer -/

/-- The nearest integer, and the even one of two. -/
def nearestEven (q : ℚ) : ℤ :=
  if q - ⌊q⌋ < 1 / 2 then ⌊q⌋
  else if 1 / 2 < q - ⌊q⌋ then ⌊q⌋ + 1
  else if ⌊q⌋ % 2 = 0 then ⌊q⌋ else ⌊q⌋ + 1

theorem abs_nearestEven_sub_le (q : ℚ) : |(nearestEven q : ℚ) - q| ≤ 1 / 2 := by
  have hfloor := Int.floor_le q
  have hceil := Int.lt_floor_add_one q
  have hbelow : |((⌊q⌋ : ℤ) : ℚ) - q| = q - ⌊q⌋ := by
    rw [abs_of_nonpos (by linarith)]
    ring
  have habove : |((⌊q⌋ + 1 : ℤ) : ℚ) - q| = ⌊q⌋ + 1 - q := by
    push_cast
    rw [abs_of_nonneg (by linarith)]
  unfold nearestEven
  split
  · rw [hbelow]
    linarith
  · split
    · rw [habove]
      linarith
    · split
      · rw [hbelow]
        linarith
      · rw [habove]
        linarith

/-- An integer less than a half away is the nearest. -/
theorem nearestEven_eq_of_near {q : ℚ} {n : ℤ} (h : |q - n| < 1 / 2) : nearestEven q = n := by
  have hnear := abs_nearestEven_sub_le q
  have hdistance : |((nearestEven q - n : ℤ) : ℚ)| < 1 := by
    push_cast
    calc |(nearestEven q : ℚ) - n| = |((nearestEven q : ℚ) - q) + (q - n)| := by ring_nf
      _ ≤ |(nearestEven q : ℚ) - q| + |q - n| := abs_add_le _ _
      _ < 1 := by linarith
  have hinteger : |nearestEven q - n| < 1 := by exact_mod_cast hdistance
  have hzero : nearestEven q - n = 0 := Int.abs_lt_one_iff.mp hinteger
  omega

@[simp] theorem nearestEven_intCast (n : ℤ) : nearestEven (n : ℚ) = n :=
  nearestEven_eq_of_near (by norm_num)

/-! ## To 53 binary digits -/

/-- The exponent of the last of 53 binary digits. -/
def lastPlace (q : ℚ) : ℤ := Int.log 2 |q| - 52

/-- The nearest number of 53 binary digits. -/
def roundBinary64 (q : ℚ) : ℚ := nearestEven (q / 2 ^ lastPlace q) * 2 ^ lastPlace q

theorem two_zpow_lastPlace_le {q : ℚ} (hq : q ≠ 0) : (2 : ℚ) ^ lastPlace q ≤ |q| / 2 ^ 52 := by
  have hpos : 0 < |q| := abs_pos.mpr hq
  have hlog : ((2 : ℕ) : ℚ) ^ Int.log 2 |q| ≤ |q| := Int.zpow_log_le_self (by norm_num) hpos
  rw [lastPlace, zpow_sub₀ (by norm_num : (2 : ℚ) ≠ 0)]
  have h52 : (2 : ℚ) ^ (52 : ℤ) = 2 ^ 52 := by norm_num
  rw [h52]
  gcongr
  exact_mod_cast hlog

/-- Rounding is off by at most half of the last place. -/
theorem abs_roundBinary64_sub_le (q : ℚ) : |roundBinary64 q - q| ≤ |q| / 2 ^ 53 := by
  by_cases hq : q = 0
  · subst hq
    simp [roundBinary64, nearestEven]
  · have hpos : (0 : ℚ) < 2 ^ lastPlace q := zpow_pos (by norm_num) _
    have hplace := two_zpow_lastPlace_le hq
    have hnear := abs_nearestEven_sub_le (q / 2 ^ lastPlace q)
    have hsplit : roundBinary64 q - q =
        ((nearestEven (q / 2 ^ lastPlace q) : ℚ) - q / 2 ^ lastPlace q) * 2 ^ lastPlace q := by
      unfold roundBinary64
      field_simp
    rw [hsplit, abs_mul, abs_of_pos hpos]
    calc |(nearestEven (q / 2 ^ lastPlace q) : ℚ) - q / 2 ^ lastPlace q| * 2 ^ lastPlace q
        ≤ 1 / 2 * 2 ^ lastPlace q := by gcongr
      _ ≤ 1 / 2 * (|q| / 2 ^ 52) := by gcongr
      _ = |q| / 2 ^ 53 := by ring

/-- Integers of up to 53 binary digits are kept. -/
theorem roundBinary64_intCast {n : ℤ} (h : |n| < 2 ^ 53) : roundBinary64 (n : ℚ) = n := by
  have hplace : lastPlace (n : ℚ) ≤ 0 := by
    by_cases hn : n = 0
    · subst hn
      simp [lastPlace]
    · have hlog : Int.log 2 |(n : ℚ)| < 53 := by
        apply (Int.lt_zpow_iff_log_lt (by norm_num) (abs_pos.mpr (by exact_mod_cast hn))).mp
        exact_mod_cast h
      unfold lastPlace
      omega
  obtain ⟨k, hk⟩ : ∃ k : ℕ, lastPlace (n : ℚ) = -k := ⟨(-lastPlace (n : ℚ)).toNat, by omega⟩
  have hscaled : (n : ℚ) / 2 ^ lastPlace (n : ℚ) = ((n * 2 ^ k : ℤ) : ℚ) := by
    rw [hk, zpow_neg, zpow_natCast, div_inv_eq_mul]
    push_cast
    rfl
  rw [roundBinary64, hscaled, nearestEven_intCast, hk, zpow_neg, zpow_natCast]
  push_cast
  field_simp

/-! ## Decimal digits -/

/-- A number below `10 ^ digits` with leading zeros. -/
def paddedRepr (digits n : Nat) : String :=
  String.ofList (List.replicate (digits - n.repr.length) '0') ++ n.repr

/-- The text of a count of units of the last of so many decimal digits. -/
def fixedText (digits : Nat) (units : ℤ) : String :=
  (if units < 0 then "-" else "") ++ (units.natAbs / 10 ^ digits).repr ++ "." ++
    paddedRepr digits (units.natAbs % 10 ^ digits)

/-- The text of a number with so many decimal digits.  The sign is that of the number. -/
def toFixed (digits : Nat) (q : ℚ) : String :=
  let units := nearestEven (q * 10 ^ digits)
  (if q < 0 then "-" else "") ++ (units.natAbs / 10 ^ digits).repr ++ "." ++
    paddedRepr digits (units.natAbs % 10 ^ digits)

/-- The quotient of an integer below `2 ^ 52` and a power of ten, computed in binary64, is
printed exactly. -/
theorem toFixed_quotient {digits : Nat} {n : ℤ} (h : |n| < 2 ^ 52) :
    toFixed digits (roundBinary64 (roundBinary64 n / 10 ^ digits)) = fixedText digits n := by
  have hpos : (0 : ℚ) < 10 ^ digits := by positivity
  have hexact : roundBinary64 (n : ℚ) = n := roundBinary64_intCast (by omega)
  have herror := abs_roundBinary64_sub_le ((n : ℚ) / 10 ^ digits)
  rw [hexact]
  generalize hx : roundBinary64 ((n : ℚ) / 10 ^ digits) = x at herror ⊢
  have hbound : |(n : ℚ)| < 2 ^ 52 := by exact_mod_cast h
  have hscaled : |x * 10 ^ digits - n| ≤ |(n : ℚ)| / 2 ^ 53 := by
    have hsplit : x * 10 ^ digits - n = (x - n / 10 ^ digits) * 10 ^ digits := by field_simp
    rw [hsplit, abs_mul, abs_of_pos hpos]
    calc |x - n / 10 ^ digits| * 10 ^ digits
        ≤ |(n : ℚ) / 10 ^ digits| / 2 ^ 53 * 10 ^ digits := by gcongr
      _ = |(n : ℚ)| / 2 ^ 53 := by
          rw [abs_div, abs_of_pos hpos]
          field_simp
  have hunits : nearestEven (x * 10 ^ digits) = n := by
    apply nearestEven_eq_of_near
    calc |x * 10 ^ digits - n| ≤ |(n : ℚ)| / 2 ^ 53 := hscaled
      _ < 2 ^ 52 / 2 ^ 53 := by gcongr
      _ = 1 / 2 := by norm_num
  -- the rounding error is too small to change the sign
  have hsign : x < 0 ↔ n < 0 := by
    have hlow := (abs_le.mp hscaled).1
    have hhigh := (abs_le.mp hscaled).2
    constructor
    · intro hneg
      by_contra hn
      have hnonneg : (0 : ℚ) ≤ n := by exact_mod_cast not_lt.mp hn
      have hprod : x * 10 ^ digits < 0 := mul_neg_of_neg_of_pos hneg hpos
      rw [abs_of_nonneg hnonneg] at hlow
      linarith
    · intro hn
      have hneg : (n : ℚ) < 0 := by exact_mod_cast hn
      rw [abs_of_neg hneg] at hhigh
      by_contra hx
      have hprod : 0 ≤ x * 10 ^ digits := mul_nonneg (not_lt.mp hx) hpos.le
      linarith
  simp only [toFixed, fixedText, hunits, hsign]

end Library
end Benchplane
