import Mathlib.Algebra.Order.Round
import Mathlib.Data.Int.Log
import Mathlib.Data.Rat.Floor
import Mathlib.Tactic.GCongr
import Mathlib.Tactic.Linarith
import Mathlib.Tactic.NormNum
import Mathlib.Tactic.Ring

/-! Quotients as binary64 numbers.

A number has 53 significant bits and the nearest one is taken, the even one of two. The numbers of here are neither too
large nor too small for the exponent of the format. -/

set_option autoImplicit false

namespace AiStore.Library

/-- The nearest integer, and of two the even one. -/
def nearestEven (x : ℚ) : ℤ :=
  let part := x - ⌊x⌋
  if part < 1 / 2 ∨ part = 1 / 2 ∧ ⌊x⌋ % 2 = 0 then ⌊x⌋ else ⌊x⌋ + 1

/-- The distance of the numbers of the size of `x`. -/
def spacing (x : ℚ) : ℚ := 2 ^ (Int.log 2 |x| - 52)

def binary64 (x : ℚ) : ℚ := nearestEven (x / spacing x) * spacing x

section

variable {x : ℚ}

theorem nearestEven_error (x : ℚ) : |nearestEven x - x| ≤ 1 / 2 := by
  have below := Int.floor_le x
  have above := Int.lt_floor_add_one x
  unfold nearestEven
  simp only
  split
  · next low =>
    rw [abs_le]
    rcases low with low | ⟨low, -⟩
    · constructor <;> linarith
    · constructor <;> linarith
  · next high =>
    have half : 1 / 2 ≤ x - ⌊x⌋ := not_lt.mp fun low => high (.inl low)
    push_cast
    rw [abs_le]
    constructor <;> linarith

theorem nearestEven_int (n : ℤ) : nearestEven n = n := by
  simp only [nearestEven, Int.floor_intCast, sub_self, one_div, inv_pos, Nat.ofNat_pos, true_or, if_true]

theorem spacing_pos (x : ℚ) : 0 < spacing x := zpow_pos (by norm_num) _

/-- A number is large against its distance from the next. -/
theorem spacing_le (nonzero : x ≠ 0) : spacing x * 2 ^ 52 ≤ |x| := by
  have size := Int.zpow_log_le_self (b := 2) (by norm_num) (abs_pos.mpr nonzero)
  rw [spacing, ← zpow_natCast (2 : ℚ) 52, ← zpow_add₀ (by norm_num)]
  simpa using size

theorem binary64_zero : binary64 0 = 0 := by
  have nearest := nearestEven_int 0
  rw [Int.cast_zero] at nearest
  rw [binary64, zero_div, nearest, Int.cast_zero, zero_mul]

theorem binary64_error (x : ℚ) : |binary64 x - x| * 2 ^ 53 ≤ |x| := by
  by_cases zero : x = 0
  · simp [zero, binary64_zero]
  · have apart := (spacing_pos x).ne'
    have scaled : binary64 x - x = (nearestEven (x / spacing x) - x / spacing x) * spacing x := by
      rw [binary64, sub_mul, div_mul_cancel₀ x apart]
    have error := nearestEven_error (x / spacing x)
    have positive := spacing_pos x
    rw [scaled, abs_mul, abs_of_pos positive]
    calc |nearestEven (x / spacing x) - x / spacing x| * spacing x * 2 ^ 53
        ≤ 1 / 2 * spacing x * 2 ^ 53 := by gcongr
      _ = spacing x * 2 ^ 52 := by ring
      _ ≤ |x| := spacing_le zero

/-- Integers of up to 53 bits are numbers of the format. -/
theorem binary64_int {n : ℤ} (small : |n| < 2 ^ 53) : binary64 n = n := by
  by_cases zero : n = 0
  · simp [zero, binary64_zero]
  · have positive : (0 : ℚ) < |(n : ℚ)| := abs_pos.mpr (by exact_mod_cast zero)
    have bounded : Int.log 2 |(n : ℚ)| < 53 := by
      apply (Int.lt_zpow_iff_log_lt (by norm_num) positive).mp
      exact_mod_cast small
    -- the number is a multiple of the spacing
    obtain ⟨k, exponent⟩ : ∃ k : ℕ, 52 - Int.log 2 |(n : ℚ)| = k := ⟨_, (Int.toNat_of_nonneg (by omega)).symm⟩
    have unit : spacing n = (2 ^ k)⁻¹ := by
      rw [spacing, show Int.log 2 |(n : ℚ)| - 52 = -(k : ℤ) by omega, zpow_neg, zpow_natCast]
    have whole : (n : ℚ) / spacing n = ((n * 2 ^ k : ℤ) : ℚ) := by
      rw [unit, div_inv_eq_mul]
      push_cast
      rfl
    rw [binary64, whole, nearestEven_int, ← whole, div_mul_cancel₀ _ (spacing_pos _).ne']

end

/-! ## Seconds of microseconds -/

/-- Microseconds as a number of seconds. -/
def totalSeconds (micros : ℤ) : ℚ := binary64 (micros / 1000000)

section

variable {micros n : ℤ}

theorem totalSeconds_gt (small : |n| < 2 ^ 33) (more : n * 1000000 < micros) : n < totalSeconds micros := by
  have error := binary64_error ((micros : ℚ) / 1000000)
  have small : |(n : ℚ)| ≤ 2 ^ 33 - 1 := by exact_mod_cast Int.le_sub_one_of_lt small
  have more : (n : ℚ) + 1 / 1000000 ≤ micros / 1000000 := by
    have : (n : ℚ) * 1000000 + 1 ≤ micros := by exact_mod_cast more
    linarith
  obtain ⟨low, high⟩ := abs_le.mp small
  unfold totalSeconds
  generalize (micros : ℚ) / 1000000 = x at error more
  have near := neg_le_of_abs_le (le_refl |binary64 x - x|)
  rcases abs_cases x with ⟨size, -⟩ | ⟨size, -⟩
  · rw [size] at error
    linarith
  · rw [size] at error
    linarith

theorem totalSeconds_lt (small : |n| < 2 ^ 33) (less : micros < n * 1000000) : totalSeconds micros < n := by
  have error := binary64_error ((micros : ℚ) / 1000000)
  have small : |(n : ℚ)| ≤ 2 ^ 33 - 1 := by exact_mod_cast Int.le_sub_one_of_lt small
  have less : (micros : ℚ) / 1000000 ≤ n - 1 / 1000000 := by
    have : (micros : ℚ) + 1 ≤ n * 1000000 := by exact_mod_cast less
    linarith
  obtain ⟨low, high⟩ := abs_le.mp small
  unfold totalSeconds
  generalize (micros : ℚ) / 1000000 = x at error less
  have near := le_abs_self (binary64 x - x)
  rcases abs_cases x with ⟨size, -⟩ | ⟨size, -⟩
  · rw [size] at error
    linarith
  · rw [size] at error
    linarith

theorem totalSeconds_whole (small : |n| < 2 ^ 33) : totalSeconds (n * 1000000) = n := by
  have whole : ((n * 1000000 : ℤ) : ℚ) / 1000000 = n := by
    push_cast
    exact mul_div_cancel_right₀ _ (by norm_num)
  rw [totalSeconds, whole, binary64_int (lt_trans small (by norm_num))]

/-- Up to 2^33 whole seconds the number tells what the microseconds tell. -/
theorem lt_totalSeconds_iff (small : |n| < 2 ^ 33) : n < totalSeconds micros ↔ n * 1000000 < micros := by
  refine ⟨fun more => ?_, totalSeconds_gt small⟩
  rcases lt_trichotomy micros (n * 1000000) with less | rfl | greater
  · exact absurd more (totalSeconds_lt small less).not_gt
  · exact absurd more (totalSeconds_whole small).not_gt
  · exact greater

theorem totalSeconds_lt_iff (small : |n| < 2 ^ 33) : totalSeconds micros < n ↔ micros < n * 1000000 := by
  refine ⟨fun less => ?_, totalSeconds_lt small⟩
  rcases lt_trichotomy micros (n * 1000000) with smaller | rfl | greater
  · exact smaller
  · exact absurd less (totalSeconds_whole small).not_lt
  · exact absurd less (totalSeconds_gt small greater).not_gt

end

/-! ## Whole numbers -/

/-- The whole number in the direction of zero. -/
def truncated (x : ℚ) : ℤ := if 0 ≤ x then ⌊x⌋ else ⌈x⌉

theorem lt_truncated_iff {x : ℚ} {n : ℤ} (nonneg : 0 ≤ n) : n < truncated x ↔ ((n + 1 : ℤ) : ℚ) ≤ x := by
  unfold truncated
  split
  · rw [Int.lt_iff_add_one_le, Int.le_floor]
  · next negative =>
    have below : ⌈x⌉ ≤ 0 := Int.ceil_le.mpr (by exact_mod_cast (not_le.mp negative).le)
    have above : (0 : ℚ) ≤ ((n + 1 : ℤ) : ℚ) := by exact_mod_cast (by omega : (0 : ℤ) ≤ n + 1)
    exact iff_of_false (by omega) fun more => negative (above.trans more)

theorem truncated_neg_iff {x : ℚ} : truncated x < 0 ↔ x ≤ -1 := by
  unfold truncated
  split
  · next nonneg =>
    have floor : 0 ≤ ⌊x⌋ := Int.floor_nonneg.mpr nonneg
    exact iff_of_false (by omega) fun below => by linarith
  · rw [Int.lt_iff_add_one_le, ← le_sub_iff_add_le, Int.ceil_le]
    norm_num

end AiStore.Library
