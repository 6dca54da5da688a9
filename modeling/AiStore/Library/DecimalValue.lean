import AiStore.Library.Decimal
import Mathlib.Data.Rat.Cast.Order
import Mathlib.Algebra.Order.Field.Power
import Mathlib.Tactic.Linarith
import Mathlib.Tactic.NormNum
import Mathlib.Tactic.Ring

/-! The rational numbers behind decimals, and the operations that do not round. -/

set_option autoImplicit false

namespace AiStore.Library

namespace Decimal

/-! ## Values -/

def signed (number : Decimal) : Int := if number.negative then -number.coefficient else number.coefficient

def value (number : Decimal) : ℚ := number.signed * 10 ^ number.exponent

theorem ten_pow_pos (exponent : Int) : (0 : ℚ) < 10 ^ exponent := zpow_pos (by norm_num) exponent

@[simp] theorem value_ofInt (number : Int) : (ofInt number).value = number := by
  have same : (ofInt number).signed = number := by
    simp only [signed, ofInt]
    by_cases negative : number < 0
    · simp only [negative, decide_true, if_true]
      omega
    · simp only [negative, decide_false, Bool.false_eq_true, if_false]
      omega
  rw [value, same]
  simp [ofInt]

theorem ten_pow_split {low high : Int} (below : low ≤ high) : (10 : ℚ) ^ (high - low).toNat * 10 ^ low = 10 ^ high := by
  rw [← zpow_natCast, Int.toNat_of_nonneg (by omega), ← zpow_add₀ (by norm_num)]
  congr 1
  omega

/-- At a lower exponent the scaled coefficient has the same value. -/
theorem scaled_value {number : Decimal} {exponent : Int} (below : exponent ≤ number.exponent) :
    (number.scaled exponent : ℚ) * 10 ^ exponent = number.value := by
  have scaled_eq : number.scaled exponent = number.signed * 10 ^ (number.exponent - exponent).toNat := by
    simp only [scaled, signed]
    split <;> simp
  rw [scaled_eq, value, Int.cast_mul, Int.cast_pow, Int.cast_ofNat, mul_assoc, ten_pow_split below]

theorem le_iff_value (first second : Decimal) : first.le second = true ↔ first.value ≤ second.value := by
  have left := scaled_value (min_le_left first.exponent second.exponent)
  have right := scaled_value (min_le_right first.exponent second.exponent)
  rw [← left, ← right, mul_le_mul_iff_left₀ (ten_pow_pos _), Int.cast_le]
  simp [le]

theorem lt_iff_value (first second : Decimal) : first.lt second = true ↔ first.value < second.value := by
  rw [← not_le, ← le_iff_value]
  simp [lt]

/-! ## Digits -/

theorem size_le_iff {number digits : Nat} (some_digit : 0 < digits) : size number ≤ digits ↔ number < 10 ^ digits :=
  Nat.length_toDigits_le_iff (by decide) some_digit

/-- A number that 28 digits can show. -/
def Representable (number : ℚ) : Prop := ∃ (shown exponent : Int), shown.natAbs < 10 ^ precision ∧ number = shown * 10 ^ exponent

theorem Representable.abs {number : ℚ} (shows : Representable number) : Representable |number| := by
  obtain ⟨shown, exponent, few, rfl⟩ := shows
  refine ⟨|shown|, exponent, by rwa [Int.natAbs_abs], ?_⟩
  rw [abs_mul, abs_of_pos (ten_pow_pos exponent), Int.cast_abs]

/-- The digits of a representable number beyond the precision are zeros. -/
theorem dvd_of_representable {coefficient excess : Nat} {exponent : Int}
    (shows : Representable ((coefficient : ℚ) * 10 ^ exponent)) (long : 10 ^ (precision + excess) ≤ coefficient) :
    10 ^ (excess + 1) ∣ coefficient := by
  obtain ⟨shown, other, few, same⟩ := shows
  -- the number of zeros is the distance of the exponents
  rcases le_or_gt exponent other with below | above
  · have equal : coefficient = shown.natAbs * 10 ^ (other - exponent).toNat := by
      rw [← ten_pow_split below, ← mul_assoc] at same
      have cancelled := mul_right_cancel₀ (ten_pow_pos exponent).ne' same
      have integers : (coefficient : ℤ) = shown * 10 ^ (other - exponent).toNat := by exact_mod_cast cancelled
      have absolute := congrArg Int.natAbs integers
      rwa [Int.natAbs_natCast, Int.natAbs_mul, Int.natAbs_pow] at absolute
    have zeros : excess + 1 ≤ (other - exponent).toNat := by
      by_contra few_zeros
      have most : 10 ^ (other - exponent).toNat ≤ 10 ^ excess := Nat.pow_le_pow_right (by decide) (by omega)
      have short : coefficient < 10 ^ (precision + excess) := by
        rw [equal, pow_add]
        exact Nat.mul_lt_mul_of_lt_of_le few most (by positivity)
      omega
    rw [equal]
    exact (Nat.pow_dvd_pow 10 zeros).mul_left _
  · have equal : coefficient * 10 ^ (exponent - other).toNat = shown.natAbs := by
      rw [← ten_pow_split above.le, ← mul_assoc] at same
      have cancelled := mul_right_cancel₀ (ten_pow_pos other).ne' same
      have integers : (coefficient : ℤ) * 10 ^ (exponent - other).toNat = shown := by exact_mod_cast cancelled
      have absolute := congrArg Int.natAbs integers
      rwa [Int.natAbs_mul, Int.natAbs_natCast, Int.natAbs_pow] at absolute
    have whole : coefficient ≤ shown.natAbs := equal ▸ Nat.le_mul_of_pos_right _ (by positivity)
    have short : 10 ^ precision ≤ 10 ^ (precision + excess) := Nat.pow_le_pow_right (by decide) (by omega)
    omega

/-! ## Rounding -/

theorem halfEven_of_dvd {number digits : Nat} (exact : 10 ^ digits ∣ number) :
    halfEven number digits = number / 10 ^ digits := by
  have some_digit : 0 < 10 ^ digits := by positivity
  have kept : ¬ (10 ^ digits < 0 ∨ 10 ^ digits = 0 ∧ number / 10 ^ digits % 2 = 1) := by omega
  simp only [halfEven, Nat.mod_eq_zero_of_dvd exact, Nat.mul_zero, kept, if_false]

theorem halfEven_zero (number : Nat) : halfEven number 0 = number :=
  (halfEven_of_dvd (one_dvd number)).trans (Nat.div_one number)

/-- Rounding leaves a representable number as it is. -/
theorem size_bounds {number : Nat} (positive : 0 < number) :
    10 ^ (size number - 1) ≤ number ∧ number < 10 ^ size number := by
  have some_digit : 0 < size number := Nat.length_toDigits_pos
  refine ⟨?_, (size_le_iff some_digit).mp le_rfl⟩
  by_contra short
  rcases Nat.eq_zero_or_pos (size number - 1) with one | more
  · rw [one, pow_zero] at short
    omega
  · have := (size_le_iff more).mpr (Nat.not_le.mp short)
    omega

/-- What is too long for the precision, by its excess digits. -/
theorem exists_excess {coefficient : Nat} (long : ¬ size coefficient ≤ precision) :
    ∃ excess, size coefficient = precision + excess + 1 ∧ 10 ^ (precision + excess) ≤ coefficient ∧
      coefficient < 10 ^ (precision + excess + 1) := by
  have positive : 0 < coefficient := by
    refine Nat.pos_of_ne_zero ?_
    rintro rfl
    exact long (by decide)
  obtain ⟨excess, sized⟩ : ∃ excess, size coefficient = precision + excess + 1 :=
    ⟨size coefficient - precision - 1, by omega⟩
  obtain ⟨least, most⟩ := size_bounds positive
  rw [sized] at least most
  exact ⟨excess, sized, least, most⟩

theorem rounded_value {negative : Bool} {coefficient : Nat} {exponent : Int}
    (shows : Representable ((coefficient : ℚ) * 10 ^ exponent)) :
    (rounded negative coefficient exponent).value =
      ((if negative then -coefficient else coefficient : Int) : ℚ) * 10 ^ exponent := by
  by_cases short : size coefficient ≤ precision
  · have excess : size coefficient - precision = 0 := by omega
    simp only [rounded, excess, halfEven_zero, if_neg (Nat.not_lt.mpr short), value, signed, Nat.cast_zero, add_zero]
  · obtain ⟨excess, long, large, bound⟩ := exists_excess short
    obtain ⟨kept, rfl⟩ := dvd_of_representable shows large
    have dropped : size (10 ^ (excess + 1) * kept) - precision = excess + 1 := by omega
    have fits : ¬ precision < size kept := by
      rw [add_assoc, pow_add 10 precision, mul_comm (10 ^ precision)] at bound
      have few := Nat.lt_of_mul_lt_mul_left bound
      exact Nat.not_lt.mpr ((size_le_iff (by decide)).mpr few)
    have divided : 10 ^ (excess + 1) * kept / 10 ^ (excess + 1) = kept := Nat.mul_div_cancel_left _ (by positivity)
    simp only [rounded, dropped, halfEven_of_dvd (Nat.dvd_mul_right _ _), divided, if_neg fits, value, signed]
    rw [zpow_add₀ (by norm_num), zpow_natCast]
    cases negative
    · simp only [Bool.false_eq_true, if_false]
      push_cast
      ring
    · simp only [if_true]
      push_cast
      ring

theorem sub_value {first second : Decimal} (shows : Representable (first.value - second.value)) :
    (first.sub second).value = first.value - second.value := by
  have left := scaled_value (min_le_left first.exponent second.exponent)
  have right := scaled_value (min_le_right first.exponent second.exponent)
  rw [← left, ← right, ← sub_mul, ← Int.cast_sub] at shows ⊢
  have sized : Representable (((first.scaled (min first.exponent second.exponent) -
      second.scaled (min first.exponent second.exponent)).natAbs : ℚ) * 10 ^ min first.exponent second.exponent) := by
    have absolute := shows.abs
    rwa [abs_mul, abs_of_pos (ten_pow_pos _), ← Int.cast_abs, Int.abs_eq_natAbs, Int.cast_natCast] at absolute
  rw [sub, rounded_value sized]
  congr 2
  generalize first.scaled (min first.exponent second.exponent) - second.scaled (min first.exponent second.exponent) = difference
  by_cases negative : difference < 0
  · simp only [negative, decide_true, if_true]
    omega
  · simp only [negative, decide_false, Bool.false_eq_true, if_false]
    omega

theorem mul_value {first second : Decimal} (shows : Representable (first.value * second.value)) :
    (first.mul second).value = first.value * second.value := by
  have product : first.value * second.value =
      (first.signed * second.signed : Int) * 10 ^ (first.exponent + second.exponent) := by
    rw [value, value, zpow_add₀ (by norm_num), Int.cast_mul]
    ring
  have sign : (if (first.negative ^^ second.negative) = true then -((first.coefficient * second.coefficient : Nat) : Int)
      else (first.coefficient * second.coefficient : Nat)) = first.signed * second.signed := by
    simp only [signed]
    cases first.negative <;> cases second.negative <;> simp
  have sized : Representable (((first.coefficient * second.coefficient : Nat) : ℚ) *
      10 ^ (first.exponent + second.exponent)) := by
    have absolute := shows.abs
    have natural : |first.signed * second.signed| = ((first.coefficient * second.coefficient : Nat) : Int) := by
      simp only [signed]
      cases first.negative <;> cases second.negative <;> simp [abs_mul]
    rwa [product, abs_mul, abs_of_pos (ten_pow_pos _), ← Int.cast_abs, natural, Int.cast_natCast] at absolute
  rw [mul, rounded_value sized, product]
  congr 2

/-! ## Results that have room -/

theorem abs_value (number : Decimal) : |number.value| = number.coefficient * 10 ^ number.exponent := by
  have absolute : |number.signed| = (number.coefficient : Int) := by
    simp only [signed]
    cases number.negative <;> simp
  rw [value, abs_mul, abs_of_pos (ten_pow_pos _), ← Int.cast_abs, absolute, Int.cast_natCast]

/-- The bound of what is shown in 28 digits of a unit, once rounded to it. -/
def room : ℚ := 10 ^ precision - 1 / 2

theorem halfUp_lt {number digits bound : Nat} (below : 2 * number + 10 ^ digits < 2 * (bound * 10 ^ digits)) :
    halfUp number digits < bound := by
  have split := Nat.div_add_mod number (10 ^ digits)
  have dropped := Nat.mod_lt number (by positivity : 0 < 10 ^ digits)
  simp only [halfUp]
  generalize number / 10 ^ digits = kept at split
  by_contra reached
  split at reached
  · next up =>
    have := Nat.mul_le_mul_right (10 ^ digits) (Nat.not_lt.mp reached)
    rw [Nat.add_mul, Nat.one_mul, Nat.mul_comm kept] at this
    omega
  · next down =>
    have := Nat.mul_le_mul_right (10 ^ digits) (Nat.not_lt.mp reached)
    rw [Nat.mul_comm kept] at this
    omega

theorem quantize_of_room {number : Decimal} {exponent : Int} (fits : |number.value| < room * 10 ^ exponent) :
    ∃ result, number.quantize exponent = some result := by
  rw [abs_value, room] at fits
  have few : ∀ coefficient : Nat, coefficient < 10 ^ precision → size coefficient ≤ precision := fun _ =>
    (size_le_iff (by decide)).mpr
  simp only [quantize]
  split
  · next below =>
    rw [← ten_pow_split below, ← mul_assoc, mul_lt_mul_iff_left₀ (ten_pow_pos _)] at fits
    have small : number.coefficient * 10 ^ (number.exponent - exponent).toNat < 10 ^ precision := by
      have : ((number.coefficient * 10 ^ (number.exponent - exponent).toNat : Nat) : ℚ) < (10 ^ precision : Nat) := by
        push_cast
        linarith
      exact_mod_cast this
    exact ⟨_, if_pos (few _ small)⟩
  · next above =>
    rw [← ten_pow_split (Int.not_le.mp above).le, ← mul_assoc, mul_lt_mul_iff_left₀ (ten_pow_pos _)] at fits
    have small : halfUp number.coefficient (exponent - number.exponent).toNat < 10 ^ precision := by
      apply halfUp_lt
      have : ((2 * number.coefficient + 10 ^ (exponent - number.exponent).toNat : Nat) : ℚ) <
          (2 * (10 ^ precision * 10 ^ (exponent - number.exponent).toNat) : Nat) := by
        push_cast
        linarith
      exact_mod_cast this
    exact ⟨_, if_pos (few _ small)⟩

/-! ## Quotients -/

/-- Rounding adds at most half of a unit. -/
theorem halfEven_le (number digits : Nat) : 2 * (halfEven number digits * 10 ^ digits) ≤ 2 * number + 10 ^ digits := by
  have split := Nat.div_add_mod number (10 ^ digits)
  simp only [halfEven]
  generalize number / 10 ^ digits = kept at split
  split
  · next up =>
    rw [Nat.add_mul, Nat.one_mul, Nat.mul_comm kept]
    omega
  · rw [Nat.mul_comm kept]
    omega

theorem halfEven_most {number digits : Nat} (below : number < 10 ^ (precision + digits)) :
    halfEven number digits ≤ 10 ^ precision := by
  have half := halfEven_le number digits
  have unit : 0 < 10 ^ digits := by positivity
  rw [pow_add] at below
  by_contra more
  have := Nat.mul_le_mul_right (10 ^ digits) (Nat.not_le.mp more)
  rw [Nat.succ_mul] at this
  omega

/-- A carry leaves the value as it is. -/
theorem abs_rounded_value {negative : Bool} {coefficient excess : Nat} {exponent : Int}
    (dropped : size coefficient - precision = excess) (most : halfEven coefficient excess ≤ 10 ^ precision) :
    |(rounded negative coefficient exponent).value| = halfEven coefficient excess * 10 ^ (exponent + excess) := by
  simp only [rounded, dropped]
  split
  · next carried =>
    have full : halfEven coefficient excess = 10 ^ precision := by
      have large : ¬ halfEven coefficient excess < 10 ^ precision := fun short =>
        absurd ((size_le_iff (by decide : 0 < precision)).mpr short) (Nat.not_le.mpr carried)
      omega
    rw [abs_value, full, zpow_add₀ (by norm_num) _ 1]
    norm_num [precision]
    ring
  · exact abs_value _

/-- What is rounded up to the room of a unit was there before, and on a multiple of five. -/
theorem reaches_room {negative : Bool} {coefficient : Nat} {exponent unit : Int} (long : 10 ^ precision ≤ coefficient)
    (reached : room * 10 ^ unit ≤ |(rounded negative coefficient exponent).value|) :
    ∃ bound, 5 ∣ bound ∧ bound ≤ coefficient ∧ room * 10 ^ unit ≤ (bound : ℚ) * 10 ^ exponent := by
  have too_long : ¬ size coefficient ≤ precision := fun short =>
    absurd ((size_le_iff (by decide)).mp short) (Nat.not_lt.mpr long)
  obtain ⟨excess, sized, above, below⟩ := exists_excess too_long
  have half := halfEven_le coefficient (excess + 1)
  have most : halfEven coefficient (excess + 1) ≤ 10 ^ precision := halfEven_most below
  have shown : |(rounded negative coefficient exponent).value| =
      halfEven coefficient (excess + 1) * 10 ^ (exponent + (excess + 1 : Nat)) := abs_rounded_value (by omega) most
  generalize halfEven coefficient (excess + 1) = kept at half most shown
  rw [shown] at reached
  have spread : (10 : ℚ) ^ (exponent + (excess + 1 : Nat)) = 10 ^ (excess + 1) * 10 ^ exponent := by
    rw [zpow_add₀ (by norm_num), zpow_natCast, mul_comm]
  have few : (kept : ℚ) ≤ 10 ^ precision := by exact_mod_cast most
  rcases lt_trichotomy (exponent + (excess + 1 : Nat)) unit with finer | same | coarser
  · exfalso
    -- so fine a unit leaves the result a digit short
    have scale : (10 : ℚ) ^ (exponent + (excess + 1 : Nat)) * 10 ≤ 10 ^ unit := by
      rw [← zpow_add_one₀ (by norm_num)]
      exact zpow_le_zpow_right₀ (by norm_num) (by omega)
    have short : room * 10 * 10 ^ (exponent + (excess + 1 : Nat)) ≤ kept * 10 ^ (exponent + (excess + 1 : Nat)) := by
      refine le_trans ?_ reached
      rw [mul_assoc, mul_comm 10]
      exact mul_le_mul_of_nonneg_left scale (by norm_num [room, precision])
    have least := (mul_le_mul_iff_left₀ (ten_pow_pos _)).mp short
    norm_num [room, precision] at least few
    linarith
  · rw [same] at reached
    have least := (mul_le_mul_iff_left₀ (ten_pow_pos _)).mp reached
    have full : kept = 10 ^ precision := by
      by_contra other
      have fewer : (kept : ℚ) + 1 ≤ 10 ^ precision := by exact_mod_cast Nat.lt_of_le_of_ne most other
      rw [room] at least
      linarith
    refine ⟨5 * ((2 * 10 ^ precision - 1) * 10 ^ excess), Nat.dvd_mul_right 5 _, ?_, ?_⟩
    · rw [full] at half
      norm_num [precision, pow_succ] at half ⊢
      omega
    · rw [← same, spread]
      apply le_of_eq
      norm_num [room, precision, pow_succ]
      ring
  · refine ⟨10 ^ (precision + excess), ?_, above, ?_⟩
    · rw [pow_add]
      exact (by decide : 5 ∣ 10 ^ precision).mul_right _
    · have scale : (10 : ℚ) ^ unit * 10 ≤ 10 ^ (exponent + (excess + 1 : Nat)) := by
        rw [← zpow_add_one₀ (by norm_num)]
        exact zpow_le_zpow_right₀ (by norm_num) (by omega)
      rw [spread, pow_succ] at scale
      rw [pow_add]
      push_cast
      have positive := ten_pow_pos unit
      norm_num [room, precision]
      linarith

/-- The quotient of the coefficients has at least one digit more than the precision. -/
theorem quotient_long {first second up down : Nat} (some_dividend : 0 < first) (some_divisor : 0 < second)
    (shifted : up + size first = down + size second + precision + 1) :
    10 ^ precision ≤ first * 10 ^ up / (second * 10 ^ down) := by
  rw [Nat.le_div_iff_mul_le (by positivity)]
  obtain ⟨least, -⟩ := size_bounds some_dividend
  obtain ⟨-, most⟩ := size_bounds some_divisor
  have some_digit : 0 < size first := Nat.length_toDigits_pos
  calc 10 ^ precision * (second * 10 ^ down)
    _ ≤ 10 ^ precision * (10 ^ size second * 10 ^ down) := by gcongr
    _ = 10 ^ (size first - 1) * 10 ^ up := by
      rw [← pow_add, ← pow_add, ← pow_add]
      congr 1
      omega
    _ ≤ first * 10 ^ up := by gcongr

/-- What a sticky quotient reaches in fives the quotient reaches. -/
theorem le_of_le_sticky {quotient bound : Nat} {inexact : Prop} [Decidable inexact] (five : 5 ∣ bound)
    (reached : bound ≤ if inexact ∧ quotient % 5 = 0 then quotient + 1 else quotient) : bound ≤ quotient := by
  split at reached
  · next sticky =>
    obtain ⟨fifth, rfl⟩ := five
    omega
  · exact reached

theorem div_room {first second : Decimal} {unit : Int} (some_divisor : 0 < second.coefficient)
    (fits : |first.value| < room * 10 ^ unit * |second.value|) : |(first.div second).value| < room * 10 ^ unit := by
  rcases Nat.eq_zero_or_pos first.coefficient with zero | some_dividend
  · have nothing : (first.div second).value = 0 := by
      simp only [div, zero, Nat.zero_mul, Nat.zero_div, Nat.zero_mod, ne_eq, not_true_eq_false, false_and, if_false]
      rw [rounded_value ⟨0, 0, by decide, by simp⟩]
      simp
    rw [nothing, abs_zero]
    exact mul_pos (by norm_num [room, precision]) (ten_pow_pos unit)
  · by_contra reached
    simp only [div] at reached
    generalize shift_eq : (size second.coefficient - size first.coefficient + precision + 1 : Int) = shift at reached
    have long := @quotient_long _ _ shift.toNat (-shift).toNat some_dividend some_divisor (by omega)
    generalize quotient_eq : first.coefficient * 10 ^ shift.toNat / (second.coefficient * 10 ^ (-shift).toNat) = quotient
      at reached long
    have sticky : 10 ^ precision ≤ if first.coefficient * 10 ^ shift.toNat %
        (second.coefficient * 10 ^ (-shift).toNat) ≠ 0 ∧ quotient % 5 = 0 then quotient + 1 else quotient := by
      split <;> omega
    obtain ⟨bound, five, below, reaches⟩ := reaches_room sticky (not_lt.mp reached)
    have whole := le_of_le_sticky five below
    rw [← quotient_eq, Nat.le_div_iff_mul_le (by positivity)] at whole
    have rational : (bound : ℚ) * (second.coefficient * 10 ^ (-shift).toNat) ≤ first.coefficient * 10 ^ shift.toNat := by
      exact_mod_cast whole
    have scale : (10 : ℚ) ^ shift.toNat = 10 ^ shift * 10 ^ (-shift).toNat := by
      rw [← zpow_natCast, ← zpow_natCast, ← zpow_add₀ (by norm_num)]
      congr 1
      omega
    rw [scale, ← mul_assoc, ← mul_assoc] at rational
    have cancelled := le_of_mul_le_mul_right rational (by positivity)
    rw [abs_value, abs_value] at fits
    have shown : first.coefficient * 10 ^ first.exponent < first.coefficient * (10 : ℚ) ^ first.exponent :=
      calc first.coefficient * (10 : ℚ) ^ first.exponent
        _ < room * 10 ^ unit * (second.coefficient * 10 ^ second.exponent) := fits
        _ ≤ bound * 10 ^ (first.exponent - second.exponent - shift) * (second.coefficient * 10 ^ second.exponent) := by
          gcongr
        _ = bound * second.coefficient * 10 ^ (first.exponent - shift) := by
          rw [show first.exponent - shift = first.exponent - second.exponent - shift + second.exponent by ring,
            zpow_add₀ (by norm_num) _ second.exponent]
          ring
        _ ≤ first.coefficient * 10 ^ shift * 10 ^ (first.exponent - shift) := by gcongr
        _ = first.coefficient * 10 ^ first.exponent := by
          rw [mul_assoc, ← zpow_add₀ (by norm_num)]
          congr 2
          omega
    exact lt_irrefl _ shown

end Decimal

end AiStore.Library
