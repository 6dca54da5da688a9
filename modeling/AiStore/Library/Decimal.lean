import Mathlib.Algebra.Ring.Int.Defs
import Mathlib.Algebra.Ring.Nat

/-! Decimal arithmetic of 28 significant digits.

A number is exact as it is read. The result of an operation is rounded, half to
even, to 28 digits, and an operation that fixes the exponent fails where the
result has more digits than that.
-/

set_option autoImplicit false

namespace AiStore.Library

/-- `coefficient * 10 ^ exponent`, with its sign. -/
structure Decimal where
  negative : Bool
  coefficient : Nat
  exponent : Int
  deriving DecidableEq, Repr

namespace Decimal

def precision : Nat := 28

def size (number : Nat) : Nat := (Nat.toDigits 10 number).length

def ofInt (number : Int) : Decimal := ⟨decide (number < 0), number.natAbs, 0⟩

/-- The coefficient with its sign, at an exponent that is not above the number's own. -/
def scaled (number : Decimal) (exponent : Int) : Int :=
  let size := (number.coefficient : Int) * 10 ^ (number.exponent - exponent).toNat
  if number.negative then -size else size

/-- Without its last digits, half to even. -/
def halfEven (number digits : Nat) : Nat :=
  let kept := number / 10 ^ digits
  let dropped := number % 10 ^ digits
  if 10 ^ digits < 2 * dropped ∨ 10 ^ digits = 2 * dropped ∧ kept % 2 = 1 then kept + 1 else kept

/-- Without its last digits, half up. -/
def halfUp (number digits : Nat) : Nat :=
  let kept := number / 10 ^ digits
  if 10 ^ digits ≤ 2 * (number % 10 ^ digits) then kept + 1 else kept

/-- Rounded to the precision; where rounding carries into one more digit, that digit is a zero. -/
def rounded (negative : Bool) (coefficient : Nat) (exponent : Int) : Decimal :=
  let excess := size coefficient - precision
  let kept := halfEven coefficient excess
  if precision < size kept then ⟨negative, kept / 10, exponent + excess + 1⟩ else ⟨negative, kept, exponent + excess⟩

def sub (first second : Decimal) : Decimal :=
  let exponent := min first.exponent second.exponent
  let difference := first.scaled exponent - second.scaled exponent
  rounded (decide (difference < 0)) difference.natAbs exponent

def mul (first second : Decimal) : Decimal :=
  rounded (first.negative ^^ second.negative) (first.coefficient * second.coefficient) (first.exponent + second.exponent)

/-- One digit more than the precision, and another one that keeps an inexact quotient off the half. -/
def div (first second : Decimal) : Decimal :=
  let shift : Int := size second.coefficient - size first.coefficient + precision + 1
  let numerator := first.coefficient * 10 ^ shift.toNat
  let denominator := second.coefficient * 10 ^ (-shift).toNat
  let quotient := numerator / denominator
  let sticky := if numerator % denominator ≠ 0 ∧ quotient % 5 = 0 then quotient + 1 else quotient
  rounded (first.negative ^^ second.negative) sticky (first.exponent - second.exponent - shift)

/-- `quantize` with `ROUND_HALF_UP`; nothing where the result has too many digits. -/
def quantize (number : Decimal) (exponent : Int) : Option Decimal :=
  let coefficient :=
    if exponent ≤ number.exponent then number.coefficient * 10 ^ (number.exponent - exponent).toNat
    else halfUp number.coefficient (exponent - number.exponent).toNat
  if size coefficient ≤ precision then some ⟨number.negative, coefficient, exponent⟩ else none

def le (first second : Decimal) : Bool :=
  let exponent := min first.exponent second.exponent
  first.scaled exponent ≤ second.scaled exponent

def lt (first second : Decimal) : Bool := !second.le first

/-- Of a number whose exponent is zero. -/
def toInt (number : Decimal) : Int := number.scaled 0

example : (sub (ofInt 100) (mul (ofInt 100) ⟨false, 125, -3⟩)).quantize 0 = some ⟨false, 88, 0⟩ ∧
    (div (ofInt 2) (ofInt 3)).quantize (-4) = some ⟨false, 6667, -4⟩ := by decide

/-- `str`: scientific where the point would stand too far from the digits. -/
def text (number : Decimal) : String :=
  let digits := Nat.toDigits 10 number.coefficient
  let leftDigits : Int := number.exponent + digits.length
  let dotPlace : Int := if number.exponent ≤ 0 ∧ -6 < leftDigits then leftDigits else 1
  let whole := if dotPlace ≤ 0 then ['0']
    else digits.take dotPlace.toNat ++ List.replicate (dotPlace.toNat - digits.length) '0'
  let fraction := if dotPlace ≤ 0 then '.' :: List.replicate (-dotPlace).toNat '0' ++ digits
    else if dotPlace < digits.length then '.' :: digits.drop dotPlace.toNat else []
  let power := if leftDigits = dotPlace then ""
    else "E" ++ (if dotPlace < leftDigits then "+" else "") ++ toString (leftDigits - dotPlace)
  String.ofList ((if number.negative then ['-'] else []) ++ whole ++ fraction) ++ power

end Decimal

end AiStore.Library
