import Mathlib.Algebra.Order.Ring.Nat
import Mathlib.Tactic.Ring
import Mathlib.Tactic.Linarith

/-! Unsigned fixed-point numbers in a bounded integer: a number is a raw value
below `limit`, and `one` raw units stand for the integer 1. Products and
quotients round to nearest, and divide first when the full product does not
fit. The main result is that a share `amount * part / whole` of an integer
amount is the exact floor on both paths, so no choice of path is visible. -/
namespace TipRouter.FixedPoint

variable (limit one : ℕ)

/-- A raw result, if it fits. -/
def narrow (raw : ℕ) : Option ℕ := if raw < limit then some raw else none

/-- The integer `n`. -/
def ofInt (n : ℕ) : Option ℕ := narrow limit (n * one)

/-- Multiply, then round to nearest; divide the larger factor first when the
product of the raw values does not fit. -/
def mul (left right : ℕ) : Option ℕ :=
  if left * right < limit then (narrow limit (left * right + one / 2)).map (· / one)
  else if right ≤ left then narrow limit (left / one * right)
  else narrow limit (right / one * left)

/-- Scale, add half a unit and divide; divide first when scaling does not fit. -/
def div (left right : ℕ) : Option ℕ :=
  if right = 0 then none
  else if left * one < limit then (narrow limit (left * one + one / 2)).map (· / right)
  else (narrow limit (left + one / 2)).bind fun raised => narrow limit (raised / right * one)

/-- Drop the fractional digits. -/
def floor (raw : ℕ) : Option ℕ := narrow limit (raw / one * one)

/-- The nearest integer. -/
def toInt (raw : ℕ) : Option ℕ := (narrow limit (raw + one / 2)).map (· / one)

variable {limit one}

theorem narrow_of_lt {raw : ℕ} (fits : raw < limit) : narrow limit raw = some raw := if_pos fits

@[simp] theorem narrow_eq_some_iff {raw result : ℕ} :
    narrow limit raw = some result ↔ raw < limit ∧ raw = result := by
  simp [narrow]

/-- Half a unit never pushes a scaled product over the limit. -/
private theorem rounding_fits (unit : 0 < one) (room : one / 2 < limit % (one * one))
    {product : ℕ} (fits : product * one * one < limit) :
    product * one * one + one / 2 < limit := by
  have positive := Nat.mul_pos unit unit
  have below : product ≤ limit / (one * one) := by
    rw [Nat.le_div_iff_mul_le positive, ← Nat.mul_assoc]
    exact fits.le
  have scaled := Nat.mul_le_mul_left (one * one) below
  have split := Nat.div_add_mod limit (one * one)
  have regroup : product * one * one = one * one * product := by ring
  omega

/-- The product of two integers is exact on either path. -/
theorem mul_ofInt (unit : 0 < one) (room : one / 2 < limit % (one * one)) {amount part : ℕ}
    (fits : amount * part * one < limit) :
    mul limit one (amount * one) (part * one) = some (amount * part * one) := by
  have regroup : amount * one * (part * one) = amount * part * one * one := by ring
  unfold mul
  split
  · rename_i small
    rw [regroup] at small ⊢
    rw [narrow_of_lt (rounding_fits unit room small), Option.map_some]
    congr 1
    rw [Nat.mul_comm (amount * part * one) one, Nat.mul_add_div unit]
    have half : one / 2 / one = 0 := Nat.div_eq_of_lt (Nat.div_lt_self unit (by omega))
    omega
  · split
    · rw [Nat.mul_div_cancel _ unit, ← Nat.mul_assoc, narrow_of_lt fits]
    · have swapped : part * (amount * one) = amount * part * one := by ring
      rw [Nat.mul_div_cancel _ unit, swapped, narrow_of_lt fits]

private theorem quotient_of_raised (unit : 0 < one) (product whole : ℕ) :
    (product * one * one + one / 2) / (whole * one) / one = product / whole := by
  have half : one / 2 < one * one :=
    lt_of_lt_of_le (Nat.div_lt_self unit (by omega)) (Nat.le_mul_of_pos_left one unit)
  have regroup : whole * one * one = one * one * whole := by ring
  have scaled : product * one * one = one * one * product := by ring
  rw [Nat.div_div_eq_div_mul, regroup, ← Nat.div_div_eq_div_mul, scaled,
    Nat.mul_add_div (Nat.mul_pos unit unit), Nat.div_eq_of_lt half, Nat.add_zero]

/-- The floor of a quotient of integers is the integer quotient on either path. -/
theorem floor_div_ofInt (unit : 0 < one) (room : one / 2 < limit % (one * one))
    {product whole : ℕ} (positive : 0 < whole) (fits : product * one + one / 2 < limit)
    (quotientFits : product / whole * one < limit) :
    (div limit one (product * one) (whole * one)).bind (floor limit one) =
      some (product / whole * one) := by
  have divisor : whole * one ≠ 0 := (Nat.mul_pos positive unit).ne'
  unfold div
  rw [if_neg divisor]
  split
  · rename_i small
    rw [narrow_of_lt (rounding_fits unit room small), Option.map_some, Option.bind_some, floor,
      quotient_of_raised unit, narrow_of_lt quotientFits]
  · have first : (product * one + one / 2) / (whole * one) = product / whole := by
      rw [Nat.mul_comm whole one, ← Nat.div_div_eq_div_mul, Nat.mul_comm product one,
        Nat.mul_add_div unit, Nat.div_eq_of_lt (Nat.div_lt_self unit (by omega)), Nat.add_zero]
    rw [narrow_of_lt fits, Option.bind_some, first, narrow_of_lt quotientFits, Option.bind_some,
      floor, Nat.mul_div_cancel _ unit, narrow_of_lt quotientFits]

/-- An integer reads back as itself. -/
theorem toInt_ofInt (unit : 0 < one) {n : ℕ} (fits : n * one + one / 2 < limit) :
    toInt limit one (n * one) = some n := by
  rw [toInt, narrow_of_lt fits, Option.map_some, Nat.mul_comm n one, Nat.mul_add_div unit,
    Nat.div_eq_of_lt (Nat.div_lt_self unit (by omega)), Nat.add_zero]

/-- A quotient of integers, scaled and rounded, when scaling fits. -/
theorem div_ofInt (unit : 0 < one) (room : one / 2 < limit % (one * one)) {left right : ℕ}
    (divisor : right * one ≠ 0) (fits : left * one * one < limit) :
    div limit one (left * one) (right * one) =
      some ((left * one * one + one / 2) / (right * one)) := by
  rw [div, if_neg divisor, if_pos fits, narrow_of_lt (rounding_fits unit room fits), Option.map_some]

/-- Nothing of anything is nothing, rounding included. -/
theorem mul_zero_right (unit : 0 < one) (room : one / 2 < limit) (left : ℕ) :
    mul limit one left 0 = some 0 := by
  have half : one / 2 / one = 0 := Nat.div_eq_of_lt (Nat.div_lt_self unit (by omega))
  rw [mul, Nat.mul_zero, if_pos (by omega), Nat.zero_add, narrow_of_lt room, Option.map_some, half]

theorem div_zero_left (unit : 0 < one) (room : one / 2 < limit) {whole : ℕ} (positive : 0 < whole) :
    div limit one 0 (whole * one) = some 0 := by
  have divisor : whole * one ≠ 0 := (Nat.mul_pos positive unit).ne'
  have half : one / 2 < whole * one :=
    lt_of_lt_of_le (Nat.div_lt_self unit (by omega)) (Nat.le_mul_of_pos_left one positive)
  rw [div, if_neg divisor, Nat.zero_mul, if_pos (by omega), Nat.zero_add, narrow_of_lt room,
    Option.map_some, Nat.div_eq_of_lt half]

end TipRouter.FixedPoint
