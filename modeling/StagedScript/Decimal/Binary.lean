/-!
# Finite reals as exact numbers

A finite binary64 value is a natural number times a power of two. This module reads that pair off
the bits and rounds quotients of naturals, so that the printers beside it work in exact arithmetic.

**Results.** A rounded quotient is within half a unit of the exact one (`roundedQuotient_near`).
-/

namespace StagedScript
namespace Decimal

/-- A finite non-negative value `significand * 2 ^ exponent`. -/
structure Magnitude where
  significand : Nat
  exponent : Int
  /-- The gap to the next smaller value is half the gap to the next larger one. -/
  narrowBelow : Bool
deriving DecidableEq, Repr

namespace Magnitude

/-- The magnitude that the bits of a finite value stand for. -/
def ofBits (bits : UInt64) : Magnitude :=
  let biased := ((bits >>> 52) &&& 0x7FF).toNat
  let fraction := (bits &&& 0xFFFFFFFFFFFFF).toNat
  if biased = 0 then
    ⟨fraction, -1074, false⟩
  else
    ⟨4503599627370496 + fraction, (biased : Int) - 1075, fraction = 0 && 1 < biased⟩

end Magnitude

/-- The sign bit, set also on the negative zero. -/
def isNegative (x : Float) : Bool :=
  x.toBits >>> 63 = 1

/-- The numerator and the denominator of `base ^ exponent`. -/
def powerRatio (base : Nat) (exponent : Int) : Nat × Nat :=
  (Nat.pow base exponent.toNat, Nat.pow base (-exponent).toNat)

/-- The natural number nearest to a quotient; of two equally near ones the even one. -/
def roundedQuotient (numerator denominator : Nat) : Nat :=
  let below := numerator / denominator
  let rest := 2 * (numerator % denominator)
  if rest < denominator then
    below
  else if denominator < rest then
    below + 1
  else
    below + below % 2

/-- A rounded quotient is within half a unit of the exact one. -/
theorem roundedQuotient_near (numerator denominator : Nat) (positive : 0 < denominator) :
    2 * numerator ≤ (2 * roundedQuotient numerator denominator + 1) * denominator ∧
      2 * roundedQuotient numerator denominator * denominator ≤
        2 * numerator + denominator := by
  have hsplit := Nat.div_add_mod numerator denominator
  have hlt := Nat.mod_lt numerator positive
  have hparity : numerator / denominator % 2 = 0 ∨ numerator / denominator % 2 = 1 := by omega
  generalize hq : numerator / denominator = q at *
  generalize hr : numerator % denominator = r at *
  have hcases : roundedQuotient numerator denominator = q ∧ 2 * r ≤ denominator ∨
      roundedQuotient numerator denominator = q + 1 ∧ denominator ≤ 2 * r := by
    unfold roundedQuotient
    simp only [hq, hr]
    split
    · left; omega
    · split
      · right; omega
      · rcases hparity with h | h
        · left; omega
        · right; omega
  have hexpand : (2 * q + 1) * denominator = 2 * (denominator * q) + denominator := by
    rw [Nat.add_mul, Nat.one_mul, Nat.mul_assoc, Nat.mul_comm q]
  have hexpand' : (2 * (q + 1) + 1) * denominator =
      2 * (denominator * q) + 3 * denominator := by
    rw [Nat.mul_add, Nat.add_assoc, Nat.add_mul, Nat.mul_assoc, Nat.mul_comm q]
  have hexpand'' : 2 * q * denominator = 2 * (denominator * q) := by
    rw [Nat.mul_assoc, Nat.mul_comm q]
  have hexpand''' : 2 * (q + 1) * denominator = 2 * (denominator * q) + 2 * denominator := by
    rw [Nat.mul_add, Nat.add_mul, Nat.mul_assoc, Nat.mul_comm q]
  rcases hcases with ⟨heq, hle⟩ | ⟨heq, hle⟩
  · rw [heq, hexpand, hexpand'']
    omega
  · rw [heq, hexpand', hexpand''']
    omega

end Decimal
end StagedScript
