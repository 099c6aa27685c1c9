import StagedScript.Decimal.Binary

/-!
# The remainder of reals

The remainder of a division that truncates towards zero. It is exact: both operands are multiples
of the smaller of their last binary digits, so it is a remainder of natural numbers at that scale.
It has the sign of the dividend.
-/

namespace StagedScript
namespace Decimal

/-- The remainder of two finite magnitudes, the second of them positive, as a count of steps of
`2 ^ exponent`. -/
def magnitudeRemainder (x y : Magnitude) : Nat × Int :=
  let scale := min x.exponent y.exponent
  let steps (m : Magnitude) : Nat := m.significand * Nat.pow 2 (m.exponent - scale).toNat
  (steps x % steps y, scale)

/-- The remainder of a real division, NaN where there is none. -/
def realRemainder (x y : Float) : Float :=
  if x.isNaN || y.isNaN || x.isInf || y == 0.0 then
    0.0 / 0.0
  else if y.isInf then
    x
  else
    let (steps, exponent) :=
      magnitudeRemainder (Magnitude.ofBits x.toBits) (Magnitude.ofBits y.toBits)
    let size := (Float.ofNat steps).scaleB exponent
    if isNegative x then -size else size

end Decimal
end StagedScript
