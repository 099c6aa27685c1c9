import StagedScript.Decimal.Binary

/-!
# The fewest digits that read back

Every value stands for the reals that round to it: from halfway to the value below to halfway to
the value above, ends included when the significand is even. Among the decimals in that interval
the shortest one is chosen, and of two equally short ones the nearer.

The search runs over decimal grids from coarse to fine. On each grid the two neighbours of the
value are tested in exact arithmetic, and the first grid with a hit wins.

**Results.** A decimal chosen on a grid lies in the interval (`readsBack_of_onGrid`).
-/

namespace StagedScript
namespace Decimal

structure Numeral where
  digits : Nat
  place : Int
deriving DecidableEq, Repr

/-- Which of two equally near decimals is taken. -/
inductive Tie where
  | even
  | up
deriving DecidableEq, Repr

namespace Magnitude

/-- A grid of decimals beside a quarter of the value's last binary digit, as naturals in one ratio:
`index` steps of the grid compare with `count` quarters as `index * step` with `count * quarter`. -/
structure Grid where
  step : Nat
  quarter : Nat

/-- The grid of the decimals with the given last place. -/
def grid (x : Magnitude) (place : Int) : Grid :=
  let ten := powerRatio 10 place
  let two := powerRatio 2 (x.exponent - 2)
  ⟨ten.1 * two.2, two.1 * ten.2⟩

/-- The lower end of the interval, in quarters. -/
def lowEnd (x : Magnitude) : Nat :=
  if x.narrowBelow then 4 * x.significand - 1 else 4 * x.significand - 2

/-- The upper end of the interval, in quarters. -/
def highEnd (x : Magnitude) : Nat :=
  4 * x.significand + 2

/-- Whether a decimal lies among the reals that round to the value. -/
def readsBack (x : Magnitude) (d : Numeral) : Bool :=
  let g := x.grid d.place
  let here := d.digits * g.step
  let low := x.lowEnd * g.quarter
  let high := x.highEnd * g.quarter
  if x.significand % 2 = 0 then
    low ≤ here && here ≤ high
  else
    low < here && here < high

/-- The decimal on a grid that is nearest to the value among its two neighbours there, if one of
them reads back. -/
def onGrid (x : Magnitude) (tie : Tie) (place : Int) : Option Numeral :=
  let g := x.grid place
  let below := 4 * x.significand * g.quarter / g.step
  let lower : Numeral := ⟨below, place⟩
  let upper : Numeral := ⟨below + 1, place⟩
  if x.readsBack lower then
    if x.readsBack upper then
      match compare (8 * x.significand * g.quarter) ((2 * below + 1) * g.step) with
      | .lt => some lower
      | .gt => some upper
      | .eq =>
          match tie with
          | .up => some upper
          | .even => if below % 2 = 0 then some lower else some upper
    else
      some lower
  else if x.readsBack upper then
    some upper
  else
    none

theorem readsBack_of_onGrid {x : Magnitude} {tie : Tie} {place : Int} {d : Numeral}
    (h : x.onGrid tie place = some d) :
    x.readsBack d = true := by
  unfold onGrid at h
  simp only at h
  repeat' split at h
  all_goals simp_all

/-- The first hit on the grids from the given place downwards. -/
def search (x : Magnitude) (tie : Tie) : Nat → Int → Option Numeral
  | 0, _ => none
  | grids + 1, place =>
      match x.onGrid tie place with
      | some d => some d
      | none => search x tie grids (place - 1)

/-- A place at or above that of the leading digit: 30103 / 100000 is just above the decimal
logarithm of two. -/
def topPlace (x : Magnitude) : Int :=
  ((x.significand.log2 : Int) + 1 + x.exponent) * 30103 / 100000 + 1

/-- The exact value, with as many digits as it has. -/
def exactNumeral (x : Magnitude) : Numeral :=
  if 0 ≤ x.exponent then
    ⟨x.significand * Nat.pow 2 x.exponent.toNat, 0⟩
  else
    ⟨x.significand * Nat.pow 5 (-x.exponent).toNat, x.exponent⟩

end Magnitude

/-- Drop the zeros at the end of the digits, at most as many as given. -/
def Numeral.strip : Nat → Numeral → Numeral
  | 0, d => d
  | zeros + 1, d =>
      if d.digits % 10 = 0 then
        strip zeros ⟨d.digits / 10, d.place + 1⟩
      else
        d

/-- The shortest decimal that reads back to a positive magnitude; seventeen digits and the few
grids above the leading digit are always enough for the search. -/
def Magnitude.shortest (x : Magnitude) (tie : Tie) : Numeral :=
  let found := (x.search tie 22 x.topPlace).getD x.exactNumeral
  found.strip 400

end Decimal
end StagedScript
