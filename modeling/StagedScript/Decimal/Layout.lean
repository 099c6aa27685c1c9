import StagedScript.Decimal.Shortest

/-!
# Texts of reals

One layout function and one record of decisions per place where reals are written: how a value is
displayed to the user, how a literal is shown in a problem, and how a number stands in JSON text.
Durations have a fixed number of places instead.
-/

namespace StagedScript
namespace Decimal

structure RealFormat where
  /-- The exponents of the leading digit that are written without an exponent; none means all. -/
  positional : Option (Int × Int)
  /-- Whole numbers keep a point and a zero. -/
  pointZero : Bool
  /-- A positive exponent has a plus sign. -/
  exponentPlus : Bool
  tie : Tie

namespace RealFormat

/-- Values as the user sees them: never an exponent, no point on whole numbers. -/
def plain : RealFormat where
  positional := none
  pointZero := false
  exponentPlus := false
  tie := .up

/-- Literals in problems: a point or an exponent always, an exponent from 1e16 up and below 1e-4. -/
def literal : RealFormat where
  positional := some (-4, 15)
  pointZero := true
  exponentPlus := false
  tie := .up

/-- Numbers in JSON text: an exponent from 1e16 up and below 1e-5. -/
def json : RealFormat where
  positional := some (-5, 15)
  pointZero := true
  exponentPlus := true
  tie := .even

/-- Whether a leading digit of the given exponent is written without an exponent. -/
def isPositional (format : RealFormat) (leading : Int) : Bool :=
  match format.positional with
  | none => true
  | some (least, greatest) => least ≤ leading && leading ≤ greatest

def zeros (count : Nat) : String :=
  String.ofList (List.replicate count '0')

/-- A decimal without an exponent: the point stands after, inside or before the digits. -/
def positionalText (format : RealFormat) (digits : List Char) (place : Int) : String :=
  let pointAt := (digits.length : Int) + place
  if 0 ≤ place then
    String.ofList digits ++ zeros place.toNat ++ (if format.pointZero then ".0" else "")
  else if 0 < pointAt then
    String.ofList (digits.take pointAt.toNat) ++ "." ++ String.ofList (digits.drop pointAt.toNat)
  else
    "0." ++ zeros (-pointAt).toNat ++ String.ofList digits

/-- A decimal with an exponent: one digit stands before the point. -/
def exponentText (format : RealFormat) (digits : List Char) (leading : Int) : String :=
  let first := String.ofList (digits.take 1)
  let others := digits.drop 1
  let mantissa := if others.isEmpty then first else first ++ "." ++ String.ofList others
  let sign := if format.exponentPlus && 0 ≤ leading then "+" else ""
  mantissa ++ "e" ++ sign ++ toString leading

def numeralText (format : RealFormat) (d : Numeral) : String :=
  let digits := Nat.toDigits 10 d.digits
  let leading := (digits.length : Int) + d.place - 1
  if format.isPositional leading then
    format.positionalText digits d.place
  else
    format.exponentText digits leading

def render (format : RealFormat) (x : Float) : String :=
  if x.isNaN then
    "NaN"
  else
    let sign := if isNegative x then "-" else ""
    if x.isInf then
      sign ++ "inf"
    else
      let magnitude := Magnitude.ofBits x.toBits
      if magnitude.significand = 0 then
        sign ++ (if format.pointZero then "0.0" else "0")
      else
        sign ++ format.numeralText (magnitude.shortest format.tie)

end RealFormat

/-- The exact value of a finite real, rounded to a number of places; a half goes to the even
neighbour. -/
def fixedText (places : Nat) (x : Float) : String :=
  if x.isNaN then
    "NaN"
  else
    let sign := if isNegative x then "-" else ""
    if x.isInf then
      sign ++ "inf"
    else
      let magnitude := Magnitude.ofBits x.toBits
      let two := powerRatio 2 magnitude.exponent
      let units := roundedQuotient (magnitude.significand * Nat.pow 10 places * two.1) two.2
      let fraction := Nat.toDigits 10 (units % Nat.pow 10 places)
      let whole := toString (units / Nat.pow 10 places)
      if places = 0 then
        sign ++ whole
      else
        sign ++ whole ++ "." ++
          RealFormat.zeros (places - fraction.length) ++ String.ofList fraction

end Decimal
end StagedScript
