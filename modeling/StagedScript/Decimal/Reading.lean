/-!
# Reading decimals

A decimal in digits names a natural number and a power of ten; the real it denotes is the nearest
binary64 value, with ties to the even significand.
-/

namespace StagedScript
namespace Decimal

/-- An ASCII digit. -/
def isDigit (c : Char) : Bool :=
  '0' ≤ c && c ≤ '9'

/-- The value of an ASCII digit. -/
def digitValue (c : Char) : Nat :=
  c.toNat - '0'.toNat

/-- The natural number written by digits, most significant first. -/
def ofDigits (digits : List Char) : Nat :=
  digits.foldl (fun value c => 10 * value + digitValue c) 0

/-- The real nearest to the number with the given digits before and after the point. -/
def realOfDigits (whole fraction : List Char) : Float :=
  Float.ofScientific (ofDigits (whole ++ fraction)) true fraction.length

/-- The real nearest to `digits * 10 ^ exponent`. An exponent beyond the range in which it could
still matter is cut to the end of that range. -/
def realOfScientific (digits : Nat) (exponent : Int) : Float :=
  let least := -(400 + ((Nat.toDigits 10 digits).length : Int))
  let cut := max least (min 400 exponent)
  Float.ofScientific digits (cut < 0) cut.natAbs

/-- Read an exponent: an optional sign and at least one digit. -/
def readExponent? (text : List Char) : Option Int :=
  let (negative, digits) :=
    match text with
    | '-' :: rest => (true, rest)
    | '+' :: rest => (false, rest)
    | rest => (false, rest)
  if digits.isEmpty || !digits.all isDigit then
    none
  else
    some (if negative then -(ofDigits digits : Int) else ofDigits digits)

/-- Read an unsigned decimal with an optional fraction and an optional exponent. -/
def readUnsigned? (text : List Char) : Option Float :=
  let whole := text.takeWhile isDigit
  let afterWhole := text.dropWhile isDigit
  let (fraction, afterFraction) :=
    match afterWhole with
    | '.' :: rest => (rest.takeWhile isDigit, rest.dropWhile isDigit)
    | rest => ([], rest)
  if whole.isEmpty && fraction.isEmpty then
    none
  else
    let digits := ofDigits (whole ++ fraction)
    match afterFraction with
    | [] => some (realOfScientific digits (-(fraction.length : Int)))
    | mark :: rest =>
        if mark = 'e' || mark = 'E' then
          (readExponent? rest).map fun exponent =>
            realOfScientific digits (exponent - fraction.length)
        else
          none

/-- Read a real: an optional sign before a decimal, `inf` or `NaN`. -/
def readReal? (text : String) : Option Float :=
  let (negative, body) :=
    match text.toList with
    | '-' :: rest => (true, rest)
    | '+' :: rest => (false, rest)
    | rest => (false, rest)
  let magnitude :=
    if body = ['i', 'n', 'f'] then some (1.0 / 0.0)
    else if body = ['N', 'a', 'N'] then some (0.0 / 0.0)
    else readUnsigned? body
  magnitude.map fun x => if negative then -x else x

end Decimal
end StagedScript
