import StagedScript.Json.Basic
import StagedScript.Decimal.Reading

/-!
# Reading JSON

Each reader takes the characters that remain and answers with what it read and what follows, or
with nothing. Arrays and objects may nest as deep as the reader's rules say.

A number without point and exponent is an integer if it fits in 64 bits, signed below zero and
unsigned above; the negative zero is a real. A real collects its digits in 64 bits, drops digits
that no longer fit, and is scaled by one power of ten, so its last bit may differ from the nearest
value; one that is too large is refused.

Lenient rules check the grammar only: they let numbers be of any size and escapes name half of a
surrogate pair. They serve to skip values that nobody uses.
-/

namespace StagedScript
namespace Json

abbrev Reader (α : Type) :=
  List Char → Option (α × List Char)

/-- What a reader accepts beyond the grammar. -/
structure Rules where
  /-- How many arrays and objects may be open at once. -/
  nesting : Nat
  /-- Numbers of any size and unpaired surrogates are let through. -/
  lenient : Bool
  /-- A bound on the turns of every loop, at least the length of the text. -/
  turns : Nat

namespace Rules

/-- The rules for a text that is to be used. -/
def strict (input : List Char) : Rules where
  nesting := 127
  lenient := false
  turns := input.length

/-- The rules for a value that is to be skipped: any nesting the text has room for. -/
def skipping (rules : Rules) : Rules where
  nesting := rules.turns
  lenient := true
  turns := rules.turns

end Rules

/-- A blank between the elements of JSON text. -/
def isGap (c : Char) : Bool :=
  c = ' ' || c = '\n' || c = '\t' || c = '\r'

/-- Drop the blanks in front. -/
def skipGap (input : List Char) : List Char :=
  input.dropWhile isGap

/-- Read a fixed text. -/
def readWord : List Char → Reader Unit
  | [], input => some ((), input)
  | expected :: word, c :: input => if c = expected then readWord word input else none
  | _ :: _, [] => none

/-- Blanks, then one given character. -/
def readMark (mark : Char) : Reader Unit :=
  fun input => readWord [mark] (skipGap input)

/-- The value of a hexadecimal digit. -/
def hexValue? (c : Char) : Option Nat :=
  if '0' ≤ c && c ≤ '9' then some (c.toNat - '0'.toNat)
  else if 'a' ≤ c && c ≤ 'f' then some (c.toNat - 'a'.toNat + 10)
  else if 'A' ≤ c && c ≤ 'F' then some (c.toNat - 'A'.toNat + 10)
  else none

/-- Read the four digits of a `\u` escape. -/
def readHex : Reader Nat
  | a :: b :: c :: d :: rest => do
      let a ← hexValue? a
      let b ← hexValue? b
      let c ← hexValue? c
      let d ← hexValue? d
      some (((a * 16 + b) * 16 + c) * 16 + d, rest)
  | _ => none

/-- The character of an escape with one letter. -/
def simpleEscape? (c : Char) : Option Char :=
  match c with
  | '"' => some '"'
  | '\\' => some '\\'
  | '/' => some '/'
  | 'b' => some '\x08'
  | 'f' => some '\x0c'
  | 'n' => some '\n'
  | 'r' => some '\r'
  | 't' => some '\t'
  | _ => none

/-- Read what follows `\u`: one code unit, or a pair of surrogates in two escapes. -/
def readCodePoint (rules : Rules) : Reader Char :=
  fun input => do
    let (unit, rest) ← readHex input
    if rules.lenient then
      some (Char.ofNat unit, rest)
    else if 0xDC00 ≤ unit && unit ≤ 0xDFFF then
      none
    else if 0xD800 ≤ unit && unit ≤ 0xDBFF then
      let ((), rest) ← readWord ['\\', 'u'] rest
      let (low, rest) ← readHex rest
      if 0xDC00 ≤ low && low ≤ 0xDFFF then
        some (Char.ofNat (0x10000 + (unit - 0xD800) * 0x400 + (low - 0xDC00)), rest)
      else
        none
    else
      some (Char.ofNat unit, rest)

/-- Read the characters of a string after its opening quote, through the closing one. -/
def readChars (rules : Rules) : Nat → Reader (List Char)
  | 0, _ => none
  | _ + 1, [] => none
  | _ + 1, '"' :: rest => some ([], rest)
  | turns + 1, '\\' :: 'u' :: rest => do
      let (c, rest) ← readCodePoint rules rest
      let (chars, rest) ← readChars rules turns rest
      some (c :: chars, rest)
  | turns + 1, '\\' :: letter :: rest => do
      let c ← simpleEscape? letter
      let (chars, rest) ← readChars rules turns rest
      some (c :: chars, rest)
  | turns + 1, c :: rest =>
      if c = '\\' || c.toNat < 0x20 then
        none
      else do
        let (chars, rest) ← readChars rules turns rest
        some (c :: chars, rest)

def readText (rules : Rules) : Reader String :=
  fun input => do
    let ((), rest) ← readMark '"' input
    let (chars, rest) ← readChars rules (rules.turns + 1) rest
    some (String.ofList chars, rest)

/-- The largest significand of a number: what fits in 64 bits. -/
def maxSignificand : Nat :=
  18446744073709551615

/-- Add digits to a significand while it fits; the digits that no longer do are the second part. -/
def collectDigits (significand : Nat) : List Char → Nat × List Char
  | [] => (significand, [])
  | c :: digits =>
      let next := 10 * significand + Decimal.digitValue c
      if next ≤ maxSignificand then
        collectDigits next digits
      else
        (significand, c :: digits)

/-- Divide by powers of ten until the exponent is at least -308, or the value is zero. -/
def scaleDown : Nat → Float → Int → Float
  | 0, x, _ => x
  | turns + 1, x, exponent =>
      if -308 ≤ exponent then
        x / Float.ofScientific 1 false (-exponent).toNat
      else if x == 0.0 then
        x
      else
        scaleDown turns (x / 1e308) (exponent + 308)

/-- The real with the given significand and power of ten; nothing if it is too large. -/
def scaled? (significand : Nat) (exponent : Int) : Option Float :=
  let x := Float.ofNat significand
  if exponent < 0 then
    some (scaleDown 4 x exponent)
  else if 308 < exponent then
    if significand = 0 then some x else none
  else
    let product := x * Float.ofScientific 1 false exponent.toNat
    if product.isInf then none else some product

/-- The largest exponent that is taken at its word: what fits in 32 bits with a sign. -/
def maxExponent : Nat :=
  2147483647

/-- Read the sign and the digits of an exponent after its mark. -/
def readExponentPart : Reader Int :=
  fun input =>
    let (negative, rest) :=
      match input with
      | '-' :: rest => (true, rest)
      | '+' :: rest => (false, rest)
      | rest => (false, rest)
    let digits := rest.takeWhile Decimal.isDigit
    if digits.isEmpty then
      none
    else
      let size : Int := Decimal.ofDigits digits
      some (if negative then -size else size, rest.dropWhile Decimal.isDigit)

/-- The real with a written exponent. One beyond 31 bits gives zero or is refused, as its sign and
the significand say. -/
def withExponent? (significand : Nat) (start exponent : Int) : Option Float :=
  if maxExponent < exponent.natAbs then
    if 0 < exponent && significand ≠ 0 then none else some 0.0
  else
    scaled? significand (start + exponent)

/-- Read the rest of a number after its integer part, which left a significand and a power of ten.
The result is nothing inside if the number is too large. -/
def readFraction (significand : Nat) (power : Nat) : Reader (Option Float) :=
  fun input =>
    let exponentOrEnd (significand : Nat) (start : Int) : Reader (Option Float) := fun input =>
      match input with
      | 'e' :: rest | 'E' :: rest => do
          let (exponent, rest) ← readExponentPart rest
          some (withExponent? significand start exponent, rest)
      | rest => some (scaled? significand start, rest)
    match input with
    | '.' :: rest =>
        let digits := rest.takeWhile Decimal.isDigit
        if digits.isEmpty then
          none
        else
          let (significand, dropped) := collectDigits significand digits
          let places := digits.length - dropped.length
          exponentOrEnd significand ((power : Int) - places) (rest.dropWhile Decimal.isDigit)
    | rest => exponentOrEnd significand power rest

/-- An integer as a number: in the range of 64 bits it stays one. -/
def ofSignificand (negative : Bool) (significand : Nat) : Json :=
  if negative then
    if significand = 0 || 9223372036854775808 < significand then
      .real (-(Float.ofNat significand))
    else
      .integer (-(significand : Int))
  else
    .integer significand

def readNumber (rules : Rules) : Reader Json :=
  fun input =>
    let (negative, unsigned) :=
      match input with
      | '-' :: rest => (true, rest)
      | rest => (false, rest)
    let digits := unsigned.takeWhile Decimal.isDigit
    let rest := unsigned.dropWhile Decimal.isDigit
    let leadingZero := digits.head? = some '0' && 1 < digits.length
    if digits.isEmpty || leadingZero then
      none
    else
      let (significand, dropped) := collectDigits 0 digits
      let plain :=
        match rest with
        | '.' :: _ | 'e' :: _ | 'E' :: _ => false
        | _ => dropped.isEmpty
      if plain then
        some (ofSignificand negative significand, rest)
      else do
        let (value?, rest) ← readFraction significand dropped.length rest
        match value? with
        | some value => some (.real (if negative then -value else value), rest)
        | none => if rules.lenient then some (.null, rest) else none

/-- Read the items of a list after its opening mark, through the closing one. -/
def readItems (close : Char) (item : Reader α) : Nat → Bool → Reader (List α)
  | 0, _, _ => none
  | turns + 1, first, input =>
      match skipGap input with
      | [] => none
      | c :: rest =>
          if first && c = close then
            some ([], rest)
          else do
            let (value, rest) ← item (c :: rest)
            match skipGap rest with
            | [] => none
            | c :: rest =>
                if c = close then
                  some ([value], rest)
                else if c = ',' then do
                  let (values, rest) ← readItems close item turns false rest
                  some (value :: values, rest)
                else
                  none

/-- Read a field: its key, a colon, and a value that may depend on the key. -/
def readField (rules : Rules) (value : String → Reader α) : Reader (String × α) :=
  fun input => do
    let (key, rest) ← readText rules input
    let ((), rest) ← readMark ':' rest
    let (value, rest) ← value key rest
    some ((key, value), rest)

def readBoolean : Reader Bool :=
  fun input =>
    match skipGap input with
    | 't' :: rest => (readWord ['r', 'u', 'e'] rest).map fun ((), rest) => (true, rest)
    | 'f' :: rest => (readWord ['a', 'l', 's', 'e'] rest).map fun ((), rest) => (false, rest)
    | _ => none

/-- Read a value that is not inside another one, with the given reader for the values inside it,
if there may be any. -/
def readValueOver (rules : Rules) (inner : Option (Reader Json)) : Reader Json :=
  fun input =>
    match skipGap input with
    | [] => none
    | 'n' :: rest => (readWord ['u', 'l', 'l'] rest).map fun ((), rest) => (.null, rest)
    | '"' :: rest => (readText rules ('"' :: rest)).map fun (value, rest) => (.text value, rest)
    | '[' :: rest => do
        let (items, rest) ← readItems ']' (← inner) (rules.turns + 1) true rest
        some (.array items, rest)
    | '\x7b' :: rest => do
        let inner ← inner
        let field := readField rules fun _ => inner
        let (pairs, rest) ← readItems '\x7d' field (rules.turns + 1) true rest
        some (.object (Fields.ofPairs pairs), rest)
    | c :: rest =>
        if c = 't' || c = 'f' then
          (readBoolean (c :: rest)).map fun (value, rest) => (.boolean value, rest)
        else
          readNumber rules (c :: rest)

/-- Read a value with at most the given number of arrays and objects around each other. -/
def readNested (rules : Rules) : Nat → Reader Json
  | 0, input => readValueOver rules none input
  | nesting + 1, input => readValueOver rules (some (readNested rules nesting)) input

def readValue (rules : Rules) : Reader Json :=
  readNested rules rules.nesting

/-- The result of a reader that leaves nothing but blanks. -/
def readWhole (reader : Reader α) (input : List Char) : Option α :=
  match reader input with
  | some (value, rest) => if (skipGap rest).isEmpty then some value else none
  | none => none

/-- The value of a JSON text. -/
def parse? (input : String) : Option Json :=
  let chars := input.toList
  readWhole (readValue (Rules.strict chars)) chars

end Json
end StagedScript
