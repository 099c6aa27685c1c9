import StagedScript.Decimal.Remainder
import StagedScript.Error
import StagedScript.Script.Program
import StagedScript.Value

/-!
# Operators

What the operators of the script language do on values. Integer arithmetic is exact or an error,
never wrapped; division truncates towards zero and a remainder has the sign of the dividend. An
integer beside a real is taken as a real. A text on either side of a plus joins both displays.
-/

namespace StagedScript
namespace Script

/-- An integer result, which must fit in 64 bits. -/
def exactInteger (value : Int) : Except RuntimeFault Value :=
  match int64? value with
  | some small => .ok (.integer small)
  | none => .error .overflow

/-- The least integer divided by minus one has no remainder either, since its quotient does not
fit. -/
def remainderOverflows (a b : Int64) : Bool :=
  a = Int64.minValue && b = -1

def integerOp (op : BinaryOp) (a b : Int64) : Except RuntimeFault Value :=
  match op with
  | .add => exactInteger (a.toInt + b.toInt)
  | .sub => exactInteger (a.toInt - b.toInt)
  | .mul => exactInteger (a.toInt * b.toInt)
  | .div =>
      if b = 0 then .error .divisionByZero else exactInteger (a.toInt.tdiv b.toInt)
  | .rem =>
      if b = 0 then .error .divisionByZero
      else if remainderOverflows a b then .error .overflow
      else exactInteger (a.toInt.tmod b.toInt)
  | .less => .ok (.boolean (a < b))
  | .lessEqual => .ok (.boolean (a ≤ b))
  | .greater => .ok (.boolean (b < a))
  | .greaterEqual => .ok (.boolean (b ≤ a))
  | .equal | .notEqual | .and | .or => .error (.numberOperator op.name)

def realOp (op : BinaryOp) (a b : Float) : Except RuntimeFault Value :=
  match op with
  | .add => .ok (.real (a + b))
  | .sub => .ok (.real (a - b))
  | .mul => .ok (.real (a * b))
  | .div => .ok (.real (a / b))
  | .rem => .ok (.real (Decimal.realRemainder a b))
  | .less => .ok (.boolean (a < b))
  | .lessEqual => .ok (.boolean (a ≤ b))
  | .greater => .ok (.boolean (b < a))
  | .greaterEqual => .ok (.boolean (b ≤ a))
  | .equal | .notEqual | .and | .or => .error (.numberOperator op.name)

/-- An operator on texts, which have an order but no arithmetic. -/
def textOp (op : BinaryOp) (a b : String) : Except RuntimeFault Value :=
  match op with
  | .less => .ok (.boolean (a < b))
  | .lessEqual => .ok (.boolean (!decide (b < a)))
  | .greater => .ok (.boolean (b < a))
  | .greaterEqual => .ok (.boolean (!decide (a < b)))
  | _ => .error (.textOperator op.name)

/-- Whether a plus joins texts: one of its operands is a text. -/
def joins : Value → Value → Bool
  | .text _, _ => true
  | _, .text _ => true
  | _, _ => false

/-- An operator that depends on the kinds of its operands. -/
def operandOp (op : BinaryOp) (left right : Value) : Except RuntimeFault Value :=
  match left, right with
  | .integer a, .integer b => integerOp op a b
  | .integer a, .real b => realOp op a.toFloat b
  | .real a, .integer b => realOp op a b.toFloat
  | .real a, .real b => realOp op a b
  | .text a, .text b => textOp op a b
  | a, b => .error (.operandTypes op.name a.typeName b.typeName)

/-- An operator between two values. -/
def binaryOp (op : BinaryOp) (left right : Value) : Except RuntimeFault Value :=
  match op with
  | .equal => .ok (.boolean (left == right))
  | .notEqual => .ok (.boolean (!(left == right)))
  | .add =>
      if joins left right then .ok (.text (left.display ++ right.display))
      else operandOp .add left right
  | op => operandOp op left right

def unaryOp (op : UnaryOp) (operand : Value) : Except RuntimeFault Value :=
  match op, operand with
  | .neg, .integer a => exactInteger (-a.toInt)
  | .neg, .real a => .ok (.real (-a))
  | .not, .boolean a => .ok (.boolean (!a))
  | op, other => .error (.operandType op.name other.typeName)

end Script
end StagedScript
