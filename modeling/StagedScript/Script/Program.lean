/-!
# Programs

The trees that the parser builds and the evaluator walks: expressions, statements, operations and
whole programs. A program keeps its operations and its statements apart, each in source order.
-/

namespace StagedScript
namespace Script

/-- An operator between two operands. -/
inductive BinaryOp where
  | add
  | sub
  | mul
  | div
  | rem
  | equal
  | notEqual
  | less
  | lessEqual
  | greater
  | greaterEqual
  | and
  | or
deriving DecidableEq, Repr

namespace BinaryOp

/-- The name of an operator in messages. -/
def name : BinaryOp → String
  | .add => "Add"
  | .sub => "Sub"
  | .mul => "Mul"
  | .div => "Div"
  | .rem => "Rem"
  | .equal => "Eq"
  | .notEqual => "NotEq"
  | .less => "Lt"
  | .lessEqual => "Le"
  | .greater => "Gt"
  | .greaterEqual => "Ge"
  | .and => "And"
  | .or => "Or"

end BinaryOp

/-- An operator in front of its operand. -/
inductive UnaryOp where
  | neg
  | not
deriving DecidableEq, Repr

namespace UnaryOp

/-- The name of an operator in messages. -/
def name : UnaryOp → String
  | .neg => "Neg"
  | .not => "Not"

end UnaryOp

inductive Expr where
  | integer (value : Int64)
  | real (value : Float)
  | text (value : String)
  | boolean (value : Bool)
  | null
  | name (name : String)
  | unary (op : UnaryOp) (operand : Expr)
  | binary (op : BinaryOp) (left right : Expr)
  | call (name : String) (arguments : List Expr)

namespace Expr

mutual

/-- The height of an expression tree; a leaf has height one. -/
def height : Expr → Nat
  | .integer _ => 1
  | .real _ => 1
  | .text _ => 1
  | .boolean _ => 1
  | .null => 1
  | .name _ => 1
  | .unary _ operand => 1 + height operand
  | .binary _ left right => 1 + max (height left) (height right)
  | .call _ arguments => 1 + heightOfAll arguments

/-- The height of the tallest expression of a list, zero for none. -/
def heightOfAll : List Expr → Nat
  | [] => 0
  | e :: rest => max (height e) (heightOfAll rest)

end

end Expr

inductive Stmt where
  /-- Declare a local variable, null unless it is given a value. -/
  | var (name : String) (value : Option Expr)
  /-- Assign to a variable that is in scope. -/
  | assign (name : String) (value : Expr)
  /-- Leave the operation or the script with a value, null unless one is given. -/
  | ret (value : Option Expr)
  /-- Run one of two blocks. -/
  | cond (test : Expr) (yes no : List Stmt)
  /-- Run a block as long as a condition holds. -/
  | loop (test : Expr) (body : List Stmt)
  /-- Evaluate an expression for its effect. -/
  | expr (e : Expr)

/-- A named operation with positional parameters. -/
structure Operation where
  name : String
  params : List String
  body : List Stmt

/-- A program: operations, and the statements of the script. -/
structure Program where
  operations : List Operation
  statements : List Stmt

namespace Program

def operation? (program : Program) (name : String) : Option Operation :=
  program.operations.find? fun op => op.name = name

end Program
end Script
end StagedScript
