import StagedScript.Decimal.Layout
import StagedScript.Json.Record
import StagedScript.Problem
import StagedScript.Script.Program
import StagedScript.Script.Token

/-!
# Outlines of programs

Tokens and syntax trees as nested JSON arrays, each led by what it is. Numbers are written as text,
so that none of their digits is lost.
-/

namespace StagedScript
namespace Script

namespace Located

/-- The text that a token carries; null for a token that is known by its kind. -/
def payload : Token → Json
  | .integer value => .text (toString value.toInt)
  | .real value => .text (Decimal.RealFormat.plain.render value)
  | .text value => .text value
  | .name value => .text value
  | _ => .null

/-- A token with its kind, its text and its place. -/
def outline (token : Located) : Json :=
  .array
    [.text token.token.kind, payload token.token, .natural token.position.line,
      .natural token.position.column]

end Located

mutual

def Expr.outline : Expr → Json
  | .integer value => .texts ["int", toString value.toInt]
  | .real value => .texts ["real", Decimal.RealFormat.plain.render value]
  | .text value => .texts ["str", value]
  | .boolean value => .array [.text "bool", .boolean value]
  | .null => .texts ["null"]
  | .name word => .texts ["ident", word]
  | .unary operator operand => .array [.text operator.name, operand.outline]
  | .binary operator left right =>
      .array [.text operator.name, left.outline, right.outline]
  | .call callee arguments =>
      .array [.text "call", .text callee, .array (Expr.outlines arguments)]

def Expr.outlines : List Expr → List Json
  | [] => []
  | first :: rest => first.outline :: Expr.outlines rest

end

mutual

def Stmt.outline : Stmt → Json
  | .var name value => .array [.text "var", .text name, Json.ofOption Expr.outline value]
  | .assign name value => .array [.text "assign", .text name, value.outline]
  | .ret value => .array [.text "return", Json.ofOption Expr.outline value]
  | .cond condition yes no =>
      .array
        [.text "if", condition.outline, .array (Stmt.outlines yes), .array (Stmt.outlines no)]
  | .loop condition body =>
      .array [.text "while", condition.outline, .array (Stmt.outlines body)]
  | .expr value => .array [.text "expr", value.outline]

def Stmt.outlines : List Stmt → List Json
  | [] => []
  | first :: rest => first.outline :: Stmt.outlines rest

end

namespace Operation

def outline (operation : Operation) : Json :=
  .object
    [("name", .text operation.name), ("params", .texts operation.params),
      ("body", .array (Stmt.outlines operation.body))]

end Operation

namespace Program

def outline (program : Program) : Json :=
  .object
    [("operations", .array (program.operations.map Operation.outline)),
      ("statements", .array (Stmt.outlines program.statements))]

end Program
end Script
end StagedScript
