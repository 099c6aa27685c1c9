import StagedScript.Script.Lexer
import StagedScript.Script.Program

/-!
# From tokens to programs

A recursive descent over the remaining tokens. A failing parser keeps the tokens it has not
consumed, so that the program parser can skip to the next statement boundary and report every
independent problem in one pass.

Parentheses, prefix operators, argument lists and braces nest at most `maxNesting` deep, all
counted together, and no expression tree is taller than that. The parsers of one nesting level are
built over the parsers one level further in; at the last level there are none, and what would nest
further is refused. Loops take as many turns as there are tokens, which is always enough.
-/

namespace StagedScript
namespace Script

/-- The deepest nesting, and the height of the tallest expression. -/
def maxNesting : Nat :=
  128

/-- A parser of the remaining tokens, which a failure leaves where it arose. -/
abbrev Parse :=
  ExceptT Problem (StateM (List Located))

namespace Parse

/-- The next token and its place. A source ends with the end of input. -/
def current : Parse Located := do
  match ← getThe (List Located) with
  | [] => return ⟨.endOfInput, .first⟩
  | located :: _ => return located

def peek : Parse Token := do
  return (← current).token

/-- Go past the next token, unless it is the end of input. -/
def advance : Parse Unit := do
  match ← getThe (List Located) with
  | [] => return
  | located :: rest => if located.token = .endOfInput then return else set rest

/-- Go past the next token if it is the given one. -/
def eat (token : Token) : Parse Bool := do
  if (← peek) = token then
    advance
    return true
  else
    return false

/-- Fail at the next token, which is not what was expected. -/
def unexpected (expected : String) : Parse α := do
  let here ← current
  throw (.error here.position
    ("expected " ++ expected ++ " but found " ++ here.token.description))

/-- Fail at the next token for nesting beyond the limit. -/
def tooDeep (what : String) : Parse α := do
  let here ← current
  throw (.error here.position (what ++ " nested too deeply"))

/-- Go past the given token, or fail. -/
def expect (token : Token) (expected : String) : Parse Unit := do
  if ← eat token then return else unexpected expected

/-- Go past a name, or fail. -/
def name (expected : String) : Parse String := do
  match ← peek with
  | .name name =>
      advance
      return name
  | _ => unexpected expected

/-- A parser one nesting level further in, if there is one. -/
def nested (what : String) : Option (Parse α) → Parse α
  | some inner => inner
  | none => tooDeep what

/-- An expression, unless it is too tall. -/
def checkHeight (e : Expr) : Parse Expr :=
  if maxNesting < e.height then tooDeep "expression" else return e

/-- One or more items with commas between them. -/
def commaList (item : Parse α) : Nat → Parse (List α)
  | 0 => return []
  | turns + 1 => do
      let first ← item
      if ← eat (.symbol .comma) then
        return first :: (← commaList item turns)
      else
        return [first]

/-- Items with commas between them, perhaps none, through the closing parenthesis. -/
def parenList (turns : Nat) (item : Parse α) : Parse (List α) := do
  let items ← if (← peek) = .symbol .rightParen then pure [] else commaList item turns
  expect (.symbol .rightParen) "')'"
  return items

def disjunction? : Token → Option BinaryOp
  | .keyword .or => some .or
  | _ => none

def conjunction? : Token → Option BinaryOp
  | .keyword .and => some .and
  | _ => none

/-- The operators that compare for equality. -/
def equality? : Token → Option BinaryOp
  | .symbol .equal => some .equal
  | .symbol .notEqual => some .notEqual
  | _ => none

/-- The operators that compare for order. -/
def comparison? : Token → Option BinaryOp
  | .symbol .less => some .less
  | .symbol .lessEqual => some .lessEqual
  | .symbol .greater => some .greater
  | .symbol .greaterEqual => some .greaterEqual
  | _ => none

def additive? : Token → Option BinaryOp
  | .symbol .plus => some .add
  | .symbol .minus => some .sub
  | _ => none

def multiplicative? : Token → Option BinaryOp
  | .symbol .star => some .mul
  | .symbol .slash => some .div
  | .symbol .percent => some .rem
  | _ => none

/-- The operators in front of an operand. -/
def prefixOp? : Token → Option UnaryOp
  | .symbol .minus => some .neg
  | .keyword .not => some .not
  | _ => none

/-- Extend a left operand by operators of one level and their right operands, to the left. -/
def chainFrom (operator? : Token → Option BinaryOp) (operand : Parse Expr) :
    Nat → Expr → Parse Expr
  | 0, left => return left
  | turns + 1, left => do
      match operator? (← peek) with
      | none => return left
      | some op =>
          advance
          let right ← operand
          let node ← checkHeight (.binary op left right)
          chainFrom operator? operand turns node

/-- Operands with operators of one level between them, grouped to the left. -/
def chain (turns : Nat) (operator? : Token → Option BinaryOp) (operand : Parse Expr) :
    Parse Expr := do
  chainFrom operator? operand turns (← operand)

/-- An expression over its operands with their prefix operators: six levels, the loosest first. -/
def levels (turns : Nat) (unary : Parse Expr) : Parse Expr :=
  chain turns disjunction? <|
  chain turns conjunction? <|
  chain turns equality? <|
  chain turns comparison? <|
  chain turns additive? <|
  chain turns multiplicative? unary

/-- A literal, a name, a call or an expression in parentheses; `inner` is the parser of operands
one level further in. -/
def primaryOver (turns : Nat) (inner : Option (Parse Expr)) : Parse Expr := do
  match ← peek with
  | .integer value => advance; return .integer value
  | .real value => advance; return .real value
  | .text value => advance; return .text value
  | .keyword .true_ => advance; return .boolean true
  | .keyword .false_ => advance; return .boolean false
  | .keyword .null => advance; return .null
  | .symbol .leftParen =>
      advance
      let e ← nested "expression" (inner.map (levels turns))
      expect (.symbol .rightParen) "')'"
      return e
  | .name name =>
      advance
      if ← eat (.symbol .leftParen) then
        let arguments ← nested "expression"
          (inner.map fun unary => parenList turns (levels turns unary))
        checkHeight (.call name arguments)
      else
        return .name name
  | _ => unexpected "expression"

/-- An operand with its prefix operators; `inner` is this parser one level further in. -/
def unaryOver (turns : Nat) (inner : Option (Parse Expr)) : Parse Expr := do
  match prefixOp? (← peek) with
  | some op =>
      advance
      let operand ← nested "expression" inner
      checkHeight (.unary op operand)
  | none => primaryOver turns inner

/-- An operand with room for the given number of nesting levels. -/
def unary (turns : Nat) : Nat → Parse Expr
  | 0 => unaryOver turns none
  | room + 1 => unaryOver turns (some (unary turns room))

/-- An expression with room for the given number of nesting levels. -/
def expression (turns room : Nat) : Parse Expr :=
  levels turns (unary turns room)

/-- Statements through the closing brace. -/
def statementsToBrace (statement : Parse Stmt) : Nat → Parse (List Stmt)
  | 0 => return []
  | turns + 1 => do
      match ← peek with
      | .symbol .rightBrace => advance; return []
      | .endOfInput => unexpected "'\x7d'"
      | _ =>
          let first ← statement
          return first :: (← statementsToBrace statement turns)

/-- Statements in braces; `inner` is the parser of statements one level further in. -/
def blockOver (turns : Nat) (inner : Option (Parse Stmt)) : Parse (List Stmt) := do
  expect (.symbol .leftBrace) "'\x7b'"
  nested "block" (inner.map fun statement => statementsToBrace statement turns)

def test (expression : Parse Expr) : Parse Expr := do
  expect (.symbol .leftParen) "'('"
  let e ← expression
  expect (.symbol .rightParen) "')'"
  return e

/-- A condition and its branches at the keyword; a branch that is itself a condition needs no
braces. -/
def conditional (expression : Parse Expr) (block : Parse (List Stmt)) : Nat → Parse Stmt
  | 0 => unexpected "statement"
  | turns + 1 => do
      advance
      let condition ← test expression
      let yes ← block
      if ← eat (.keyword .else_) then
        if (← peek) = .keyword .if_ then
          return .cond condition yes [← conditional expression block turns]
        else
          return .cond condition yes (← block)
      else
        return .cond condition yes []

/-- The semicolon that ends a simple statement. -/
def semicolon : Parse Unit :=
  expect (.symbol .semicolon) "';'"

/-- Whether the token after the next one is an assignment sign. -/
def assignAhead : Parse Bool := do
  match ← getThe (List Located) with
  | _ :: second :: _ => return second.token = .symbol .assign
  | _ => return false

def statementOver (turns : Nat) (expression : Parse Expr) (block : Parse (List Stmt)) :
    Parse Stmt := do
  match ← peek with
  | .keyword .var =>
      advance
      let name ← name "variable name"
      let value ← if ← eat (.symbol .assign) then some <$> expression else pure none
      semicolon
      return .var name value
  | .keyword .ret =>
      advance
      let value ←
        if (← peek) = .symbol .semicolon then pure none else some <$> expression
      semicolon
      return .ret value
  | .keyword .if_ => conditional expression block turns
  | .keyword .while_ =>
      advance
      let condition ← test expression
      let body ← block
      return .loop condition body
  | .keyword .operation =>
      unexpected "statement (operations are declared at top level)"
  | .name name =>
      if ← assignAhead then
        advance
        advance
        let value ← expression
        semicolon
        return .assign name value
      else
        let e ← expression
        semicolon
        return .expr e
  | _ =>
      let e ← expression
      semicolon
      return .expr e

/-- A statement with room for the given number of nesting levels. -/
def statement (turns : Nat) : Nat → Parse Stmt
  | 0 => statementOver turns (expression turns 0) (blockOver turns none)
  | room + 1 =>
      statementOver turns (expression turns (room + 1))
        (blockOver turns (some (statement turns room)))

/-- A block with room for the given number of nesting levels, its own braces among them. -/
def block (turns : Nat) : Nat → Parse (List Stmt)
  | 0 => blockOver turns none
  | room + 1 => blockOver turns (some (statement turns room))

def operation (turns : Nat) : Parse Operation := do
  expect (.keyword .operation) "'operation'"
  let opName ← name "operation name"
  expect (.symbol .leftParen) "'('"
  let params ← parenList turns (name "parameter name")
  let body ← block turns maxNesting
  return ⟨opName, params, body⟩

inductive Item where
  | operation (op : Operation)
  | statement (s : Stmt)

/-- An item at the top level. -/
def item (turns : Nat) : Parse Item := do
  if (← peek) = .keyword .operation then
    return .operation (← operation turns)
  else
    return .statement (← statement turns maxNesting)

/-- Skip past the next semicolon outside braces or past the brace that closes the first block,
whichever comes first; `depth` counts the braces that are open. -/
def recover : Nat → List Located → List Located
  | _, [] => []
  | depth, located :: rest =>
      match located.token with
      | .endOfInput => located :: rest
      | .symbol .semicolon => if depth = 0 then rest else recover depth rest
      | .symbol .leftBrace => recover (depth + 1) rest
      | .symbol .rightBrace => if depth ≤ 1 then rest else recover (depth - 1) rest
      | _ => recover depth rest

/-- The items of a source and the problems in place of those that are malformed, in order. -/
def items (turns : Nat) : Nat → List Located → List (Except Problem Item)
  | 0, _ => []
  | _ + 1, [] => []
  | count + 1, located :: rest =>
      if located.token = .endOfInput then
        []
      else
        match (item turns).run.run (located :: rest) with
        | (.ok item, rest) => .ok item :: items turns count rest
        | (.error problem, rest) => .error problem :: items turns count (recover 0 rest)

end Parse

/-- The program of well-formed items. -/
def Program.ofItems (items : List Parse.Item) : Program where
  operations := items.filterMap fun
    | .operation op => some op
    | .statement _ => none
  statements := items.filterMap fun
    | .operation _ => none
    | .statement s => some s

/-- The problems among the items of a source. -/
def problemsOf (items : List (Except Problem Parse.Item)) : List Problem :=
  items.filterMap fun
    | .ok _ => none
    | .error problem => some problem

def wellFormed (items : List (Except Problem Parse.Item)) : List Parse.Item :=
  items.filterMap fun
    | .ok item => some item
    | .error _ => none

/-- The program of a list of tokens, or every problem found. -/
def parseTokens (tokens : List Located) : Except (List Problem) Program :=
  let turns := tokens.length
  let items := Parse.items turns turns tokens
  let problems := problemsOf items
  if problems.isEmpty then
    .ok (.ofItems (wellFormed items))
  else
    .error problems

/-- The program of a source, or every problem found. -/
def parse (source : String) : Except (List Problem) Program :=
  match tokenize source with
  | .ok tokens => parseTokens tokens
  | .error problem => .error [problem]

end Script
end StagedScript
