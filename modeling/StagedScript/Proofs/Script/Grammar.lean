import StagedScript.Script.Parser

/-!
# The grammar of the script language

Which lists of tokens are which programs, said without a parser. Every rule carries a bound on the
nesting of what it derives: parentheses, prefix operators, argument lists and braces, all counted
together. Rules that nest take their parts from one level further in.

Operators between operands bind on six levels. On each of them a chain groups to the left, since
the left operand of a rule is of the same level and the right one of the next. An expression is
what the loosest level derives.

The heights of expressions are no matter of the grammar; `Program.expressions` lists the trees
that a limit on heights is about.
-/

namespace StagedScript
namespace Script

/-- How tightly the parts of an expression bind, the loosest first. -/
inductive Level where
  | disjunction
  | conjunction
  | equality
  | comparison
  | additive
  | multiplicative
  /-- Operands with their prefix operators. -/
  | operand
  /-- Literals, names, calls and parentheses. -/
  | primary
deriving DecidableEq, Repr

namespace Level

/-- The place of a level among all of them. -/
def rank : Level → Nat
  | .disjunction => 0
  | .conjunction => 1
  | .equality => 2
  | .comparison => 3
  | .additive => 4
  | .multiplicative => 5
  | .operand => 6
  | .primary => 7

/-- The next tighter level; none is tighter than the last. -/
def next : Level → Level
  | .disjunction => .conjunction
  | .conjunction => .equality
  | .equality => .comparison
  | .comparison => .additive
  | .additive => .multiplicative
  | .multiplicative => .operand
  | .operand => .primary
  | .primary => .primary

end Level

namespace BinaryOp

/-- The level of the chains that an operator forms. -/
def level : BinaryOp → Level
  | .or => .disjunction
  | .and => .conjunction
  | .equal | .notEqual => .equality
  | .less | .lessEqual | .greater | .greaterEqual => .comparison
  | .add | .sub => .additive
  | .mul | .div | .rem => .multiplicative

/-- The token of an operator. -/
def token : BinaryOp → Token
  | .add => .symbol .plus
  | .sub => .symbol .minus
  | .mul => .symbol .star
  | .div => .symbol .slash
  | .rem => .symbol .percent
  | .equal => .symbol .equal
  | .notEqual => .symbol .notEqual
  | .less => .symbol .less
  | .lessEqual => .symbol .lessEqual
  | .greater => .symbol .greater
  | .greaterEqual => .symbol .greaterEqual
  | .and => .keyword .and
  | .or => .keyword .or

theorem token_ne_endOfInput (op : BinaryOp) : op.token ≠ .endOfInput := by
  cases op <;> simp [token]

end BinaryOp

namespace UnaryOp

/-- The token of a prefix operator. -/
def token : UnaryOp → Token
  | .neg => .symbol .minus
  | .not => .keyword .not

theorem token_ne_endOfInput (op : UnaryOp) : op.token ≠ .endOfInput := by
  cases op <;> simp [token]

end UnaryOp

namespace Grammar

/-- Words with commas between them. -/
def separated (words : List (List Token)) : List Token :=
  [Token.symbol .comma].intercalate words

@[simp] theorem separated_nil : separated [] = [] :=
  rfl

@[simp] theorem separated_singleton (word : List Token) : separated [word] = word := by
  simp [separated, List.intercalate]

theorem separated_cons_cons (first second : List Token) (words : List (List Token)) :
    separated (first :: second :: words) =
      first ++ .symbol .comma :: separated (second :: words) := by
  simp [separated, List.intercalate]

/-- A word in parentheses. -/
def parenthesized (word : List Token) : List Token :=
  .symbol .leftParen :: (word ++ [.symbol .rightParen])

/-- A word in braces. -/
def braced (word : List Token) : List Token :=
  .symbol .leftBrace :: (word ++ [.symbol .rightBrace])

/-- Expressions of a level: `Expression nesting level word e` says that the word is the expression,
with at most so much nesting. -/
inductive Expression : Nat → Level → List Token → Expr → Prop
  | integer {nesting : Nat} (value : Int64) :
      Expression nesting .primary [.integer value] (.integer value)
  | real {nesting : Nat} (value : Float) :
      Expression nesting .primary [.real value] (.real value)
  | text {nesting : Nat} (value : String) :
      Expression nesting .primary [.text value] (.text value)
  | true_ {nesting : Nat} :
      Expression nesting .primary [.keyword .true_] (.boolean true)
  | false_ {nesting : Nat} :
      Expression nesting .primary [.keyword .false_] (.boolean false)
  | null {nesting : Nat} :
      Expression nesting .primary [.keyword .null] .null
  | name {nesting : Nat} (name : String) :
      Expression nesting .primary [.name name] (.name name)
  | call {nesting : Nat} (name : String) (arguments : List (List Token × Expr)) :
      (∀ argument ∈ arguments, Expression nesting .disjunction argument.1 argument.2) →
      Expression (nesting + 1) .primary
        (.name name :: parenthesized (separated (arguments.map Prod.fst)))
        (.call name (arguments.map Prod.snd))
  | parens {nesting : Nat} {word : List Token} {e : Expr} :
      Expression nesting .disjunction word e →
      Expression (nesting + 1) .primary (parenthesized word) e
  | unary {nesting : Nat} {word : List Token} {e : Expr} (op : UnaryOp) :
      Expression nesting .operand word e →
      Expression (nesting + 1) .operand (op.token :: word) (.unary op e)
  | binary {nesting : Nat} {left right : List Token} {a b : Expr} (op : BinaryOp) :
      Expression nesting op.level left a →
      Expression nesting op.level.next right b →
      Expression nesting op.level (left ++ op.token :: right) (.binary op a b)
  | tighter {nesting : Nat} {word : List Token} {e : Expr} (level : Level) :
      Expression nesting level.next word e →
      Expression nesting level word e

/-- Statements, with at most so much nesting. -/
inductive Statement : Nat → List Token → Stmt → Prop
  | var {nesting : Nat} (name : String) :
      Statement nesting [.keyword .var, .name name, .symbol .semicolon] (.var name none)
  | varWith {nesting : Nat} {word : List Token} {e : Expr} (name : String) :
      Expression nesting .disjunction word e →
      Statement nesting
        (.keyword .var :: .name name :: .symbol .assign :: (word ++ [.symbol .semicolon]))
        (.var name (some e))
  | ret {nesting : Nat} :
      Statement nesting [.keyword .ret, .symbol .semicolon] (.ret none)
  | retWith {nesting : Nat} {word : List Token} {e : Expr} :
      Expression nesting .disjunction word e →
      Statement nesting (.keyword .ret :: (word ++ [.symbol .semicolon])) (.ret (some e))
  | cond {nesting : Nat} {word : List Token} {e : Expr} (yes : List (List Token × Stmt)) :
      Expression (nesting + 1) .disjunction word e →
      (∀ part ∈ yes, Statement nesting part.1 part.2) →
      Statement (nesting + 1)
        (.keyword .if_ :: (parenthesized word ++ braced (yes.flatMap Prod.fst)))
        (.cond e (yes.map Prod.snd) [])
  | condElse {nesting : Nat} {word : List Token} {e : Expr} (yes no : List (List Token × Stmt)) :
      Expression (nesting + 1) .disjunction word e →
      (∀ part ∈ yes, Statement nesting part.1 part.2) →
      (∀ part ∈ no, Statement nesting part.1 part.2) →
      Statement (nesting + 1)
        (.keyword .if_ :: (parenthesized word ++ braced (yes.flatMap Prod.fst) ++
          .keyword .else_ :: braced (no.flatMap Prod.fst)))
        (.cond e (yes.map Prod.snd) (no.map Prod.snd))
  | condElseIf {nesting : Nat} {word rest : List Token} {e test : Expr}
      {first second : List Stmt} (yes : List (List Token × Stmt)) :
      Expression (nesting + 1) .disjunction word e →
      (∀ part ∈ yes, Statement nesting part.1 part.2) →
      Statement (nesting + 1) rest (.cond test first second) →
      Statement (nesting + 1)
        (.keyword .if_ :: (parenthesized word ++ braced (yes.flatMap Prod.fst) ++
          .keyword .else_ :: rest))
        (.cond e (yes.map Prod.snd) [.cond test first second])
  | loop {nesting : Nat} {word : List Token} {e : Expr} (body : List (List Token × Stmt)) :
      Expression (nesting + 1) .disjunction word e →
      (∀ part ∈ body, Statement nesting part.1 part.2) →
      Statement (nesting + 1)
        (.keyword .while_ :: (parenthesized word ++ braced (body.flatMap Prod.fst)))
        (.loop e (body.map Prod.snd))
  | assign {nesting : Nat} {word : List Token} {e : Expr} (name : String) :
      Expression nesting .disjunction word e →
      Statement nesting (.name name :: .symbol .assign :: (word ++ [.symbol .semicolon]))
        (.assign name e)
  | expr {nesting : Nat} {word : List Token} {e : Expr} :
      Expression nesting .disjunction word e →
      Statement nesting (word ++ [.symbol .semicolon]) (.expr e)

/-- Declarations of operations, with at most so much nesting. -/
inductive Declaration : Nat → List Token → Operation → Prop
  | operation {nesting : Nat} (name : String) (params : List String)
      (body : List (List Token × Stmt)) :
      (∀ part ∈ body, Statement nesting part.1 part.2) →
      Declaration (nesting + 1)
        (.keyword .operation :: .name name ::
          (parenthesized (separated (params.map fun param => [.name param])) ++
            braced (body.flatMap Prod.fst)))
        ⟨name, params, body.map Prod.snd⟩

/-- Source through the end of input: operations and statements in any order, each kind collected
in the order of the source. -/
inductive Source (nesting : Nat) : List Token → Program → Prop
  | done :
      Source nesting [.endOfInput] ⟨[], []⟩
  | operation {word rest : List Token} {op : Operation} {program : Program} :
      Declaration nesting word op →
      Source nesting rest program →
      Source nesting (word ++ rest) { program with operations := op :: program.operations }
  | statement {word rest : List Token} {s : Stmt} {program : Program} :
      Statement nesting word s →
      Source nesting rest program →
      Source nesting (word ++ rest) { program with statements := s :: program.statements }

end Grammar

namespace Stmt

mutual

/-- The expressions that stand in a statement, as whole trees. -/
def expressions : Stmt → List Expr
  | .var _ value => value.toList
  | .assign _ value => [value]
  | .ret value => value.toList
  | .cond test yes no => test :: (expressionsOfAll yes ++ expressionsOfAll no)
  | .loop test body => test :: expressionsOfAll body
  | .expr e => [e]

/-- The expressions that stand in a list of statements. -/
def expressionsOfAll : List Stmt → List Expr
  | [] => []
  | s :: rest => expressions s ++ expressionsOfAll rest

end

theorem expressionsOfAll_eq_flatMap (body : List Stmt) :
    expressionsOfAll body = body.flatMap expressions := by
  induction body with
  | nil => rfl
  | cons s rest ih => rw [expressionsOfAll, List.flatMap_cons, ih]

end Stmt

namespace Program

/-- The expressions that stand in a program, as whole trees. -/
def expressions (program : Program) : List Expr :=
  program.operations.flatMap (fun op => Stmt.expressionsOfAll op.body) ++
    Stmt.expressionsOfAll program.statements

end Program

/-- Whether the last token, and no other, is the end of input. -/
def EndsOnce (ts : List Located) : Prop :=
  ∃ body last, ts = body ++ [last] ∧ last.token = .endOfInput ∧
    ∀ located ∈ body, located.token ≠ .endOfInput

/-- The tokens without their places. -/
def tokensOf (ts : List Located) : List Token :=
  ts.map Located.token

end Script
end StagedScript
