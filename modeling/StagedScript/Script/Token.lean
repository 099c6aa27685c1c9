import StagedScript.Problem
import StagedScript.Text.Quoted
import StagedScript.Decimal.Layout

/-!
# Tokens

The words of the script language: literals, names, keywords and symbols, and the end of the input.
A keyword may have two spellings. Every token has a description, which problems quote.
-/

namespace StagedScript
namespace Script

/-- A reserved word. -/
inductive Keyword where
  | operation
  | var
  | ret
  | if_
  | else_
  | while_
  | true_
  | false_
  | null
  | and
  | or
  | not
deriving DecidableEq, Repr

namespace Keyword

/-- The keyword that a word spells, if it is reserved. -/
def ofWord? (word : String) : Option Keyword :=
  match word with
  | "operation" => some .operation
  | "function" => some .operation
  | "var" => some .var
  | "return" => some .ret
  | "if" => some .if_
  | "else" => some .else_
  | "while" => some .while_
  | "true" => some .true_
  | "false" => some .false_
  | "null" => some .null
  | "and" => some .and
  | "or" => some .or
  | "not" => some .not
  | _ => none

def spelling : Keyword → String
  | .operation => "operation"
  | .var => "var"
  | .ret => "return"
  | .if_ => "if"
  | .else_ => "else"
  | .while_ => "while"
  | .true_ => "true"
  | .false_ => "false"
  | .null => "null"
  | .and => "and"
  | .or => "or"
  | .not => "not"

def description : Keyword → String
  | .operation => "Operation"
  | .var => "Var"
  | .ret => "Return"
  | .if_ => "If"
  | .else_ => "Else"
  | .while_ => "While"
  | .true_ => "True"
  | .false_ => "False"
  | .null => "Null"
  | .and => "And"
  | .or => "Or"
  | .not => "Not"

end Keyword

/-- A punctuation mark or an operator. -/
inductive Symbol where
  | leftParen
  | rightParen
  | leftBrace
  | rightBrace
  | comma
  | semicolon
  | assign
  | plus
  | minus
  | star
  | slash
  | percent
  | equal
  | notEqual
  | less
  | lessEqual
  | greater
  | greaterEqual
deriving DecidableEq, Repr

namespace Symbol

def spelling : Symbol → String
  | .leftParen => "("
  | .rightParen => ")"
  | .leftBrace => "\x7b"
  | .rightBrace => "\x7d"
  | .comma => ","
  | .semicolon => ";"
  | .assign => "="
  | .plus => "+"
  | .minus => "-"
  | .star => "*"
  | .slash => "/"
  | .percent => "%"
  | .equal => "=="
  | .notEqual => "!="
  | .less => "<"
  | .lessEqual => "<="
  | .greater => ">"
  | .greaterEqual => ">="

def description : Symbol → String
  | .leftParen => "LParen"
  | .rightParen => "RParen"
  | .leftBrace => "LBrace"
  | .rightBrace => "RBrace"
  | .comma => "Comma"
  | .semicolon => "Semicolon"
  | .assign => "Assign"
  | .plus => "Plus"
  | .minus => "Minus"
  | .star => "Star"
  | .slash => "Slash"
  | .percent => "Percent"
  | .equal => "Eq"
  | .notEqual => "NotEq"
  | .less => "Lt"
  | .lessEqual => "Le"
  | .greater => "Gt"
  | .greaterEqual => "Ge"

end Symbol

/-- A word of the script language. -/
inductive Token where
  | integer (value : Int64)
  | real (value : Float)
  | text (value : String)
  | name (value : String)
  | keyword (word : Keyword)
  | symbol (mark : Symbol)
  | endOfInput
deriving DecidableEq

namespace Token

def kind : Token → String
  | .integer _ => "Integer"
  | .real _ => "Real"
  | .text _ => "String"
  | .name _ => "Ident"
  | .keyword word => word.description
  | .symbol mark => mark.description
  | .endOfInput => "Eof"

/-- A token as problems quote it: its kind, and what it carries. -/
def description (token : Token) : String :=
  match token with
  | .integer value => token.kind ++ "(" ++ toString value.toInt ++ ")"
  | .real value => token.kind ++ "(" ++ Decimal.RealFormat.literal.render value ++ ")"
  | .text value => token.kind ++ "(" ++ Text.quoted value ++ ")"
  | .name value => token.kind ++ "(" ++ Text.quoted value ++ ")"
  | .keyword _ => token.kind
  | .symbol _ => token.kind
  | .endOfInput => "end of input"

end Token

/-- A token and the place where it starts. -/
structure Located where
  token : Token
  position : Position
deriving DecidableEq

end Script
end StagedScript
