import StagedScript.Json.Basic

/-!
# Problems in a source

A problem is a place in a source, a reason and a severity. Lines and columns count from one, and a
column counts characters since the last line feed.

**Results.** The position after two texts is the position after the second, counted from the
position after the first (`Position.after_append`).
-/

namespace StagedScript

/-- A place in a source. -/
structure Position where
  line : Nat
  column : Nat
deriving DecidableEq, Repr, Inhabited

namespace Position

/-- The first character of a source. -/
def first : Position :=
  ⟨1, 1⟩

/-- The place after a character. -/
def step (position : Position) (c : Char) : Position :=
  if c = '\n' then
    ⟨position.line + 1, 1⟩
  else
    ⟨position.line, position.column + 1⟩

def after (position : Position) (text : List Char) : Position :=
  text.foldl step position

@[simp] theorem after_nil (position : Position) : position.after [] = position :=
  rfl

@[simp] theorem after_append (position : Position) (text more : List Char) :
    position.after (text ++ more) = (position.after text).after more :=
  List.foldl_append

def render (position : Position) : String :=
  toString position.line ++ ":" ++ toString position.column

end Position

/-- How grave a problem is. -/
inductive Severity where
  | error
  | warning
deriving DecidableEq, Repr, Inhabited

namespace Severity

def name : Severity → String
  | .error => "Error"
  | .warning => "Warning"

end Severity

/-- A problem found in a source. -/
structure Problem where
  position : Position
  reason : String
  severity : Severity
deriving DecidableEq, Repr, Inhabited

namespace Problem

/-- A problem that makes the source unusable. -/
def error (position : Position) (reason : String) : Problem :=
  ⟨position, reason, .error⟩

/-- A problem that the source can be used in spite of. -/
def warning (position : Position) (reason : String) : Problem :=
  ⟨position, reason, .warning⟩

def render (problem : Problem) : String :=
  problem.severity.name ++ " at " ++ problem.position.render ++ ": " ++ problem.reason

/-- The problem as a JSON record. -/
def toJson (problem : Problem) : Json :=
  .object
    [("line", .integer problem.position.line),
     ("column", .integer problem.position.column),
     ("reason", .text problem.reason),
     ("severity", .text problem.severity.name)]

end Problem
end StagedScript
