import StagedScript.Json.Basic

/-!
# What rule-based languages produce

Comparisons record matches, transformations what a rule made of an element, mergings what was made
of two, and validations the checks that an element did not pass.
-/

namespace StagedScript

/-- The comparison of two elements. -/
structure Match where
  rule : String
  left : String
  right : String
  matching : Bool
deriving DecidableEq, Repr

/-- The comparisons of a run. -/
structure MatchTrace where
  matches_ : List Match
deriving DecidableEq, Repr, Inhabited

namespace MatchTrace

def matching (trace : MatchTrace) : List Match :=
  trace.matches_.filter Match.matching

/-- Record a comparison. -/
def push (trace : MatchTrace) (entry : Match) : MatchTrace :=
  ⟨trace.matches_ ++ [entry]⟩

end MatchTrace

/-- What a rule made of an element. -/
structure Transformation where
  rule : String
  source : String
  targets : List String
deriving DecidableEq, Repr

structure TransformationTrace where
  transformations : List Transformation
deriving DecidableEq, Repr, Inhabited

namespace TransformationTrace

/-- What was made of an element by any rule, in order. -/
def targetsOf (trace : TransformationTrace) (source : String) : List String :=
  (trace.transformations.filter fun t => t.source = source).flatMap Transformation.targets

def push (trace : TransformationTrace) (entry : Transformation) : TransformationTrace :=
  ⟨trace.transformations ++ [entry]⟩

end TransformationTrace

/-- What was merged from two matching elements. -/
structure Merge where
  rule : String
  left : String
  right : String
  merged : List String
deriving DecidableEq, Repr

structure MergeTrace where
  merges : List Merge
deriving DecidableEq, Repr, Inhabited

namespace MergeTrace

def push (trace : MergeTrace) (entry : Merge) : MergeTrace :=
  ⟨trace.merges ++ [entry]⟩

end MergeTrace

/-- The result of a run that compares and then merges. -/
structure MergeTraces where
  matchTrace : MatchTrace
  mergeTrace : MergeTrace
deriving DecidableEq, Repr, Inhabited

/-- A check; a critique is a soft one. -/
structure Constraint where
  name : String
  context : String
  critique : Bool
deriving DecidableEq, Repr

/-- The checks on the elements of a type. -/
structure ConstraintContext where
  name : String
  typeName : String
  constraints : List Constraint
deriving DecidableEq, Repr

/-- A check that an element did not pass. -/
structure Unsatisfied where
  constraint : Constraint
  instance_ : String
  message : String
deriving DecidableEq, Repr

namespace Unsatisfied

/-- Whether the check is a critique. -/
def isCritique (item : Unsatisfied) : Bool :=
  item.constraint.critique

def name (item : Unsatisfied) : String :=
  item.constraint.name

end Unsatisfied
end StagedScript
