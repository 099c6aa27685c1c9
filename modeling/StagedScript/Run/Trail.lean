import StagedScript.Run.Pass

/-!
# Trails of passes

A pass can be led up to a point and left there. Its trail says which points it came to, and whether
it was recorded at each of them.
-/

namespace StagedScript

inductive PassPoint where
  | constructed
  | parsed
  | prepared
  | preProcessed
  | executed
  | postProcessed
  | finished
deriving DecidableEq, Repr

namespace PassPoint

/-- The points in the order in which a pass comes to them. -/
def all : List PassPoint :=
  [.constructed, .parsed, .prepared, .preProcessed, .executed, .postProcessed, .finished]

def name : PassPoint → String
  | .constructed => "constructed"
  | .parsed => "parsed"
  | .prepared => "prepared"
  | .preProcessed => "pre_processed"
  | .executed => "executed"
  | .postProcessed => "post_processed"
  | .finished => "finished"

/-- The point with a name, among those that a pass is led to. -/
def ofName? (name : String) : Option PassPoint :=
  all.tail.find? fun point => point.name = name

end PassPoint

structure PassInputs where
  source : ResolvedSource
  models : List ModelHandle
  parameters : Parameters
  delegates : List NativeDelegate

/-- A pass that was left, with the points that it came to. -/
structure PassTrail (σ ρ : Type) where
  result : Except ScriptError (Option ρ)
  points : List (PassPoint × Bool)
  state : σ
  profile : Option Profile

namespace PassTrail

variable {σ ρ : Type} {reached : LifecycleState}

/-- Leave a pass at its last point, with the result if there is one. -/
def leave (pass : Pass σ ρ reached) (points : List (PassPoint × Bool)) (output : Option ρ) :
    PassTrail σ ρ :=
  ⟨.ok output, points, pass.state, pass.profile⟩

def broken (failed : FailedPass σ) (points : List (PassPoint × Bool)) : PassTrail σ ρ :=
  ⟨.error failed.error, points, failed.state, failed.profile⟩

end PassTrail

namespace Pass

variable {σ ρ : Type} {reached : LifecycleState}

def mark (pass : Pass σ ρ reached) (points : List (PassPoint × Bool)) (point : PassPoint) :
    List (PassPoint × Bool) :=
  points ++ [(point, pass.isProfiled)]

def endAt (pass : Pass σ ρ .executed) (goal : PassPoint) (points : List (PassPoint × Bool))
    (output : ρ) : InWorld (PassTrail σ ρ) := do
  if goal = .executed then
    return .leave pass points (some output)
  match ← pass.postProcess.run with
  | .error failed => return .broken failed points
  | .ok pass =>
      let points := pass.mark points .postProcessed
      if goal = .postProcessed then
        return .leave pass points (some output)
      let pass ← pass.finish
      return .leave pass (pass.mark points .finished) (some output)

def executeTo (pass : Pass σ ρ .prepared) (goal : PassPoint)
    (points : List (PassPoint × Bool)) : InWorld (PassTrail σ ρ) := do
  if goal = .prepared then
    return .leave pass points none
  match ← pass.preProcess.run with
  | .error failed => return .broken failed points
  | .ok pass =>
      let points := pass.mark points .preProcessed
      if goal = .preProcessed then
        return .leave pass points none
      match ← pass.execute.run with
      | .error failed => return .broken failed points
      | .ok (output, pass) => pass.endAt goal (pass.mark points .executed) output

/-- Lead a pass up to the goal, or to the end. -/
def leadTo (pass : Pass σ ρ .constructed) (goal : PassPoint) (inputs : PassInputs) :
    InWorld (PassTrail σ ρ) := do
  let points := pass.mark [] .constructed
  if goal = .constructed then
    return .leave pass points none
  match ← (pass.parse inputs.source).run with
  | .error failed => return .broken failed points
  | .ok pass =>
      let points := pass.mark points .parsed
      if goal = .parsed then
        return .leave pass points none
      let pass ← pass.prepare inputs.models inputs.parameters inputs.delegates
      pass.executeTo goal (pass.mark points .prepared)

end Pass
end StagedScript
