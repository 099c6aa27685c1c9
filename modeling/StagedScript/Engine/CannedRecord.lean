import StagedScript.Engine.Canned
import StagedScript.Error.Record
import StagedScript.Trace.Record
import StagedScript.Value.Record

/-!
# Canned modules from records

The answers of a canned module can be set by a JSON record.
-/

namespace StagedScript

namespace RuleTiming

/-- The time of a rule in a record. -/
def ofJson (json : Json) : RuleTiming :=
  ⟨json.textAt "rule", json.naturalAt "nanos"⟩

end RuleTiming

namespace CannedModule

/-- Set the failure of a record, if it names a stage. -/
def withFailure (module : CannedModule) (json : Json) : CannedModule :=
  match Stage.ofName? (json.textAt "stage") with
  | some stage => module.failingAt stage (json.textAt "message")
  | none => module

/-- The module of a record, with the models that its values may refer to. -/
def ofJson (models : List ModelHandle) (json : Json) : CannedModule :=
  let read (key : String) (add : CannedModule → Json → CannedModule) (module : CannedModule) :=
    (json.itemsAt key).foldl add module
  let problems := read "problems" (fun module entry => module.withProblem (.ofJson entry)) new
  let failures := read "fail" withFailure problems
  let timings := read "timings" (fun module entry =>
    let timing := RuleTiming.ofJson entry
    module.withTiming timing.rule timing.elapsed) failures
  let operations := read "operations" (fun module entry =>
    module.withOperation (entry.textAt "name") (.ofRecord models (entry.member "value"))) timings
  { operations with
    rejects := json.flagAt "reject"
    value := .ofRecord models (json.member "value")
    text := json.textAt? "text"
    matchTrace := ⟨(json.itemsAt "matches").map Match.ofJson⟩
    transformationTrace := ⟨(json.itemsAt "transformations").map Transformation.ofJson⟩
    mergeTrace := ⟨(json.itemsAt "merges").map Merge.ofJson⟩
    contexts := (json.itemsAt "contexts").map ConstraintContext.ofJson
    unsatisfied := (json.itemsAt "unsatisfied").map Unsatisfied.ofJson }

end CannedModule
end StagedScript
