import StagedScript.Engine.Module

/-!
# Canned modules

A module whose answers are set in advance, for trying out executors and controllers without an
engine. It keeps a list of the calls that it received: a stage adds its name to the list, and
leaves everything else alone.
-/

namespace StagedScript

/-- A module with answers that were set in advance. -/
structure CannedModule where
  context : Context
  /-- The problems of the last parse. -/
  problems : List Problem
  /-- The problems that the next parse reports. -/
  upcoming : List Problem
  /-- The stages that fail, with what they say; the last entry of a stage counts. -/
  failures : List (Stage × String)
  calls : List String
  timer : RuleTimer
  /-- Whether the times of rules are offered. -/
  profiled : Bool
  rejects : Bool
  value : Value
  /-- The operations that are declared, with their results; the last entry of a name counts. -/
  operations : List (String × Value)
  text : Option String
  matchTrace : MatchTrace
  transformationTrace : TransformationTrace
  mergeTrace : MergeTrace
  contexts : List ConstraintContext
  unsatisfied : List Unsatisfied

namespace CannedModule

/-- A module that accepts every program and has nothing to tell. -/
def new : CannedModule where
  context := .initial
  problems := []
  upcoming := []
  failures := []
  calls := []
  timer := .new
  profiled := false
  rejects := false
  value := .null
  operations := []
  text := none
  matchTrace := ⟨[]⟩
  transformationTrace := ⟨[]⟩
  mergeTrace := ⟨[]⟩
  contexts := []
  unsatisfied := []

/-- Report a problem after the next parse. -/
def withProblem (module : CannedModule) (problem : Problem) : CannedModule :=
  { module with upcoming := module.upcoming ++ [problem] }

/-- Refuse every program without a problem. -/
def rejecting (module : CannedModule) : CannedModule :=
  { module with rejects := true }

def failingAt (module : CannedModule) (stage : Stage) (message : String) : CannedModule :=
  { module with failures := (stage, message) :: module.failures }

/-- Offer a time of a rule; times of one rule add up. -/
def withTiming (module : CannedModule) (rule : String) (elapsed : Nanoseconds) : CannedModule :=
  { module with profiled := true, timer := module.timer.record rule elapsed }

def returning (module : CannedModule) (value : Value) : CannedModule :=
  { module with value := value }

def withOperation (module : CannedModule) (name : String) (result : Value) : CannedModule :=
  { module with operations := (name, result) :: module.operations }

/-- How often a call was received. -/
def count (module : CannedModule) (call : String) : Nat :=
  module.calls.count call

def received (call : String) (module : CannedModule) : CannedModule :=
  { module with calls := module.calls ++ [call] }

/-- The effect of a parse that gets to the program: the upcoming problems are reported. -/
def parsed : Act CannedModule Bool :=
  modifyGet fun module =>
    (!module.rejects, { module with problems := module.upcoming, upcoming := [] })

/-- Parse a text, whatever it is. -/
def parseCode (_ : String) : Act CannedModule (EngineResult Bool) := do
  modify (received "parse")
  return .ok (← parsed)

def parseFile (path : String) : Act CannedModule (EngineResult Bool) := do
  modify (received "parse")
  match (← getThe Resources).files.find path with
  | .error cause => return .error (.io path cause)
  | .ok _ => return .ok (← parsed)

/-- What a stage says: nothing, or the failure that was set for it. -/
def stageResult (module : CannedModule) (stage : Stage) : EngineResult Unit :=
  match List.lookup stage module.failures with
  | some message => .error (.runtime (.other message))
  | none => .ok ()

/-- Go through a stage. -/
def performStage (stage : Stage) : Act CannedModule (EngineResult Unit) :=
  modifyGet fun module => (module.stageResult stage, module.received stage.name)

/-- Execute, and answer with something that was set. -/
def executed (answer : CannedModule → EngineResult α) : Act CannedModule (EngineResult α) := do
  match ← performStage .execute with
  | .error fault => return .error fault
  | .ok () => return answer (← get)

def operationResult (module : CannedModule) (name : String) : EngineResult Value :=
  match List.lookup name module.operations with
  | some result => .ok result
  | none => .error (.runtime (.other ("no operation " ++ name)))

/-- The times of rules, if any were set. -/
def ruleTimings (module : CannedModule) : Option (List RuleTiming) :=
  if module.profiled then some module.timer.timings else none

instance : RuleModule CannedModule where
  parseFile := parseFile
  parseCode := parseCode
  problems := problems
  context := context
  withContext context module := { module with context := context }
  ruleTimings := ruleTimings
  preProcess := performStage .preProcess
  postProcess := performStage .postProcess

instance : ScriptModule CannedModule where
  execute := executed fun module => .ok module.value
  hasOperation module name := (List.lookup name module.operations).isSome
  invokeOperation name _ := executed fun module => module.operationResult name

instance : ComparisonModule CannedModule where
  compare := executed fun module => .ok module.matchTrace

instance : TransformationModule CannedModule where
  transform := executed fun module => .ok module.transformationTrace

instance : MergingModule CannedModule where
  merge := executed fun _ => .ok ()
  matchTrace := matchTrace
  mergeTrace := mergeTrace

instance : ValidationModule CannedModule where
  validate := executed fun module => .ok module.unsatisfied
  constraintContexts := contexts
  unsatisfied := unsatisfied

instance : TemplateModule CannedModule where
  generateText := executed fun module => .ok module.text

instance : GenerationModule CannedModule where
  generate := executed fun module => .ok module.value

end CannedModule
end StagedScript
