import StagedScript.Run.Controller

/-!
# Plans of runs

A plan collects what a controller is made of. Nothing is checked before the run; the machine is
described when the controller is made.
-/

namespace StagedScript

/-- What a controller is to be made of. -/
structure RunPlan (σ ρ : Type) where
  executor : LanguageExecutor σ ρ
  engine : σ
  source : ExecutionSource
  models : List ModelHandle
  parameters : Parameters
  delegates : List NativeDelegate
  options : ExecutionOptions
  probe : HostProbe
  output : Option Stream
  warning : Option Stream
  error : Option Stream

namespace RunPlan

variable {σ ρ : Type}

/-- An executor without a source and inputs. -/
def new (executor : LanguageExecutor σ ρ) (engine : σ) : RunPlan σ ρ where
  executor := executor
  engine := engine
  source := .none
  models := []
  parameters := []
  delegates := []
  options := .default
  probe := .machine
  output := none
  warning := none
  error := none

def script (plan : RunPlan σ ρ) (path : String) : RunPlan σ ρ :=
  { plan with source := { plan.source with script := some path } }

def scriptRelative (plan : RunPlan σ ρ) (path : String) (resolver : PathResolver) : RunPlan σ ρ :=
  plan.script (resolver.resolve path)

def code (plan : RunPlan σ ρ) (text : String) : RunPlan σ ρ :=
  { plan with source := { plan.source with code := some text } }

def addModels (plan : RunPlan σ ρ) (models : List ModelHandle) : RunPlan σ ρ :=
  { plan with models := plan.models ++ models }

def parameter (plan : RunPlan σ ρ) (name : String) (parameter : Parameter) : RunPlan σ ρ :=
  { plan with parameters := plan.parameters.put name parameter }

def addParameters (plan : RunPlan σ ρ) (parameters : Parameters) : RunPlan σ ρ :=
  { plan with parameters := plan.parameters.putAll parameters }

def addDelegates (plan : RunPlan σ ρ) (delegates : List NativeDelegate) : RunPlan σ ρ :=
  { plan with delegates := plan.delegates ++ delegates }

/-- Set all options. -/
def withOptions (plan : RunPlan σ ρ) (options : ExecutionOptions) : RunPlan σ ρ :=
  { plan with options := options }

/-- Set whether models are disposed. -/
def disposeModels (plan : RunPlan σ ρ) (dispose : Bool) : RunPlan σ ρ :=
  { plan with options := { plan.options with disposeModels := dispose } }

/-- Set whether the run is recorded. -/
def profileExecution (plan : RunPlan σ ρ) (profile : Bool) : RunPlan σ ρ :=
  { plan with options := { plan.options with profileExecution := profile } }

/-- Set where the description of the machine comes from. -/
def withProbe (plan : RunPlan σ ρ) (probe : HostProbe) : RunPlan σ ρ :=
  { plan with probe := probe }

def redirect (plan : RunPlan σ ρ) (channel : Channel) (stream : Stream) : RunPlan σ ρ :=
  match channel with
  | .output => { plan with output := some stream }
  | .warning => { plan with warning := some stream }
  | .error => { plan with error := some stream }

def build (plan : RunPlan σ ρ) : InWorld (Controller σ ρ) := do
  let profile ← Controller.freshProfile plan.options plan.probe
  let runId ← InWorld.newRunId
  return {
    runId := runId, executor := plan.executor, engine := plan.engine, source := plan.source,
    models := plan.models, parameters := plan.parameters, delegates := plan.delegates,
    options := plan.options, probe := plan.probe, output := plan.output,
    warning := plan.warning, error := plan.error, profile := profile, state := .constructed }

end RunPlan

namespace Controller

/-- The controller of a script, and nothing else. -/
def forScript (executor : LanguageExecutor σ ρ) (engine : σ) (path : String) :
    InWorld (Controller σ ρ) :=
  ((RunPlan.new executor engine).script path).build

/-- The controller of code, and nothing else. -/
def forCode (executor : LanguageExecutor σ ρ) (engine : σ) (text : String) :
    InWorld (Controller σ ρ) :=
  ((RunPlan.new executor engine).code text).build

end Controller
end StagedScript
