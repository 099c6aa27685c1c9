import StagedScript.Options
import StagedScript.Run.Pass
import StagedScript.Validation

/-!
# Controllers

A controller owns an executor, a source and the inputs of a run, and makes one run of them. A
redirection hands out a controller that can run again. Disposal lets go of everything that the run
was given, and can be repeated.
-/

namespace StagedScript

/-- Where the description of the machine in a profile comes from. -/
inductive HostProbe where
  /-- The machine itself. -/
  | machine
  | fixed (metadata : HostMetadata)
deriving DecidableEq, Repr

namespace HostProbe

def metadata : HostProbe → InWorld HostMetadata
  | .machine => return (← get).machine.metadata
  | .fixed metadata => return metadata

end HostProbe

/-- An executor with the inputs of its run. -/
structure Controller (σ ρ : Type) where
  runId : RunId
  executor : LanguageExecutor σ ρ
  engine : σ
  source : ExecutionSource
  models : List ModelHandle
  parameters : Parameters
  delegates : List NativeDelegate
  options : ExecutionOptions
  probe : HostProbe
  output : Option Stream
  warning : Option Stream
  error : Option Stream
  profile : Option Profile
  state : LifecycleState

namespace Controller

variable {σ ρ : Type}

/-- An empty profile, if the options ask for one. -/
def freshProfile (options : ExecutionOptions) (probe : HostProbe) : InWorld (Option Profile) := do
  if options.profileExecution then
    return some (.new (← probe.metadata))
  else
    return none

/-- The stream that a channel is to be sent to. -/
def stream? (controller : Controller σ ρ) : Channel → Option Stream
  | .output => controller.output
  | .warning => controller.warning
  | .error => controller.error

/-- The channels in the order in which they are redirected. -/
def channels : List Channel :=
  [.output, .warning, .error]

/-- Send a channel to its stream, if there is one. -/
def redirectChannel (controller : Controller σ ρ) (channel : Channel) : Act σ Unit :=
  match controller.stream? channel with
  | some stream => controller.executor.redirect channel stream
  | none => return

/-- Send every channel to its stream. -/
def redirectAll (controller : Controller σ ρ) : Act σ Unit :=
  channels.forM controller.redirectChannel

/-- A pass of the controller that ends with an error before it began. -/
def refuse (controller : Controller σ ρ) (error : ScriptError) : Attempt σ α :=
  throw ⟨error, controller.engine, controller.profile⟩

/-- Check the inputs; warnings are logged. -/
def validate (controller : Controller σ ρ) : Attempt σ Unit := do
  let report := validateInputs controller.source controller.parameters
  match ← (InWorld.ofLogged report.toResult : InWorld _) with
  | .ok _ => return
  | .error error => controller.refuse error

/-- Begin a pass: record its start and send the channels to their streams. -/
def openPass (controller : Controller σ ρ) : InWorld (Pass σ ρ .constructed) := do
  let pass := Pass.start controller.executor controller.engine controller.profile
  let started ← pass.onProfile Profile.logStart
  let ((), redirected) ← started.perform controller.redirectAll
  return redirected

/-- Lead a pass through all steps from a source to the result. -/
def lead (controller : Controller σ ρ) (pass : Pass σ ρ .constructed) (source : ResolvedSource) :
    Attempt σ (ρ × Pass σ ρ .postProcessed) := do
  let parsed ← pass.parse source
  let prepared ← parsed.prepare controller.models controller.parameters controller.delegates
  let preProcessed ← prepared.preProcess
  let (output, executed) ← preProcessed.execute
  let postProcessed ← executed.postProcess
  return (output, ← postProcessed.finish)

/-- Go through the whole of a run. -/
def attempt (controller : Controller σ ρ) : Attempt σ (ρ × Pass σ ρ .postProcessed) := do
  controller.validate
  let pass ← controller.openPass
  match controller.source.resolve? with
  | some source => controller.lead pass source
  | none => pass.fail (.config (.inputs [.noSource]))

/-- Run the program, once: a controller that is not newly made, or renewed, refuses and changes
nothing. A failure ends the run at its step and is left to be disposed by the caller. -/
def run (controller : Controller σ ρ) : InWorld (Except ScriptError ρ × Controller σ ρ) := do
  if controller.state ≠ .constructed then
    return (.error (.config (.cannotRun controller.runId.text controller.state)), controller)
  let language := controller.executor.language controller.engine
  InWorld.log .info "Executing engine."
  InWorld.log .debug ("run " ++ controller.runId.text ++ " with " ++ language.name)
  InWorld.meter MetricsRegistry.recordRunStart
  let started ← InWorld.instant
  let outcome ← controller.attempt.run
  let elapsed ← InWorld.elapsedSince started
  match outcome with
  | .ok (output, pass) =>
      InWorld.meter fun metrics => metrics.recordSuccess elapsed
      return (.ok output,
        { controller with
          engine := pass.state, profile := pass.profile, state := .postProcessed })
  | .error failed =>
      InWorld.meter fun metrics => metrics.recordFailure failed.error elapsed
      return (.error failed.error,
        { controller with engine := failed.state, profile := failed.profile, state := .failed })

/-- Let go of models, parameters and the executor's context. The models are disposed if the options
say so. -/
def dispose (controller : Controller σ ρ) : InWorld (Controller σ ρ) := do
  let base := controller.executor.toExecutorBase
  let ((), engine) ←
    if controller.options.disposeModels then do
      InWorld.log .info "Disposing models"
      InWorld.perform base.disposeModels controller.engine
    else do
      InWorld.log .info "Removing models from context models"
      InWorld.perform base.clearModels controller.engine
  InWorld.log .info "Dispose context"
  let ((), engine) ← InWorld.perform base.dispose engine
  InWorld.meter fun metrics => metrics.count .disposals
  return { controller with engine := engine, models := [], parameters := [], state := .disposed }

def setStream (controller : Controller σ ρ) (channel : Channel) (stream : Stream) :
    Controller σ ρ :=
  match channel with
  | .output => { controller with output := some stream }
  | .warning => { controller with warning := some stream }
  | .error => { controller with error := some stream }

/-- A controller of the same inputs that can run again, as a run of its own. -/
def renewed (controller : Controller σ ρ) : InWorld (Controller σ ρ) := do
  let runId ← InWorld.newRunId
  let profile ← freshProfile controller.options controller.probe
  return { controller with runId := runId, profile := profile, state := .constructed }

/-- Send a channel to a stream from the next run on. -/
def redirected (controller : Controller σ ρ) (channel : Channel) (stream : Stream) :
    InWorld (Controller σ ρ) :=
  (controller.setStream channel stream).renewed

end Controller
end StagedScript
