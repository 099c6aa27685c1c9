import StagedScript.Executor.Basic
import StagedScript.Profile.Recording

/-!
# Passes

A pass leads an executor through one run. How far it came stands in its type, and every step takes
a pass that came to one point and hands out one that came to the next, so that no step can be left
out, repeated or done out of order: parse, prepare, pre-process, execute, post-process, finish. A
step that fails ends the pass.

With a profile, the start and the end of every stage are recorded in it. The latency of a stage is
observed in the metrics in any case, whether the stage fails or not.
-/

namespace StagedScript

/-- A pass that came to a point. -/
structure Pass (σ ρ : Type) (reached : LifecycleState) where
  executor : LanguageExecutor σ ρ
  state : σ
  profile : Option Profile

/-- A pass that failed, with what is left of it. -/
structure FailedPass (σ : Type) where
  error : ScriptError
  state : σ
  profile : Option Profile

/-- A computation that may end a pass. -/
abbrev Attempt (σ : Type) :=
  ExceptT (FailedPass σ) InWorld

namespace Pass

variable {σ ρ α : Type} {reached : LifecycleState}

def start (executor : LanguageExecutor σ ρ) (state : σ) (profile : Option Profile) :
    Pass σ ρ .constructed :=
  ⟨executor, state, profile⟩

/-- Whether a pass is recorded. -/
def isProfiled (pass : Pass σ ρ reached) : Bool :=
  pass.profile.isSome

/-- The pass as one that came to another point. -/
def advance (pass : Pass σ ρ reached) (next : LifecycleState) : Pass σ ρ next :=
  ⟨pass.executor, pass.state, pass.profile⟩

def fail (pass : Pass σ ρ reached) (error : ScriptError) : Attempt σ α :=
  throw ⟨error, pass.state, pass.profile⟩

def onProfile (pass : Pass σ ρ reached) (change : Profile → InWorld Profile) :
    InWorld (Pass σ ρ reached) := do
  match pass.profile with
  | none => return pass
  | some profile => return { pass with profile := some (← change profile) }

/-- Carry out an action of the executor. -/
def perform (pass : Pass σ ρ reached) (action : Act σ α) :
    InWorld (α × Pass σ ρ reached) := do
  let (result, state) ← InWorld.perform action pass.state
  return (result, { pass with state := state })

/-- Carry out an action of the executor as a stage of the run. -/
def span (pass : Pass σ ρ reached) (stage : Stage) (action : Act σ α) :
    InWorld (α × Pass σ ρ reached) := do
  let started ← InWorld.instant
  let opened ← pass.onProfile fun profile => profile.recordStart stage.name
  let (result, acted) ← opened.perform action
  let closed ← acted.onProfile fun profile => profile.recordEnd stage.name
  let elapsed ← InWorld.elapsedSince started
  InWorld.meter fun metrics => metrics.observe (.stage stage) elapsed
  return (result, closed)

def problemsError (culprit : SourceKind) (problems : List Problem) : ScriptError :=
  .parse culprit ("; ".intercalate (problems.map Problem.render)) problems none

/-- The error of a parse that an engine fault ended. -/
def faultError (culprit : SourceKind) (fault : EngineError) : ScriptError :=
  .parse culprit fault.message [] (some fault)

/-- The error of a source that was not accepted and has no problems. -/
def rejectionError (culprit : SourceKind) : ScriptError :=
  .parse culprit ("the engine rejected the " ++ culprit.name) [] none

def logUnparsed (culprit : SourceKind) : InWorld Unit :=
  InWorld.log .error ("Failed to parse provided " ++ culprit.name)

def logProblems (problems : List Problem) : InWorld Unit :=
  InWorld.logAll
    ((problems.map fun problem => ⟨.error, problem.render⟩) ++
      [⟨.error, "Parse errors occurred."⟩])

/-- Parse a source. It fails if the engine does, if there are problems, even when the source was
accepted, and if it was not accepted. -/
def parse (pass : Pass σ ρ .constructed) (source : ResolvedSource) :
    Attempt σ (Pass σ ρ .parsed) := do
  let culprit := source.kind
  let (parsed, pass) ← pass.perform (pass.executor.parse source)
  match parsed with
  | .error fault =>
      logUnparsed culprit
      pass.fail (faultError culprit fault)
  | .ok accepted =>
      let problems := pass.executor.problems pass.state
      if !problems.isEmpty then
        logProblems problems
        pass.fail (problemsError culprit problems)
      else if !accepted then
        logUnparsed culprit
        pass.fail (rejectionError culprit)
      else
        return pass.advance .parsed

/-- Hand models, parameters and delegates to the executor. -/
def prepare (pass : Pass σ ρ .parsed) (models : List ModelHandle) (parameters : Parameters)
    (delegates : List NativeDelegate) : InWorld (Pass σ ρ .prepared) := do
  let ((), pass) ← pass.span .prepareExecution do
    pass.executor.addModels models
    pass.executor.addParameters parameters
    pass.executor.addDelegates delegates
  return pass.advance .prepared

/-- The error of a stage other than the execution: an engine fault is told with its stage. -/
def stageError (stage : Stage) : ScriptError → ScriptError
  | .engine fault => .stage stage fault
  | other => other

/-- What an execution that an engine fault ended says. -/
def executionFailed : String :=
  "Error executing the module."

/-- The error of the execution: an engine fault is told as a failed execution. -/
def executionError : ScriptError → ScriptError
  | .engine fault => .execution executionFailed fault
  | other => other

/-- Log an engine fault after some words. -/
def logFault (lead : String) : ScriptError → InWorld Unit
  | .engine fault => InWorld.log .error (lead ++ " " ++ fault.message)
  | _ => return

/-- Go through a stage of hooks. -/
def hook (pass : Pass σ ρ reached) (stage : Stage) (action : Act σ (Except ScriptError Unit))
    (next : LifecycleState) : Attempt σ (Pass σ ρ next) := do
  let (result, pass) ← pass.span stage action
  match result with
  | .ok () => return pass.advance next
  | .error error =>
      logFault (stage.name ++ " failed:") error
      pass.fail (stageError stage error)

/-- Go through the hooks before the execution. -/
def preProcess (pass : Pass σ ρ .prepared) : Attempt σ (Pass σ ρ .preProcessed) :=
  pass.hook .preProcess pass.executor.preProcess .preProcessed

/-- Execute the program, with the result of its language. -/
def execute (pass : Pass σ ρ .preProcessed) : Attempt σ (ρ × Pass σ ρ .executed) := do
  let (result, pass) ← pass.span .execute pass.executor.execute
  match result with
  | .ok output => return (output, pass.advance .executed)
  | .error error =>
      logFault executionFailed error
      pass.fail (executionError error)

/-- Go through the hooks after the execution. -/
def postProcess (pass : Pass σ ρ .executed) : Attempt σ (Pass σ ρ .postProcessed) :=
  pass.hook .postProcess pass.executor.postProcess .postProcessed

/-- Merge the times of rules into the profile, and close it. -/
def finish (pass : Pass σ ρ .postProcessed) : InWorld (Pass σ ρ .postProcessed) :=
  pass.onProfile fun profile => do
    let merged ← profile.endModule (pass.executor.ruleTimings pass.state)
    merged.logEnd

end Pass
end StagedScript
