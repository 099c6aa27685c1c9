import StagedScript.Proofs.Run.Calls
import StagedScript.Proofs.Script.Runner

/-!
# Runs of scripts

A run of the script language sends its channels to their streams, parses, takes its inputs and
executes; there are no hooks. Streams are kept both by the controller and by the engine, and those
of the controller count if there are any.

**Results.** What the calls of a run make of a runner: it stays as it is if the source cannot be
read, it has the problems of a source that is no program, or it executes with the program and the
inputs at hand (`ScriptRunner.makes_unread`, `ScriptRunner.exists_makes_refused`,
`ScriptRunner.exists_makes_executed`).
-/

namespace StagedScript

/-- What can be read from where a program comes from. -/
def ExecutionSource.read? (source : ExecutionSource) (files : FileTree) :
    Option (EngineResult String) :=
  source.resolve?.map fun resolved => resolved.read files

namespace ScriptEngine

theorem stream_setting (engine : ScriptEngine) (program : Script.Program) (models : ModelStore) :
    (engine.setting program models).stream = engine.context.stream := by
  funext channel
  cases channel <;> rfl

end ScriptEngine

namespace ScriptRunner

variable (state : ScriptRunner ScriptEngine × Resources) {source : ResolvedSource}
  {program : Script.Program} {text : String} {rest : List ExecutorCall}

theorem makes_unread {fault : EngineError} (unread : source.read state.2.files = .error fault) :
    Makes LanguageExecutor.script (.parse source :: rest) none state [.parse source]
      (.error (Pass.faultError source.kind fault)) state := by
  obtain ⟨origin, faults, -⟩ := exists_apply_parse source state
  exact .fail (.parseFault (faults fault unread))

/-- The error of a source that is no program. -/
def refusal (kind : SourceKind) (problems : List Problem) : ScriptError :=
  if problems = [] then Pass.rejectionError kind else Pass.problemsError kind problems

theorem exists_makes_refused {problems : List Problem}
    (read : source.read state.2.files = .ok text) (refused : Script.parse text = .error problems) :
    ∃ origin, Makes LanguageExecutor.script (.parse source :: rest) none state [.parse source]
      (.error (refusal source.kind problems))
      ({ state.1 with module := { state.1.module with
          program := none, problems := problems, source := origin } }, state.2) := by
  obtain ⟨origin, -, parses⟩ := exists_apply_parse source state
  have answer := parses text read
  unfold ScriptEngine.parsed at answer
  rw [refused] at answer
  refine ⟨origin, .fail ?_⟩
  unfold refusal
  split
  next clean => exact .parseRejected answer clean
  next found => exact .parseProblems answer found

/-- A runner with a program and the inputs of a run. -/
def loaded (runner : ScriptRunner ScriptEngine) (origin : Option String) (program : Script.Program)
    (models : List ModelHandle) (parameters : Parameters) (delegates : List NativeDelegate) :
    ScriptRunner ScriptEngine :=
  { runner with module := { runner.module with
      program := some program, problems := [], source := origin
      context := ((runner.module.context.addModels models).addParameters parameters).addDelegates
        delegates } }

theorem stream_loaded (runner : ScriptRunner ScriptEngine) (origin : Option String)
    (program : Script.Program) (models : List ModelHandle) (parameters : Parameters)
    (delegates : List NativeDelegate) :
    (runner.loaded origin program models parameters delegates).module.context.stream =
      runner.module.context.stream := by
  funext channel
  cases channel <;> rfl

theorem exists_makes_executed (read : source.read state.2.files = .ok text)
    (accepted : Script.parse text = .ok program) (models : List ModelHandle)
    (parameters : Parameters) (delegates : List NativeDelegate) :
    ∃ origin, ∀ {answer : Except ScriptError Value} {after : ScriptRunner ScriptEngine × Resources},
      Act.apply execute (state.1.loaded origin program models parameters delegates, state.2) =
        (answer, after) →
      ∃ made, Makes LanguageExecutor.script
        [.parse source, .addModels models, .addParameters parameters, .addDelegates delegates,
          .preProcess, .execute, .postProcess]
        none state made ((answer.map some).mapError Pass.executionError) after := by
  obtain ⟨origin, -, parses⟩ := exists_apply_parse source state
  have parse := parses text read
  unfold ScriptEngine.parsed at parse
  rw [accepted] at parse
  refine ⟨origin, fun {answer after} execute => ?_⟩
  cases answer with
  | error error =>
      refine ⟨_, .pass (.parsed parse rfl) (.pass .addModels (.pass .addParameters
        (.pass .addDelegates (.pass (.preProcess rfl) (.fail ?_)))))⟩
      exact answers_execute_error execute
  | ok value =>
      exact ⟨_, .pass (.parsed parse rfl) (.pass .addModels (.pass .addParameters
        (.pass .addDelegates (.pass (.preProcess rfl) (.pass (.execute execute)
          (.pass (.postProcess rfl) .done))))))⟩

end ScriptRunner

namespace Controller

variable (controller : Controller (ScriptRunner ScriptEngine) Value)

/-- Where a channel leads to in the next run. -/
def destination (channel : Channel) : Stream :=
  (controller.stream? channel).getD (controller.engine.module.context.stream channel)

/-- The engine of a controller when its channels were redirected. -/
def redirectedEngine : ScriptRunner ScriptEngine :=
  { controller.engine with
    module := { controller.engine.module with
      context := { controller.engine.module.context with
        output := controller.destination .output
        warning := controller.destination .warning
        error := controller.destination .error } } }

theorem stream_redirectedEngine :
    controller.redirectedEngine.module.context.stream = controller.destination := by
  funext channel
  cases channel <;> rfl

theorem apply_redirectAll (script : controller.executor = .script) (resources : Resources) :
    Act.apply (channels.forM controller.redirectChannel) (controller.engine, resources) =
      ((), controller.redirectedEngine, resources) := by
  obtain ⟨runId, executor, engine, source, models, parameters, delegates, options, probe, output,
    warning, error, profile, state⟩ := controller
  cases script
  cases output <;> cases warning <;> cases error <;> rfl

end Controller
end StagedScript
