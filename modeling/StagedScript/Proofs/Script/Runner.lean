import StagedScript.Engine.Script
import StagedScript.Executor.Script
import StagedScript.Proofs.Run.Effects
import StagedScript.Proofs.Script.Confinement

/-!
# What the calls of a runner do

A runner of the script language parses with its module and executes by its mode. The lemmas here
say what these actions come to, so that proofs about runs do not open them.
-/

namespace StagedScript

/-- The text of a source. -/
def ResolvedSource.read (source : ResolvedSource) (files : FileTree) :
    EngineResult String :=
  match source with
  | .code text => .ok text
  | .script path =>
      match files.readText path with
      | .ok text => .ok text
      | .error cause => .error (.io path cause)

/-- A parse leaves the context alone. -/
theorem ScriptEngine.context_parsed (engine : ScriptEngine) (code : String)
    (source : Option String) : (engine.parsed code source).2.context = engine.context := by
  unfold parsed
  split <;> rfl

namespace ScriptEngine

variable {engine : ScriptEngine} {resources : Resources} {path : String}

theorem apply_parseFile_error {cause : IoError}
    (unread : resources.files.readText path = .error cause) :
    Act.apply (parseFile path) (engine, resources) =
      (.error (.io path cause), engine, resources) := by
  have held : Act.apply (getThe Resources) (engine, resources) = (resources, engine, resources) :=
    rfl
  rw [parseFile, Act.apply_bind, held]
  dsimp only
  rw [unread]
  rfl

theorem apply_parseFile_ok {code : String} (read : resources.files.readText path = .ok code) :
    Act.apply (parseFile path) (engine, resources) =
      (.ok (engine.parsed code (some path)).1, (engine.parsed code (some path)).2, resources) := by
  have held : Act.apply (getThe Resources) (engine, resources) = (resources, engine, resources) :=
    rfl
  rw [parseFile, Act.apply_bind, held]
  dsimp only
  rw [read]
  rfl

end ScriptEngine

namespace ScriptRunner

variable {μ : Type} [ScriptModule μ] {state : ScriptRunner μ × Resources}

/-! What an execution does in each mode. -/

theorem apply_execute_script (mode : state.1.mode = .script) :
    Act.apply execute state =
      Act.apply (EngineResult.toScript <$> onModule ScriptModule.execute) state := by
  obtain ⟨⟨module, _⟩, resources⟩ := state
  cases mode
  rfl

theorem apply_execute_unnamed {arguments : List Value}
    (mode : state.1.mode = .operation none arguments) :
    Act.apply execute state = (.error (.invalidMode .noOperationName), state) := by
  obtain ⟨⟨module, _⟩, resources⟩ := state
  cases mode
  rfl

theorem apply_execute_operation {name : String} {arguments : List Value}
    (mode : state.1.mode = .operation (some name) arguments) :
    Act.apply execute state =
      if ScriptModule.hasOperation state.1.module name then
        Act.apply
          (EngineResult.toScript <$> onModule (ScriptModule.invokeOperation name arguments)) state
      else
        (.error (.invalidMode (.undeclaredOperation name)), state) := by
  obtain ⟨⟨module, _⟩, resources⟩ := state
  cases mode
  change Act.apply (if ScriptModule.hasOperation module name = true then _ else _) _ = _
  split <;> rfl

/-- A parse fails with the file, or takes the text. -/
theorem exists_apply_parse (source : ResolvedSource)
    (state : ScriptRunner ScriptEngine × Resources) :
    ∃ origin,
      (∀ fault, source.read state.2.files = .error fault →
        Act.apply (LanguageExecutor.script.parse source) state = (.error fault, state)) ∧
      ∀ text, source.read state.2.files = .ok text →
        Act.apply (LanguageExecutor.script.parse source) state =
          (.ok (state.1.module.parsed text origin).1,
            { state.1 with module := (state.1.module.parsed text origin).2 }, state.2) := by
  obtain ⟨runner, resources⟩ := state
  cases source with
  | code code =>
      refine ⟨none, nofun, ?_⟩
      rintro text ⟨⟩
      rfl
  | script path =>
      have onModule : Act.apply (LanguageExecutor.script.parse (.script path)) (runner, resources) =
          let parse := Act.apply (ScriptEngine.parseFile path) (runner.module, resources)
          (parse.1, { runner with module := parse.2.1 }, parse.2.2) := rfl
      rw [onModule]
      refine ⟨some path, ?_⟩
      unfold ResolvedSource.read
      dsimp only
      cases found : resources.files.readText path with
      | error cause =>
          refine ⟨?_, nofun⟩
          rintro fault ⟨⟩
          rw [ScriptEngine.apply_parseFile_error found]
      | ok code =>
          refine ⟨nofun, ?_⟩
          rintro text ⟨⟩
          rw [ScriptEngine.apply_parseFile_ok found]

section Relates

variable {R : ScriptRunner ScriptEngine × Resources → ScriptRunner ScriptEngine × Resources → Prop}

/-- A parse keeps to what the parse of a text keeps to, wherever the text comes from. -/
theorem relates_parse (refl : ∀ state, R state state)
    (parsed : ∀ state text origin,
      R state ({ state.1 with module := (state.1.module.parsed text origin).2 }, state.2))
    (source : ResolvedSource) (state : ScriptRunner ScriptEngine × Resources) :
    R state (Act.apply (LanguageExecutor.script.parse source) state).2 := by
  obtain ⟨origin, faults, parses⟩ := exists_apply_parse source state
  cases read : source.read state.2.files with
  | error fault =>
      rw [faults fault read]
      exact refl state
  | ok text =>
      rw [parses text read]
      exact parsed state text origin

/-- An execution keeps to what every evaluation keeps to, whatever its mode. -/
theorem relates_execute (refl : ∀ state, R state state)
    (evaluate : ∀ {body : Script.Setting → Script.Eval Value},
      (∀ setting, (body setting).Leaves FrameStack.Confined) → ∀ state,
      R state (Act.apply (EngineResult.toScript <$> onModule (ScriptEngine.evaluate body)) state).2)
    (state : ScriptRunner ScriptEngine × Resources) : R state (Act.apply execute state).2 := by
  cases mode : state.1.mode with
  | script =>
      rw [apply_execute_script mode]
      exact evaluate Script.Eval.leaves_script state
  | operation name? arguments =>
      cases name? with
      | none =>
          rw [apply_execute_unnamed mode]
          exact refl state
      | some name =>
          rw [apply_execute_operation mode]
          split
          · exact evaluate
              (fun setting => Script.Eval.leaves_operation setting name arguments) state
          · exact refl state

end Relates

end ScriptRunner
end StagedScript
