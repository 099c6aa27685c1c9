import StagedScript.Executor.Basic
import StagedScript.Value.Record

/-!
# The executor of the script language

A program of the script language is run as a whole, or one of its operations is called. Which of
them is the mode of the executor; the module that it runs is part of its state.
-/

namespace StagedScript

inductive ScriptMode where
  /-- Run the whole program. -/
  | script
  /-- Call an operation; its name may be assigned later. -/
  | operation (name : Option String) (arguments : List Value)

namespace ScriptMode

/-- The mode that calls a named operation; without a name the whole program is run. -/
def calling (name : String) (arguments : List Value) : ScriptMode :=
  if name.isEmpty then .script else .operation (some name) arguments

/-- A mode as a JSON record. -/
def toJson : ScriptMode → Json
  | .script => .text "script"
  | .operation name arguments =>
      .object [("name", .ofText? name), ("args", .array (Value.toRecords arguments))]

end ScriptMode

/-- A module of the script language and the mode in which it is run. -/
structure ScriptRunner (μ : Type) where
  module : μ
  mode : ScriptMode

namespace ScriptRunner

/-- Run whole programs. -/
def new (module : μ) : ScriptRunner μ :=
  ⟨module, .script⟩

def forOperation (module : μ) (name : String) (arguments : List Value) : ScriptRunner μ :=
  ⟨module, .calling name arguments⟩

/-- Call an operation that is assigned later. -/
def operationMode (module : μ) : ScriptRunner μ :=
  ⟨module, .operation none []⟩

/-- Call another operation from now on. -/
def changeOperation (runner : ScriptRunner μ) (name : String) (arguments : List Value) :
    ScriptRunner μ :=
  { runner with mode := .calling name arguments }

/-- Carry out an action of the module. -/
def onModule (action : Act μ α) : Act (ScriptRunner μ) α := do
  let runner ← get
  let (result, module) ← StateT.lift (action.run runner.module)
  set { runner with module := module }
  return result

instance [EngineModule μ] : EngineModule (ScriptRunner μ) where
  parseFile path := onModule (EngineModule.parseFile path)
  parseCode text := onModule (EngineModule.parseCode text)
  problems runner := EngineModule.problems runner.module
  context runner := EngineModule.context runner.module
  withContext context runner :=
    { runner with module := EngineModule.withContext context runner.module }
  ruleTimings runner := EngineModule.ruleTimings runner.module

/-- Run what the mode says. An operation has to be named and declared. -/
def execute [ScriptModule μ] : Act (ScriptRunner μ) (Except ScriptError Value) := do
  let runner ← get
  match runner.mode with
  | .script => EngineResult.toScript <$> onModule ScriptModule.execute
  | .operation none _ => return .error (.invalidMode .noOperationName)
  | .operation (some name) arguments =>
      if ScriptModule.hasOperation runner.module name then
        EngineResult.toScript <$> onModule (ScriptModule.invokeOperation name arguments)
      else
        return .error (.invalidMode (.undeclaredOperation name))

end ScriptRunner

namespace LanguageExecutor

/-- The executor of the script language: the value of the program. There are no hooks. -/
def script [ScriptModule μ] : LanguageExecutor (ScriptRunner μ) Value where
  toExecutorBase := .ofModule .eol
  preProcess := return .ok ()
  execute := ScriptRunner.execute
  postProcess := return .ok ()

end LanguageExecutor
end StagedScript
