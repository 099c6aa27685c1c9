import StagedScript.Engine.Module
import StagedScript.Script.Evaluator
import StagedScript.Script.Parser

/-!
# The script engine

An engine for the script language. It keeps the last program that was parsed, or the problems of a
source that was not accepted, and the path of a source that came from a file.
-/

namespace StagedScript

structure ScriptEngine where
  context : Context
  program : Option Script.Program
  problems : List Problem
  source : Option String
  /-- How many turns a loop of a program may take. -/
  turns : Nat

namespace ScriptEngine

def new (turns : Nat) : ScriptEngine where
  context := .initial
  program := none
  problems := []
  source := none
  turns := turns

/-- Take a source: its program, or its problems. -/
def parsed (engine : ScriptEngine) (code : String) (source : Option String) :
    Bool × ScriptEngine :=
  match Script.parse code with
  | .ok program =>
      (true, { engine with program := some program, problems := [], source := source })
  | .error problems =>
      (false, { engine with program := none, problems := problems, source := source })

def parseCode (code : String) : Act ScriptEngine (EngineResult Bool) := do
  let (accepted, engine) := (← get).parsed code none
  set engine
  return .ok accepted

/-- Parse a file; a file that cannot be read changes nothing. -/
def parseFile (path : String) : Act ScriptEngine (EngineResult Bool) := do
  match (← getThe Resources).files.readText path with
  | .error cause => return .error (.io path cause)
  | .ok code =>
      let (accepted, engine) := (← get).parsed code (some path)
      set engine
      return .ok accepted

/-- The names of the operations of the program, in order. -/
def operationNames (engine : ScriptEngine) : List String :=
  match engine.program with
  | some program => program.operations.map Script.Operation.name
  | none => []

/-- Whether the program declares an operation. -/
def hasOperation (engine : ScriptEngine) (name : String) : Bool :=
  match engine.program with
  | some program => (program.operation? name).isSome
  | none => false

/-- What a program of the engine runs against. -/
def setting (engine : ScriptEngine) (program : Script.Program) (models : ModelStore) :
    Script.Setting where
  program := program
  repository := engine.context.models
  models := models
  delegates := engine.context.delegates
  output := engine.context.output
  warning := engine.context.warning
  error := engine.context.error
  turns := engine.turns

/-- Run a computation of the program, if there is one. -/
def evaluate (body : Script.Setting → Script.Eval Value) :
    Act ScriptEngine (EngineResult Value) := do
  let engine ← get
  match engine.program with
  | none => return .error (.runtime .noProgram)
  | some program =>
      let resources ← getThe Resources
      let setting := engine.setting program resources.models
      let before : Script.Scratch :=
        { frames := engine.context.frames, sinks := resources.sinks,
          objectsMade := resources.objectsMade }
      let (result, after) := (body setting).run.run before
      set { engine with context := { engine.context with frames := after.frames } }
      set { resources with sinks := after.sinks, objectsMade := after.objectsMade }
      return result

def execute : Act ScriptEngine (EngineResult Value) :=
  evaluate Script.Eval.script

/-- Call an operation of the program. -/
def invokeOperation (name : String) (arguments : List Value) :
    Act ScriptEngine (EngineResult Value) :=
  evaluate fun setting => Script.Eval.operation setting name arguments

instance : ScriptModule ScriptEngine where
  parseFile := parseFile
  parseCode := parseCode
  problems := problems
  context := context
  withContext context engine := { engine with context := context }
  ruleTimings _ := none
  execute := execute
  hasOperation := hasOperation
  invokeOperation := invokeOperation

end ScriptEngine
end StagedScript
