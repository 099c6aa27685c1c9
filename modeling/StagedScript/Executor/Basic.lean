import StagedScript.Engine.Module
import StagedScript.Error

/-!
# Executors

An executor makes a language engine run in stages. What it does besides the stages is the same for
all languages: it parses, takes models, parameters and delegates, offers the times of rules, lets
go of what it took, and redirects streams. An executor is a record of operations on a state, so
that a statement about every executor is a statement about every such record.
-/

namespace StagedScript

/-- What an executor does besides its stages. -/
structure ExecutorBase (σ : Type) where
  language : σ → Language
  /-- Parse a file; the answer is whether it was accepted. -/
  parseFile : String → Act σ (EngineResult Bool)
  /-- Parse a text; the answer is whether it was accepted. -/
  parseCode : String → Act σ (EngineResult Bool)
  /-- The problems of the last parse. -/
  problems : σ → List Problem
  addModels : List ModelHandle → Act σ Unit
  addParameters : Parameters → Act σ Unit
  addDelegates : List NativeDelegate → Act σ Unit
  /-- The times of rules, from engines that measure them. -/
  ruleTimings : σ → Option (List RuleTiming)
  /-- Dispose the models that were taken. -/
  disposeModels : Act σ Unit
  /-- Let go of the models that were taken. -/
  clearModels : Act σ Unit
  /-- Forget parameters and delegates. -/
  dispose : Act σ Unit
  /-- Send a channel to another stream. -/
  redirect : Channel → Stream → Act σ Unit

/-- An executor with a state in `σ` and results in `ρ`. -/
structure LanguageExecutor (σ ρ : Type) extends ExecutorBase σ where
  preProcess : Act σ (Except ScriptError Unit)
  execute : Act σ (Except ScriptError ρ)
  postProcess : Act σ (Except ScriptError Unit)

namespace ExecutorBase

/-- Parse a source, a file or the text itself. -/
def parse (base : ExecutorBase σ) : ResolvedSource → Act σ (EngineResult Bool)
  | .script path => base.parseFile path
  | .code text => base.parseCode text

/-- The executor of a module of a language, without its stages. -/
def ofModule [EngineModule μ] (language : Language) : ExecutorBase μ where
  language _ := language
  parseFile := EngineModule.parseFile
  parseCode := EngineModule.parseCode
  problems := EngineModule.problems
  addModels models := EngineModule.modifyContext fun context => context.addModels models
  addParameters parameters :=
    EngineModule.modifyContext fun context => context.addParameters parameters
  addDelegates delegates :=
    EngineModule.modifyContext fun context => context.addDelegates delegates
  ruleTimings := EngineModule.ruleTimings
  disposeModels := do
    StateT.lift (Repository.disposeAll (EngineModule.context (← get)).models)
    EngineModule.modifyContext fun context => { context with models := [] }
  clearModels := EngineModule.modifyContext fun context => { context with models := [] }
  dispose := EngineModule.modifyContext Context.dispose
  redirect channel stream :=
    EngineModule.modifyContext fun context => context.redirect channel stream

end ExecutorBase

/-- The result of an engine operation as that of an executor. -/
def EngineResult.toScript : EngineResult α → Except ScriptError α
  | .ok result => .ok result
  | .error fault => .error (.engine fault)

namespace LanguageExecutor

/-- An executor that only parses and takes inputs: its stages are not supported. -/
def adapter [EngineModule μ] (language : Language) : LanguageExecutor μ Value where
  toExecutorBase := .ofModule language
  preProcess := return .error (.unsupported (.stage .preProcess language))
  execute := return .error (.unsupported (.stage .execute language))
  postProcess := return .error (.unsupported (.stage .postProcess language))

end LanguageExecutor
end StagedScript
