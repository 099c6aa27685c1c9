import StagedScript.Engine.Canned
import StagedScript.Executor.Script
import StagedScript.Engine.Script
import StagedScript.Proofs.Run.Effects

/-!
# Contexts of engine modules

An executor reaches the context of its module through two operations, one that looks at it and one
that replaces it. A module is lawful if it has one context and nothing else changes with it. The
modules here are, and so is a runner over a lawful module.
-/

namespace StagedScript

/-- Modules that have one context, which can be replaced apart from everything else. -/
class LawfulEngineModule (μ : Type) [EngineModule μ] : Prop where
  context_withContext : ∀ context (module : μ),
    EngineModule.context (EngineModule.withContext context module) = context
  withContext_withContext : ∀ context earlier (module : μ),
    EngineModule.withContext context (EngineModule.withContext earlier module) =
      EngineModule.withContext context module
  withContext_context : ∀ module : μ,
    EngineModule.withContext (EngineModule.context module) module = module

instance : LawfulEngineModule ScriptEngine where
  context_withContext _ _ := rfl
  withContext_withContext _ _ _ := rfl
  withContext_context _ := rfl

instance : LawfulEngineModule CannedModule where
  context_withContext _ _ := rfl
  withContext_withContext _ _ _ := rfl
  withContext_context _ := rfl

instance {μ : Type} [EngineModule μ] [LawfulEngineModule μ] :
    LawfulEngineModule (ScriptRunner μ) where
  context_withContext context runner :=
    LawfulEngineModule.context_withContext context runner.module
  withContext_withContext context earlier runner :=
    congrArg (ScriptRunner.mk · runner.mode)
      (LawfulEngineModule.withContext_withContext context earlier runner.module)
  withContext_context runner :=
    congrArg (ScriptRunner.mk · runner.mode)
      (LawfulEngineModule.withContext_context runner.module)

end StagedScript
