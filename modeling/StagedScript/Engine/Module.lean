import StagedScript.Context
import StagedScript.Profile.RuleTimer
import StagedScript.Resources
import StagedScript.Trace

/-!
# Engine modules

An engine module parses programs of a language and runs them against its context. Each language
adds its own way of running to what all modules offer. An engine fault is a value of the result, so
that what the module changed before the fault stays.
-/

namespace StagedScript

abbrev EngineResult :=
  Except EngineError

class EngineModule (μ : Type) where
  /-- Parse a file; the answer is whether it was accepted. -/
  parseFile : String → Act μ (EngineResult Bool)
  /-- Parse a text; the answer is whether it was accepted. -/
  parseCode : String → Act μ (EngineResult Bool)
  /-- The problems of the last parse. -/
  problems : μ → List Problem
  context : μ → Context
  withContext : Context → μ → μ
  /-- The times of rules, from modules that measure them. -/
  ruleTimings : μ → Option (List RuleTiming)

namespace EngineModule

def modifyContext [EngineModule μ] (change : Context → Context) : Act μ Unit :=
  modify fun module => withContext (change (context module)) module

end EngineModule

/-- Modules whose rules have hooks before and after their main pass. -/
class RuleModule (μ : Type) extends EngineModule μ where
  preProcess : Act μ (EngineResult Unit)
  postProcess : Act μ (EngineResult Unit)

/-- Modules of the expression language: a program, or one of its operations. -/
class ScriptModule (μ : Type) extends EngineModule μ where
  execute : Act μ (EngineResult Value)
  hasOperation : μ → String → Bool
  invokeOperation : String → List Value → Act μ (EngineResult Value)

class ComparisonModule (μ : Type) extends RuleModule μ where
  compare : Act μ (EngineResult MatchTrace)

class TransformationModule (μ : Type) extends RuleModule μ where
  transform : Act μ (EngineResult TransformationTrace)

class MergingModule (μ : Type) extends RuleModule μ where
  merge : Act μ (EngineResult Unit)
  matchTrace : μ → MatchTrace
  mergeTrace : μ → MergeTrace

class ValidationModule (μ : Type) extends RuleModule μ where
  validate : Act μ (EngineResult (List Unsatisfied))
  constraintContexts : μ → List ConstraintContext
  unsatisfied : μ → List Unsatisfied

class TemplateModule (μ : Type) extends EngineModule μ where
  generateText : Act μ (EngineResult (Option String))

class GenerationModule (μ : Type) extends RuleModule μ where
  generate : Act μ (EngineResult Value)

end StagedScript
