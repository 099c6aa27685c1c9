import StagedScript.Executor.Basic

/-!
# Executors of the rule and template languages

Each of these languages has stages of its own module: hooks before and after the main pass, and the
main pass with the language's result. Templates have no hooks.
-/

namespace StagedScript
namespace LanguageExecutor

/-- An executor whose hooks are those of its module. -/
def ofRules [RuleModule μ] (language : Language) (execute : Act μ (EngineResult ρ)) :
    LanguageExecutor μ ρ where
  toExecutorBase := .ofModule language
  preProcess := EngineResult.toScript <$> RuleModule.preProcess
  execute := EngineResult.toScript <$> execute
  postProcess := EngineResult.toScript <$> RuleModule.postProcess

def comparison [ComparisonModule μ] : LanguageExecutor μ MatchTrace :=
  ofRules .ecl ComparisonModule.compare

/-- The executor of the transformation language: what the rules made. -/
def transformation [TransformationModule μ] : LanguageExecutor μ TransformationTrace :=
  ofRules .etl TransformationModule.transform

/-- Merge, and hand out what was compared and what was merged. -/
def mergeTraces [MergingModule μ] : Act μ (EngineResult MergeTraces) := do
  match ← MergingModule.merge with
  | .error fault => return .error fault
  | .ok () =>
      let module ← get
      return .ok ⟨MergingModule.matchTrace module, MergingModule.mergeTrace module⟩

/-- The executor of the merging language: the comparisons and the mergings. -/
def merging [MergingModule μ] : LanguageExecutor μ MergeTraces :=
  ofRules .eml mergeTraces

/-- Validate, and hand out the unsatisfied checks that the module is left with. -/
def unsatisfiedChecks [ValidationModule μ] : Act μ (EngineResult (List Unsatisfied)) := do
  match ← ValidationModule.validate with
  | .error fault => return .error fault
  | .ok _ => return .ok (ValidationModule.unsatisfied (← get))

def validation [ValidationModule μ] : LanguageExecutor μ (List Unsatisfied) :=
  ofRules .evl unsatisfiedChecks

/-- The executor of the generation language: the value that the rules come to. -/
def generation [GenerationModule μ] : LanguageExecutor μ Value :=
  ofRules .egx GenerationModule.generate

/-- The executor of the template language: the text, if there is one. -/
def template [TemplateModule μ] : LanguageExecutor μ (Option String) where
  toExecutorBase := .ofModule .egl
  preProcess := return .ok ()
  execute := EngineResult.toScript <$> TemplateModule.generateText
  postProcess := return .ok ()

end LanguageExecutor

namespace ValidationModule

/-- Every check of a validation module, context by context. -/
def constraints [ValidationModule μ] (module : μ) : List Constraint :=
  (constraintContexts module).flatMap ConstraintContext.constraints

def contextNamed? [ValidationModule μ] (module : μ) (name : String) :
    Option ConstraintContext :=
  (constraintContexts module).find? fun context => context.name = name

end ValidationModule
end StagedScript
