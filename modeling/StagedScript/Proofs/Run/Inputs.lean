import StagedScript.Proofs.Run.Parameters
import StagedScript.Validation

/-!
# What accepted inputs cover

Validation looks at the two forms of a source and at the names of the parameters. It does not look
at the path of a script that has code beside it, although the script is what is parsed then; and it
does not look at the names of bindings that the caller made, although these are what they are bound
under. Nothing else escapes it.

**Results.** When inputs are accepted (`validateInputs_errors_eq_nil_iff`). Of accepted inputs, an
empty path is parsed only if code was given beside it, and under a blank name nothing is bound but
bindings that the caller made (`ExecutorBase.accepted_inputs_cover`).
-/

namespace StagedScript

theorem validateSource_errors_eq_nil_iff {source : ExecutionSource} :
    (validateSource source).errors = [] ↔
      source.resolve? ≠ none ∧ (source.code = none → source.script ≠ some "") := by
  obtain ⟨script, code⟩ := source
  cases script with
  | none => cases code <;> simp [validateSource, ExecutionSource.resolve?, ValidationReport.empty]
  | some path =>
      cases code with
      | some text => simp [validateSource, ExecutionSource.resolve?]
      | none =>
          by_cases empty : path = "" <;>
            simp [validateSource, ExecutionSource.resolve?, ValidationReport.empty, empty]

theorem validateName_errors_eq_nil_iff {name : String} :
    (validateName name).errors = [] ↔ Text.isBlankText name = false := by
  unfold validateName
  cases Text.isBlankText name with
  | true => simp
  | false =>
      simp only [Bool.false_eq_true, if_false, iff_true]
      split <;> rfl

/-- The errors of several names are found one after the other. -/
theorem errors_foldl_validateName (names : List String) :
    ∀ report : ValidationReport,
      (names.foldl (fun report name => report.append (validateName name)) report).errors =
        report.errors ++ names.flatMap fun name => (validateName name).errors := by
  induction names with
  | nil => simp
  | cons name names ih =>
      intro report
      rw [List.foldl_cons, ih, List.flatMap_cons, ← List.append_assoc]
      rfl

theorem validateParameters_errors_eq_nil_iff {parameters : Parameters} :
    (validateParameters parameters).errors = [] ↔
      ∀ name ∈ parameters.names, Text.isBlankText name = false := by
  unfold validateParameters
  rw [errors_foldl_validateName]
  simp [ValidationReport.empty, validateName_errors_eq_nil_iff]

/-- Inputs are accepted if there is something to parse, which is not an empty path without code, and
no parameter has a blank name. -/
theorem validateInputs_errors_eq_nil_iff {source : ExecutionSource} {parameters : Parameters} :
    (validateInputs source parameters).errors = [] ↔
      (source.resolve? ≠ none ∧ (source.code = none → source.script ≠ some "")) ∧
        ∀ name ∈ parameters.names, Text.isBlankText name = false := by
  rw [← validateSource_errors_eq_nil_iff, ← validateParameters_errors_eq_nil_iff]
  exact List.append_eq_nil_iff

theorem ExecutionSource.resolve?_eq_script_iff {source : ExecutionSource} {path : String} :
    source.resolve? = some (.script path) ↔ source.script = some path := by
  obtain ⟨script, code⟩ := source
  cases script <;> cases code <;> simp [resolve?]

namespace Parameters

/-- The bindings that the caller made, in the order of the parameters. -/
def bindings (parameters : Parameters) : List Variable :=
  parameters.filterMap fun entry =>
    match entry.2 with
    | .bare _ => none
    | .binding bound => some bound

/-- Where no parameter has a name, only bindings that the caller made are bound under it. -/
theorem last?_eq_of_not_named {parameters : Parameters} {name : String}
    (other : ∀ key ∈ parameters.names, key ≠ name) :
    parameters.last? name = parameters.bindings.reverse.find? fun v => v.name = name := by
  unfold last? toVariables bindings
  rw [← List.map_reverse, ← List.filterMap_reverse]
  have others : ∀ entry ∈ parameters.reverse, entry.1 ≠ name := fun entry member =>
    other entry.1 (List.mem_map_of_mem (List.mem_reverse.1 member))
  generalize parameters.reverse = entries at others
  induction entries with
  | nil => rfl
  | cons entry entries ih =>
      have rest := ih fun later member => others later (List.mem_cons_of_mem _ member)
      obtain ⟨key, parameter⟩ := entry
      cases parameter with
      | bare value =>
          have isOther : key ≠ name := others (key, .bare value) List.mem_cons_self
          simpa [Parameter.toVariable, Variable.constant, isOther] using rest
      | binding bound =>
          rw [List.map_cons, List.filterMap_cons, List.find?_cons, List.find?_cons, rest]
          rfl

end Parameters

namespace ExecutorBase

variable {μ : Type} [EngineModule μ] [LawfulEngineModule μ]

/-- Accepted inputs have something to parse, and it is a script with an empty path exactly if code
was given beside that path; under a blank name, a module that is handed the parameters has the last
binding of that name that the caller made, or what it had before. -/
theorem accepted_inputs_cover (language : Language) (source : ExecutionSource)
    (parameters : Parameters) (state : μ × Resources)
    (accepted : (validateInputs source parameters).errors = []) :
    (source.resolve? ≠ none ∧
      (source.resolve? = some (.script "") ↔ source.script = some "" ∧ source.code ≠ none)) ∧
    ∀ name, Text.isBlankText name = true →
      (ofModule language).globalsAfter parameters state name =
        (parameters.bindings.reverse.find? fun v => v.name = name).or
          ((EngineModule.context state.1).frames.global? name) := by
  obtain ⟨⟨given, notEmpty⟩, named⟩ := validateInputs_errors_eq_nil_iff.1 accepted
  refine ⟨⟨given, ?_⟩, fun name blank => ?_⟩
  · rw [ExecutionSource.resolve?_eq_script_iff]
    exact ⟨fun script => ⟨script, fun noCode => notEmpty noCode script⟩, And.left⟩
  · have other : ∀ key ∈ parameters.names, key ≠ name := by
      rintro key member rfl
      exact Bool.false_ne_true ((named key member).symm.trans blank)
    rw [globalsAfter_ofModule, Parameters.last?_eq_of_not_named other]

/-- A script with code beside it, a bare value and a binding that the caller made. -/
theorem accepted_inputs_cover_script :
    let source : ExecutionSource := ⟨some "main", some "return 1;"⟩
    let parameters : Parameters :=
      [("limit", .bare (.integer 3)), ("b", .binding (.mutable "x" (.integer 1)))]
    (validateInputs source parameters).errors = [] ∧
      source.resolve? ≠ some (.script "") ∧
      ∀ name, Text.isBlankText name = true →
        (ofModule .eol).globalsAfter parameters (ScriptEngine.new 8, Resources.initial) name =
          none := by
  intro source parameters
  have accepted : (validateInputs source parameters).errors = [] := by
    rw [validateInputs_errors_eq_nil_iff]
    exact ⟨by decide, by decide⟩
  obtain ⟨⟨-, resolved⟩, blanks⟩ := accepted_inputs_cover .eol source parameters
    (ScriptEngine.new 8, Resources.initial) accepted
  refine ⟨accepted, fun empty => absurd (resolved.1 empty).1 (by decide), ?_⟩
  intro name blank
  have other : "x" ≠ name := by
    rintro rfl
    exact absurd blank (by decide)
  rw [blanks name blank]
  simp [parameters, Parameters.bindings, Variable.mutable, other]
  rfl

/-- Inputs are accepted whose script has an empty path and whose parameter binds a blank name. -/
theorem accepted_inputs_uncovered :
    let source : ExecutionSource := ⟨some "", some "return 1;"⟩
    let parameters : Parameters := [("p", .binding (.mutable " " .null))]
    (validateInputs source parameters).errors = [] ∧
      source.resolve? = some (.script "") ∧
      Text.isBlankText " " = true ∧
      (ofModule .eol).globalsAfter parameters (ScriptEngine.new 8, Resources.initial) " " =
        some (.mutable " " .null) := by
  intro source parameters
  refine ⟨?_, rfl, by decide, rfl⟩
  rw [validateInputs_errors_eq_nil_iff]
  exact ⟨by decide, by decide⟩

end ExecutorBase
end StagedScript
