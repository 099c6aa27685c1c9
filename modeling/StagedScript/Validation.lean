import StagedScript.Error
import StagedScript.Log
import StagedScript.Text.Blank
import StagedScript.Value

/-!
# Validation of inputs

The source and the parameters of a run are checked before anything else. Errors refuse the run;
warnings are logged and let it go on.
-/

namespace StagedScript

/-- What is odd about inputs that can be used. -/
inductive InputWarning where
  | bothSources (script : String)
  | blankInName (name : String)
  | other (message : String)
deriving DecidableEq, Repr

namespace InputWarning

def message : InputWarning → String
  | .bothSources script =>
      "Both script " ++ script ++ " and inline code given; the script is used"
  | .blankInName name =>
      "parameter name '" ++ name ++ "' contains whitespace and cannot be referenced from scripts"
  | .other message => message

end InputWarning

structure ValidationReport where
  errors : List InputFault
  warnings : List InputWarning
deriving DecidableEq, Repr

namespace ValidationReport

/-- Nothing found. -/
def empty : ValidationReport :=
  ⟨[], []⟩

def addError (report : ValidationReport) (fault : InputFault) : ValidationReport :=
  { report with errors := report.errors ++ [fault] }

def addWarning (report : ValidationReport) (warning : InputWarning) : ValidationReport :=
  { report with warnings := report.warnings ++ [warning] }

def isValid (report : ValidationReport) : Bool :=
  report.errors.isEmpty

/-- What both reports found. -/
def append (first second : ValidationReport) : ValidationReport :=
  ⟨first.errors ++ second.errors, first.warnings ++ second.warnings⟩

/-- Log the warnings; the result is the warnings, or one error made of all errors. -/
def toResult (report : ValidationReport) : Logged (Except ScriptError (List InputWarning)) :=
  ⟨if report.isValid then .ok report.warnings else .error (.config (.inputs report.errors)),
    report.warnings.map fun warning => ⟨.warn, warning.message⟩⟩

end ValidationReport

/-- Check where a program comes from. -/
def validateSource (source : ExecutionSource) : ValidationReport :=
  match source.script, source.code with
  | none, none => ⟨[.noSource], []⟩
  | some path, some _ => ⟨[], [.bothSources path]⟩
  | some path, none => if path.isEmpty then ⟨[.emptyPath], []⟩ else .empty
  | none, some _ => .empty

/-- Check the name of a parameter. -/
def validateName (name : String) : ValidationReport :=
  if Text.isBlankText name then
    ⟨[.emptyParameterName], []⟩
  else if name.toList.any Text.isBlank then
    ⟨[], [.blankInName name]⟩
  else
    .empty

/-- Check the names of the parameters, in ascending order. -/
def validateParameters (parameters : Parameters) : ValidationReport :=
  let names := parameters.names.mergeSort fun a b => a ≤ b
  names.foldl (fun report name => report.append (validateName name)) .empty

/-- Check what a run was given. -/
def validateInputs (source : ExecutionSource) (parameters : Parameters) : ValidationReport :=
  (validateSource source).append (validateParameters parameters)

end StagedScript
