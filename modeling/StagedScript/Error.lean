import StagedScript.Files.Error
import StagedScript.Language.Basic
import StagedScript.Problem
import StagedScript.Run.Lifecycle

/-!
# Errors

An error says why something failed. Engine errors arise where a program is parsed, run or fed with
models; script errors arise in a run as a whole and say, with an engine error as their cause, which
part of the run failed. The words of every error stand in one function per type.
-/

namespace StagedScript

/-- What stands for the reason why a text is not the JSON that is wanted. -/
def Json.malformed : String :=
  "<json error>"

/-- Why a program cannot go on. -/
inductive RuntimeFault where
  | noProgram
  | undefinedOperation (name : String)
  | undefinedVariable (name : String)
  | readOnlyVariable (name : String)
  | argumentCount (operation : String) (expected given : Nat)
  | callDepth (operation : String)
  | conditionType (type : String)
  | overflow
  | divisionByZero
  | operandType (operator type : String)
  | textOperator (operator : String)
  | operandTypes (operator left right : String)
  | numberOperator (operator : String)
  | sizeType (type : String)
  | sizeArity
  | contentsArguments
  | nativeName
  | unknownNative (type : String)
  | refusedNative (type : String)
  | writeFailed (cause : IoError)
  | lostOutcome
  | other (message : String)
deriving DecidableEq, Repr

namespace RuntimeFault

def message : RuntimeFault → String
  | .noProgram => "No program has been parsed"
  | .undefinedOperation name => "Undefined operation " ++ name
  | .undefinedVariable name => "Undefined variable " ++ name
  | .readOnlyVariable name => "Cannot assign to read-only variable " ++ name
  | .argumentCount operation expected given =>
      "Operation " ++ operation ++ " expects " ++ toString expected ++
        " argument(s) but got " ++ toString given
  | .callDepth operation => "Call depth exceeded in operation " ++ operation
  | .conditionType type => "Condition must be Boolean, got " ++ type
  | .overflow => "Integer overflow"
  | .divisionByZero => "Division by zero"
  | .operandType operator type => "Operator " ++ operator ++ " not defined for " ++ type
  | .textOperator operator => "Operator " ++ operator ++ " not defined for String"
  | .operandTypes operator left right =>
      "Operator " ++ operator ++ " not defined for " ++ left ++ " and " ++ right
  | .numberOperator operator => "Operator " ++ operator ++ " not numeric"
  | .sizeType type => "size() not defined for " ++ type
  | .sizeArity => "size() takes one argument"
  | .contentsArguments => "contents() takes one model"
  | .nativeName => "native() takes a type name first"
  | .unknownNative type => "Unknown native type " ++ type
  | .refusedNative type => "Could not create native " ++ type
  | .writeFailed cause => "Failed to write output: " ++ cause.message
  | .lostOutcome => "run thread ended without delivering an outcome"
  | .other message => message

end RuntimeFault

/-- Why a model cannot be built. -/
inductive ModelFault where
  | noName
  | noPath (model : String)
  | malformedFile (path : String)
  | noBuilder (kind : String)
  | other (message : String)
deriving DecidableEq, Repr

namespace ModelFault

def message : ModelFault → String
  | .noName => "model builder requires a name"
  | .noPath model => "model " ++ model ++ " is read on load but has no path"
  | .malformedFile path => "Failed to parse model JSON " ++ path ++ ": " ++ Json.malformed
  | .noBuilder kind => "no model builder registered for " ++ kind
  | .other message => message

end ModelFault

/-- A fault of a language engine. -/
inductive EngineError where
  | io (path : String) (cause : IoError)
  | runtime (fault : RuntimeFault)
  | model (fault : ModelFault)
  /-- A loop did not end within the turns it was allowed. -/
  | unfinished
deriving DecidableEq, Repr

namespace EngineError

def message : EngineError → String
  | .io path cause => "could not read source " ++ path ++ ": " ++ cause.message
  | .runtime fault => fault.message
  | .model fault => "Model error: " ++ fault.message
  | .unfinished => "the program did not end within its turns"

/-- The messages of what caused the error, outermost first. -/
def causes : EngineError → List String
  | .io _ cause => [cause.message]
  | _ => []

end EngineError

/-- Why the inputs of a run are refused. -/
inductive InputFault where
  | noSource
  | emptyPath
  | emptyParameterName
  | other (message : String)
deriving DecidableEq, Repr

namespace InputFault

def message : InputFault → String
  | .noSource => "No script or code to execute"
  | .emptyPath => "script path cannot be empty"
  | .emptyParameterName => "parameter name cannot be empty"
  | .other message => message

end InputFault

/-- Why a configuration is refused. -/
inductive ConfigFault where
  | inputs (faults : List InputFault)
  | cannotRun (run : String) (state : LifecycleState)
  | malformedOptions
  | unreadableOptions (cause : IoError)
  | noOptionsFile
  | unsupportedLanguage (name : String)
  | noExtension (path : String)
  | other (message : String)
deriving DecidableEq, Repr

namespace ConfigFault

/-- The name of the options file that is looked for in the working directory. -/
def optionsFileName : String :=
  "scriptbox.json"

def message : ConfigFault → String
  | .inputs faults => "; ".intercalate (faults.map InputFault.message)
  | .cannotRun run state => "controller " ++ run ++ " cannot run from state " ++ state.name
  | .malformedOptions => "Failed to parse options JSON: " ++ Json.malformed
  | .unreadableOptions cause => "Failed to read options file: " ++ cause.message
  | .noOptionsFile => optionsFileName ++ " not found in current directory"
  | .unsupportedLanguage name => "unsupported language: " ++ name
  | .noExtension path => "cannot infer language of " ++ path ++ ": no extension"
  | .other message => message

end ConfigFault

/-- Why an executor cannot run in its mode. -/
inductive ModeFault where
  | noOperationName
  | undeclaredOperation (name : String)
  | other (message : String)
deriving DecidableEq, Repr

namespace ModeFault

def message : ModeFault → String
  | .noOperationName =>
      "Can not invoke executor in OPERATION mode without an operation name assigned."
  | .undeclaredOperation name =>
      "No operation named " ++ name ++ " is declared in the program."
  | .other message => message

end ModeFault

/-- Why an executor does not support what was asked of it. -/
inductive UnsupportedFault where
  | stage (stage : Stage) (language : Language)
  | other (message : String)
deriving DecidableEq, Repr

namespace UnsupportedFault

def message : UnsupportedFault → String
  | .stage missing language =>
      missing.name ++ " is not implemented by the generic " ++ language.name ++ " module adapter"
  | .other message => message

end UnsupportedFault

/-- Why a run failed. -/
inductive ScriptError where
  | config (fault : ConfigFault)
  | parse (culprit : SourceKind) (summary : String) (problems : List Problem)
      (cause : Option EngineError)
  | execution (message : String) (cause : EngineError)
  | stage (stage : Stage) (cause : EngineError)
  | unsupported (fault : UnsupportedFault)
  | invalidMode (fault : ModeFault)
  | engine (cause : EngineError)
  | io (cause : IoError)
deriving DecidableEq, Repr

namespace ScriptError

def message : ScriptError → String
  | .config fault => "Configuration error: " ++ fault.message
  | .parse culprit summary _ _ => "Failed to parse provided " ++ culprit.name ++ ": " ++ summary
  | .execution message cause => message ++ ": " ++ cause.message
  | .stage entered cause => entered.name ++ " failed: " ++ cause.message
  | .unsupported fault => "Unsupported operation: " ++ fault.message
  | .invalidMode fault => "Invalid mode: " ++ fault.message
  | .engine cause => cause.message
  | .io cause => "IO error: " ++ cause.message

def cause? : ScriptError → Option EngineError
  | .parse _ _ _ cause => cause
  | .execution _ cause => some cause
  | .stage _ cause => some cause
  | .engine cause => some cause
  | _ => none

/-- The messages of what caused the error, outermost first. An engine error that was passed on as
it is shows its own causes only. -/
def causes : ScriptError → List String
  | .parse _ _ _ (some cause) => cause.message :: cause.causes
  | .execution _ cause => cause.message :: cause.causes
  | .stage _ cause => cause.message :: cause.causes
  | .engine cause => cause.causes
  | .io cause => [cause.message]
  | _ => []

def problems : ScriptError → List Problem
  | .parse _ _ problems _ => problems
  | _ => []

/-- Whether a configuration was refused. -/
def isConfig : ScriptError → Bool
  | .config _ => true
  | _ => false

/-- Whether a source could not be parsed. -/
def isParse : ScriptError → Bool
  | .parse .. => true
  | _ => false

/-- Whether the program failed when it was executed. -/
def isExecution : ScriptError → Bool
  | .execution .. => true
  | _ => false

end ScriptError
end StagedScript
