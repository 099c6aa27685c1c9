import StagedScript.Error
import StagedScript.Json.Record

/-!
# Records of errors

Errors as JSON records with their kind, their message and what caused them, and errors that are
made from records.
-/

namespace StagedScript

namespace Problem

/-- The problem of a record; it is an error if nothing else is said. -/
def ofJson (json : Json) : Problem where
  position := ⟨json.naturalAt "line", json.naturalAt "column"⟩
  reason := json.textAt "reason"
  severity := if json.textAt "severity" = Severity.warning.name then .warning else .error

end Problem

namespace IoError

/-- The error of a record: one of the operating system by its number, or a text. -/
def ofJson (json : Json) : IoError :=
  match json.naturalAt "os" with
  | 2 => .notFound
  | 13 => .permissionDenied
  | 20 => .notADirectory
  | 21 => .isADirectory
  | 28 => .noSpace
  | 36 => .nameTooLong
  | _ => .other (json.textAt "text")

end IoError

namespace EngineError

def kind : EngineError → String
  | .io _ _ => "Io"
  | .runtime _ => "Runtime"
  | .model _ => "Model"
  | .unfinished => "Unfinished"

def toJson (error : EngineError) : Json :=
  .object [("error", .text error.kind), ("message", .text error.message)]

def ofJson (json : Json) : EngineError :=
  match json.textAt "kind" with
  | "Io" => .io (json.textAt "path") (.ofJson json)
  | "Model" => .model (.other (json.textAt "message"))
  | _ => .runtime (.other (json.textAt "message"))

end EngineError

namespace ScriptError

def kind : ScriptError → String
  | .config _ => "Config"
  | .parse .. => "Parse"
  | .execution .. => "Execution"
  | .stage .. => "Stage"
  | .unsupported _ => "Unsupported"
  | .invalidMode _ => "InvalidMode"
  | .engine _ => "Engine"
  | .io _ => "Io"

/-- The fields that only some kinds of errors have. -/
def ownFields : ScriptError → Json.Fields
  | .parse culprit summary _ _ => [("culprit", .text culprit.name), ("summary", .text summary)]
  | .stage entered _ => [("stage", .text entered.name)]
  | _ => []

/-- A field with an array that is left out if the array is empty. -/
def itemsField (key : String) (items : List Json) : Json.Fields :=
  if items.isEmpty then [] else [(key, .array items)]

def fields (error : ScriptError) : Json.Fields :=
  [("error", .text error.kind), ("message", .text error.message)] ++
    itemsField "problems" (error.problems.map Problem.toJson) ++
    itemsField "chain" (error.causes.map .text) ++
    error.ownFields ++
    (error.cause?.map fun cause => ("cause", .text cause.kind)).toList

def toJson (error : ScriptError) : Json :=
  .object error.fields

def ofJson (json : Json) : ScriptError :=
  let message := json.textAt "message"
  let cause := EngineError.ofJson (json.member "source")
  match json.textAt "kind" with
  | "Unsupported" => .unsupported (.other message)
  | "InvalidMode" => .invalidMode (.other message)
  | "Execution" => .execution message cause
  | "Stage" => .stage ((Stage.ofName? (json.textAt "stage")).getD .prepareExecution) cause
  | "Parse" =>
      .parse (if json.textAt "culprit" = SourceKind.script.name then .script else .code)
        (json.textAt "summary") ((json.itemsAt "problems").map Problem.ofJson)
        (if json.holds "source" then some cause else none)
  | "Engine" => .engine cause
  | "Io" => .io (.ofJson json)
  | _ => .config (.other message)

end ScriptError
end StagedScript
