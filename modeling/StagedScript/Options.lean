import StagedScript.Error
import StagedScript.Files.Tree
import StagedScript.Json.Reader

/-!
# Options of a run

Two switches, with their text form as JSON: an object in which each may be missing, or an array of
at most both in order. Fields that are not known are skipped, whatever well-formed JSON they hold;
a known field stands at most once.
-/

namespace StagedScript

structure ExecutionOptions where
  /-- Dispose the models when the run is disposed, in place of only letting go of them. -/
  disposeModels : Bool
  /-- Record how long stages and rules take. -/
  profileExecution : Bool
deriving DecidableEq, Repr, Inhabited

namespace ExecutionOptions

/-- Models are disposed, and nothing is recorded. -/
def default : ExecutionOptions :=
  ⟨true, false⟩

def profiled : ExecutionOptions :=
  { default with profileExecution := true }

/-- The options as a JSON record. -/
def toJson (options : ExecutionOptions) : Json :=
  .object
    [("dispose_models", .boolean options.disposeModels),
      ("profile_execution", .boolean options.profileExecution)]

/-- What a field of an options object sets. -/
inductive Setting where
  | disposeModels (value : Bool)
  | profileExecution (value : Bool)
  | unknown
deriving DecidableEq

/-- Read the value of a field of an options object. -/
def readSetting (rules : Json.Rules) (key : String) : Json.Reader Setting :=
  fun input =>
    if key = "dispose_models" then
      (Json.readBoolean input).map fun (value, rest) => (.disposeModels value, rest)
    else if key = "profile_execution" then
      (Json.readBoolean input).map fun (value, rest) => (.profileExecution value, rest)
    else
      (Json.readValue rules.skipping input).map fun (_, rest) => (.unknown, rest)

/-- The values that the settings give to one of the fields. -/
def valuesOf (field : Setting → Option Bool) (settings : List Setting) : List Bool :=
  settings.filterMap field

/-- The value of a field that is given at most once. -/
def single? (missing : Bool) : List Bool → Option Bool
  | [] => some missing
  | [value] => some value
  | _ => none

def ofSettings? (settings : List Setting) : Option ExecutionOptions := do
  let dispose := valuesOf (fun | .disposeModels value => some value | _ => none) settings
  let profile := valuesOf (fun | .profileExecution value => some value | _ => none) settings
  some ⟨← single? default.disposeModels dispose, ← single? default.profileExecution profile⟩

def ofValues? : List Bool → Option ExecutionOptions
  | [] => some default
  | [dispose] => some { default with disposeModels := dispose }
  | [dispose, profile] => some ⟨dispose, profile⟩
  | _ => none

def read (rules : Json.Rules) : Json.Reader ExecutionOptions :=
  fun input =>
    let turns := rules.turns + 1
    match Json.skipGap input with
    | '\x7b' :: rest => do
        let field := Json.readField rules (readSetting rules)
        let (pairs, rest) ← Json.readItems '\x7d' field turns true rest
        some (← ofSettings? (pairs.map Prod.snd), rest)
    | '[' :: rest => do
        let (values, rest) ← Json.readItems ']' Json.readBoolean turns true rest
        some (← ofValues? values, rest)
    | _ => none

/-- The options of a JSON text. -/
def ofText (text : String) : Except ScriptError ExecutionOptions :=
  let chars := text.toList
  match Json.readWhole (read (Json.Rules.strict chars)) chars with
  | some options => .ok options
  | none => .error (.config .malformedOptions)

/-- The options of a JSON file. -/
def ofFile (files : FileTree) (path : String) : Except ScriptError ExecutionOptions :=
  match files.readText path with
  | .ok text => ofText text
  | .error cause => .error (.config (.unreadableOptions cause))

/-- The options of the file in the working directory that holds them by custom. -/
def load (files : FileTree) : Except ScriptError ExecutionOptions :=
  if files.holds ConfigFault.optionsFileName then
    ofFile files ConfigFault.optionsFileName
  else
    .error (.config .noOptionsFile)

end ExecutionOptions
end StagedScript
