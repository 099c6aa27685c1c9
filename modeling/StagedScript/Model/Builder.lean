import StagedScript.Json.Reader
import StagedScript.Resources
import StagedScript.Text.Blank

/-!
# Building models

A builder makes a model from its settings. The one that comes with the library makes models of JSON
elements and reads them from a file when asked to. A registry knows builders by kind.
-/

namespace StagedScript

/-- A model that is not yet in a store. -/
structure ModelDraft where
  properties : ModelProperties
  contents : ModelContents

/-- A maker of models from their settings and the files at hand. -/
abbrev ModelFactory :=
  ModelProperties → FileTree → Except EngineError ModelDraft

namespace ModelProperties

def readElements (path : String) (files : FileTree) : Except EngineError (List Json) :=
  match files.readText path with
  | .error cause => .error (.io path cause)
  | .ok text =>
      match Json.parse? text with
      | some (.array items) => .ok items
      | _ => .error (.model (.malformedFile path))

/-- A model of JSON elements: none, or those of its file if it is read on load. It needs a name. -/
def build : ModelFactory := fun properties files =>
  if Text.isBlankText properties.name then
    .error (.model .noName)
  else
    match properties.modelPath, properties.readOnLoad with
    | some path, true => do
        let items ← readElements path files
        .ok ⟨properties, .elements items⟩
    | none, true => .error (.model (.noPath properties.name))
    | _, false => .ok ⟨properties, .elements []⟩

/-- The names of the fields of a record of settings, in the order of an array of them. -/
def fieldNames : List String :=
  ["name", "aliases", "store_on_disposal", "read_on_load", "model_path", "use_cache"]

/-- A field of a record of settings that may be left out. -/
def optionalField (fields : Json.Fields) (key : String) (missing : α)
    (read? : Json → Option α) : Option α :=
  match fields.get? key with
  | none => some missing
  | some json => read? json

def path? : Json → Option (Option String)
  | .null => some none
  | .text path => some (some path)
  | _ => none

/-- The settings in the fields of a record; only the name is required. -/
def ofFields? (fields : Json.Fields) : Option ModelProperties := do
  let name ← (← fields.get? "name").text?
  let aliases ← optionalField fields "aliases" [] Json.texts?
  let storeOnDisposal ← optionalField fields "store_on_disposal" false Json.boolean?
  let readOnLoad ← optionalField fields "read_on_load" false Json.boolean?
  let modelPath ← optionalField fields "model_path" none path?
  let useCache ← optionalField fields "use_cache" false Json.boolean?
  some
    { name := name, aliases := aliases, storeOnDisposal := storeOnDisposal,
      readOnLoad := readOnLoad, modelPath := modelPath, useCache := useCache }

/-- The settings in a JSON record, or in an array of its fields in order. -/
def ofJson? : Json → Option ModelProperties
  | .object fields => ofFields? fields
  | .array items =>
      if fieldNames.length < items.length then none else ofFields? (fieldNames.zip items)
  | _ => none

/-- The settings as a JSON record. -/
def toJson (properties : ModelProperties) : Json :=
  .object
    [("name", .text properties.name),
     ("aliases", .array (properties.aliases.map .text)),
     ("store_on_disposal", .boolean properties.storeOnDisposal),
     ("read_on_load", .boolean properties.readOnLoad),
     ("model_path", (properties.modelPath.map Json.text).getD .null),
     ("use_cache", .boolean properties.useCache)]

end ModelProperties

/-- Builders by kind, each kind once. -/
structure BuilderRegistry where
  factories : List (String × ModelFactory)

namespace BuilderRegistry

def empty : BuilderRegistry :=
  ⟨[]⟩

def register (registry : BuilderRegistry) (kind : String) (factory : ModelFactory) :
    BuilderRegistry :=
  ⟨registry.factories.filter (fun entry => entry.1 ≠ kind) ++ [(kind, factory)]⟩

/-- The builder of JSON models under the kind `json`. -/
def withDefaults : BuilderRegistry :=
  empty.register "json" ModelProperties.build

/-- The kinds in ascending order. -/
def kinds (registry : BuilderRegistry) : List String :=
  (registry.factories.map Prod.fst).mergeSort fun a b => a ≤ b

def build (registry : BuilderRegistry) (kind : String) : ModelFactory :=
  fun properties files =>
    match List.lookup kind registry.factories with
    | some factory => factory properties files
    | none => .error (.model (.noBuilder kind))

def render (registry : BuilderRegistry) : String :=
  "ModelBuilderRegistry \x7b kinds: [" ++
    ", ".intercalate (registry.kinds.map Text.quoted) ++ "] \x7d"

end BuilderRegistry
end StagedScript
