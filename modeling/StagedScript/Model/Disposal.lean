import StagedScript.Json.Writer
import StagedScript.Resources

/-!
# Disposal of models

A model is disposed at most once. On its first disposal it is written to its file, if it asks for
that and has one; a failure to write leaves the model disposed and is only warned of.
-/

namespace StagedScript
namespace ModelHandle

/-- The text of a model's file: its elements as a JSON array. -/
def storedText (items : List Json) : String :=
  Json.pretty (.array items)

/-- The file and the text that a model is stored to, if it is to be stored. -/
def storage? (model : ModelHandle) (contents : ModelContents) : Option (String × String) :=
  match contents, model.properties.modelPath with
  | .elements items, some path =>
      if model.properties.storeOnDisposal then some (path, storedText items) else none
  | _, _ => none

/-- Write a model to its file, if it is to be stored. -/
def store (model : ModelHandle) (contents : ModelContents) : Shared Unit := do
  match model.storage? contents with
  | none => return
  | some (path, text) =>
      match (← get).files.write path text.toUTF8 with
      | .ok files => modify fun resources => { resources with files := files }
      | .error cause =>
          Shared.log .warn
            ("Failed to store model " ++ model.name ++ " on disposal: " ++
              (EngineError.io path cause).message)

/-- Dispose a model; nothing happens if it was disposed before. -/
def dispose (model : ModelHandle) : Shared Unit := do
  let state := (← get).models.get model
  if state.disposed then
    return
  else
    modify fun resources =>
      { resources with models := resources.models.set model { state with disposed := true } }
    model.store state.contents

end ModelHandle
end StagedScript
