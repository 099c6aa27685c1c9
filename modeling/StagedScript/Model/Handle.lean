/-!
# Model handles

A model is known by its handle: a number that tells it from every other model, and the settings
that it was built with. Two handles are the same model exactly if their numbers agree, whatever the
models are called.
-/

namespace StagedScript

structure ModelProperties where
  name : String
  aliases : List String
  /-- Write the elements to the model's file when the model is disposed. -/
  storeOnDisposal : Bool
  /-- Read the elements from the model's file when the model is built. -/
  readOnLoad : Bool
  modelPath : Option String
  useCache : Bool
deriving DecidableEq, Repr, Inhabited

namespace ModelProperties

/-- The settings of a model that has a name and is neither read nor stored. -/
def named (name : String) : ModelProperties where
  name := name
  aliases := []
  storeOnDisposal := false
  readOnLoad := false
  modelPath := none
  useCache := false

end ModelProperties

/-- A model: its number and its settings. -/
structure ModelHandle where
  id : Nat
  properties : ModelProperties
deriving DecidableEq, Repr, Inhabited

namespace ModelHandle

/-- The model's own name. -/
def name (model : ModelHandle) : String :=
  model.properties.name

/-- Whether two handles are the same model. -/
def same (model other : ModelHandle) : Bool :=
  model.id = other.id

/-- Whether a model goes by a name, its own or an alias. -/
def answersTo (model : ModelHandle) (name : String) : Bool :=
  model.name = name || model.properties.aliases.contains name

end ModelHandle
end StagedScript
