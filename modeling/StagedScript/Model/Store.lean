import StagedScript.Model.Handle
import StagedScript.Value

/-!
# The contents of models

A store keeps, for every model, its top-level elements and whether it was disposed. Most models
hold JSON elements; a host may also supply a model with fixed values.
-/

namespace StagedScript

/-- The top-level elements of a model. -/
inductive ModelContents where
  | elements (items : List Json)
  | fixed (values : List Value)
deriving Inhabited

namespace ModelContents

/-- The elements as scripts see them. -/
def values : ModelContents → List Value
  | .elements items => items.map Value.ofJson
  | .fixed values => values

def size : ModelContents → Nat
  | .elements items => items.length
  | .fixed values => values.length

/-- Add a JSON element at the end; fixed values stay as they are. -/
def push (contents : ModelContents) (element : Json) : ModelContents :=
  match contents with
  | .elements items => .elements (items ++ [element])
  | .fixed values => .fixed values

end ModelContents

structure ModelState where
  contents : ModelContents
  disposed : Bool
deriving Inhabited

structure ModelStore where
  all : List ModelState

namespace ModelStore

def empty : ModelStore :=
  ⟨[]⟩

/-- The state of a model; a number that is not in use names an empty one. -/
def get (store : ModelStore) (model : ModelHandle) : ModelState :=
  store.all.getD model.id ⟨.elements [], false⟩

def set (store : ModelStore) (model : ModelHandle) (state : ModelState) : ModelStore :=
  ⟨store.all.set model.id state⟩

/-- A new model with the given settings and contents. -/
def add (store : ModelStore) (properties : ModelProperties) (contents : ModelContents) :
    ModelHandle × ModelStore :=
  (⟨store.all.length, properties⟩, ⟨store.all ++ [⟨contents, false⟩]⟩)

/-- The elements of a model as scripts see them. -/
def contents (store : ModelStore) (model : ModelHandle) : List Value :=
  (store.get model).contents.values

/-- The number of elements of a model. -/
def size (store : ModelStore) (model : ModelHandle) : Nat :=
  (store.get model).contents.size

def isDisposed (store : ModelStore) (model : ModelHandle) : Bool :=
  (store.get model).disposed

def push (store : ModelStore) (model : ModelHandle) (element : Json) : ModelStore :=
  let state := store.get model
  store.set model { state with contents := state.contents.push element }

end ModelStore
end StagedScript
