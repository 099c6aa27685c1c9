import StagedScript.Model.Disposal

/-!
# Repositories of models

The models that an engine has at hand, in the order in which they were added, each once.
-/

namespace StagedScript

abbrev Repository :=
  List ModelHandle

namespace Repository

def holds (repository : Repository) (model : ModelHandle) : Bool :=
  repository.any fun held => held.same model

/-- Add a model at the end, unless it is there. -/
def add (repository : Repository) (model : ModelHandle) : Repository :=
  if repository.holds model then repository else repository ++ [model]

def addAll (repository : Repository) (models : List ModelHandle) : Repository :=
  models.foldl add repository

/-- Take out the first model whose own name is the given one. -/
def remove (repository : Repository) (name : String) : Option ModelHandle × Repository :=
  (repository.find? (fun model => model.name = name),
    repository.eraseP fun model => model.name = name)

/-- The first model that goes by a name, its own or an alias. -/
def find? (repository : Repository) (name : String) : Option ModelHandle :=
  List.find? (fun model => model.answersTo name) repository

/-- Dispose the models one after the other, each with a record of it. -/
def disposeAll : Repository → Shared Unit
  | [] => return
  | model :: rest => do
      Shared.log .debug ("Disposing model " ++ model.name)
      model.dispose
      disposeAll rest

end Repository
end StagedScript
