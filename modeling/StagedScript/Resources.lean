import StagedScript.Error
import StagedScript.Files.Tree
import StagedScript.Log
import StagedScript.Model.Store
import StagedScript.Stream

/-!
# What a run works on

Models, files and sinks outlive the things that use them and are shared between them, so they stand
beside each other in one record. An action of a component changes the component's own state and
these resources, and may leave log records.
-/

namespace StagedScript

/-- The shared things that a run reads and writes. -/
structure Resources where
  models : ModelStore
  files : FileTree
  sinks : Sinks
  /-- How many host objects were made. -/
  objectsMade : Nat

namespace Resources

/-- No models, no files, and the standard sinks. -/
def initial : Resources where
  models := .empty
  files := .empty
  sinks := .standard
  objectsMade := 0

end Resources

/-- A computation over the shared resources that may log. -/
abbrev Shared :=
  StateT Resources Logged

/-- A computation of a component with a state of its own over the shared resources. -/
abbrev Act (σ : Type) :=
  StateT σ Shared

namespace Shared

def log (level : LogLevel) (message : String) : Shared PUnit :=
  StateT.lift (Logged.record level message)

end Shared
end StagedScript
