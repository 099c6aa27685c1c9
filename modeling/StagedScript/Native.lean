import StagedScript.Value

/-!
# Native types

Scripts create objects of the host by the name of a type. A delegate says which types it knows and
makes the instances; the number that it is given is used for no other object, so that an object
made with it is new.
-/

namespace StagedScript

/-- A maker of host objects for scripts. -/
structure NativeDelegate where
  /-- The types it knows. -/
  knows : String → Bool
  /-- The instance of a type with arguments, if it can be made; the number marks a new object. -/
  create : Nat → String → List Value → Option Value

namespace NativeDelegate

/-- The first of several delegates that knows a type. -/
def find? (delegates : List NativeDelegate) (type : String) : Option NativeDelegate :=
  delegates.find? fun delegate => delegate.knows type

end NativeDelegate
end StagedScript
