import StagedScript.Json.Writer
import StagedScript.Model.Handle
import StagedScript.Text.Quoted

/-!
# Values

The values that scripts compute with: null, booleans, integers of 64 bits, reals, strings, lists,
models, and objects of the host that pass through untouched. Integers and reals are compared as
reals; models and host objects are equal only to themselves.
-/

namespace StagedScript

/-- What tells a host object from every other: a name that the host gave it, or the number of its
making. -/
inductive HostIdentity where
  | given (key : String)
  | made (serial : Nat)
deriving DecidableEq, Repr

/-- An object of the host, with the text that it holds. -/
structure HostObject where
  identity : HostIdentity
  content : String
deriving DecidableEq, Repr

/-- A value that a script can see. -/
inductive Value where
  | null
  | boolean (value : Bool)
  | integer (value : Int64)
  | real (value : Float)
  | text (value : String)
  | list (items : List Value)
  | model (handle : ModelHandle)
  | host (object : HostObject)
deriving Inhabited

/-- The integer of 64 bits with a given value, if there is one. -/
def int64? (value : Int) : Option Int64 :=
  if -9223372036854775808 ≤ value ∧ value ≤ 9223372036854775807 then
    some (Int64.ofInt value)
  else
    none

namespace Value

def typeName : Value → String
  | .null => "Null"
  | .boolean _ => "Boolean"
  | .integer _ => "Integer"
  | .real _ => "Real"
  | .text _ => "String"
  | .list _ => "Sequence"
  | .model _ => "Model"
  | .host _ => "Native"

def isNull : Value → Bool
  | .null => true
  | _ => false

def integer? : Value → Option Int64
  | .integer value => some value
  | _ => none

def text? : Value → Option String
  | .text value => some value
  | _ => none

def boolean? : Value → Option Bool
  | .boolean value => some value
  | _ => none

mutual

def equals : Value → Value → Bool
  | .null, .null => true
  | .boolean a, .boolean b => a = b
  | .integer a, .integer b => a = b
  | .real a, .real b => a == b
  | .integer a, .real b => a.toFloat == b
  | .real a, .integer b => a == b.toFloat
  | .text a, .text b => a = b
  | .list a, .list b => equalLists a b
  | .model a, .model b => a.same b
  | .host a, .host b => a.identity = b.identity
  | _, _ => false

/-- Lists are equal if their items are, one by one. -/
def equalLists : List Value → List Value → Bool
  | [], [] => true
  | a :: as, b :: bs => equals a b && equalLists as bs
  | _, _ => false

end

instance : BEq Value :=
  ⟨equals⟩

mutual

def display : Value → String
  | .null => "null"
  | .boolean value => toString value
  | .integer value => toString value.toInt
  | .real value => Decimal.RealFormat.plain.render value
  | .text value => value
  | .list items => "Sequence \x7b" ++ ", ".intercalate (displays items) ++ "\x7d"
  | .model handle => handle.name
  | .host _ => "<native>"

/-- The texts of the items of a list. -/
def displays : List Value → List String
  | [] => []
  | value :: rest => display value :: displays rest

end

mutual

/-- A value with its kind, as diagnostics show it. -/
def describe : Value → String
  | .null => "Null"
  | .boolean value => "Boolean(" ++ toString value ++ ")"
  | .integer value => "Integer(" ++ toString value.toInt ++ ")"
  | .real value => "Real(" ++ Decimal.RealFormat.plain.render value ++ ")"
  | .text value => "String(" ++ Text.quoted value ++ ")"
  | .list items => "List([" ++ ", ".intercalate (describeAll items) ++ "])"
  | .model handle => "Model(" ++ handle.name ++ ")"
  | .host _ => "Opaque(..)"

def describeAll : List Value → List String
  | [] => []
  | value :: rest => describe value :: describeAll rest

end

mutual

/-- The value of JSON data. An integer beyond 64 bits with sign becomes a real, and an object
becomes its text. -/
def ofJson : Json → Value
  | .null => .null
  | .boolean value => .boolean value
  | .integer value =>
      match int64? value with
      | some small => .integer small
      | none => .real (Float.ofInt value)
  | .real value => .real value
  | .text value => .text value
  | .array items => .list (ofJsons items)
  | .object fields => .text (Json.compact (.object fields))

/-- The values of several JSON data. -/
def ofJsons : List Json → List Value
  | [] => []
  | json :: rest => ofJson json :: ofJsons rest

end

end Value

/-- A named binding. -/
structure Variable where
  name : String
  value : Value
  readOnly : Bool
deriving Inhabited

namespace Variable

/-- A binding that scripts cannot assign to. -/
def constant (name : String) (value : Value) : Variable :=
  ⟨name, value, true⟩

/-- A binding that scripts can assign to. -/
def mutable (name : String) (value : Value) : Variable :=
  ⟨name, value, false⟩

/-- A binding as diagnostics show it. -/
def describe (v : Variable) : String :=
  "Variable \x7b name: " ++ Text.quoted v.name ++ ", value: " ++ v.value.describe ++
    ", read_only: " ++ toString v.readOnly ++ " \x7d"

end Variable

/-- A parameter of a run: a bare value, or a binding that the caller made. -/
inductive Parameter where
  | bare (value : Value)
  | binding (bound : Variable)

namespace Parameter

/-- The global binding of a parameter under a name: a bare value cannot be assigned to, and a
binding stays as the caller made it. -/
def toVariable (parameter : Parameter) (name : String) : Variable :=
  match parameter with
  | .bare value => .constant name value
  | .binding bound => bound

end Parameter

/-- The parameters of a run by name, each name once. -/
abbrev Parameters :=
  List (String × Parameter)

namespace Parameters

/-- Set a parameter; an earlier one of the name is replaced in its place. -/
def put (name : String) (parameter : Parameter) : Parameters → Parameters
  | [] => [(name, parameter)]
  | (held, earlier) :: rest =>
      if held = name then
        (name, parameter) :: rest
      else
        (held, earlier) :: put name parameter rest

/-- Set parameters one after the other. -/
def putAll (parameters : Parameters) (more : List (String × Parameter)) : Parameters :=
  more.foldl (fun parameters entry => parameters.put entry.1 entry.2) parameters

def names (parameters : Parameters) : List String :=
  parameters.map Prod.fst

/-- The global bindings of the parameters. -/
def toVariables (parameters : Parameters) : List Variable :=
  parameters.map fun entry => entry.2.toVariable entry.1

end Parameters
end StagedScript
