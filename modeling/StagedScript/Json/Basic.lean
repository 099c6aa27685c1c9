/-!
# JSON values

A number is an integer or a real, as its text says: `1000` is the one and `1e3` the other. An
object is a list of fields. The fields of an object that was read are sorted by key, and a key that
is repeated keeps its last value (`put`); the fields of an object that is written stand in the
order in which they were given.
-/

namespace StagedScript

/-- A JSON value. -/
inductive Json where
  | null
  | boolean (value : Bool)
  | integer (value : Int)
  | real (value : Float)
  | text (value : String)
  | array (items : List Json)
  | object (fields : List (String × Json))
deriving Inhabited

namespace Json

abbrev Fields :=
  List (String × Json)

namespace Fields

/-- Set a field in fields sorted by key; an earlier value of the key is replaced. -/
def put (key : String) (value : Json) : Fields → Fields
  | [] => [(key, value)]
  | (first, held) :: rest =>
      if key = first then
        (key, value) :: rest
      else if key < first then
        (key, value) :: (first, held) :: rest
      else
        (first, held) :: put key value rest

/-- The sorted fields of an object whose text gives them in some order, perhaps repeatedly. -/
def ofPairs (pairs : List (String × Json)) : Fields :=
  pairs.foldl (fun fields pair => fields.put pair.1 pair.2) []

def get? (fields : Fields) (key : String) : Option Json :=
  List.lookup key fields

end Fields

/-- The value of a field; nothing for a value that is no object. -/
def field? (json : Json) (key : String) : Option Json :=
  match json with
  | .object fields => Fields.get? fields key
  | _ => none

/-- The text of a JSON string. -/
def text? : Json → Option String
  | .text value => some value
  | _ => none

/-- The value of a JSON boolean. -/
def boolean? : Json → Option Bool
  | .boolean value => some value
  | _ => none

/-- The value of a JSON integer. -/
def integer? : Json → Option Int
  | .integer value => some value
  | _ => none

/-- The items of a JSON array. -/
def items? : Json → Option (List Json)
  | .array items => some items
  | _ => none

/-- The texts of a JSON array that holds nothing but strings. -/
def texts? (json : Json) : Option (List String) := do
  (← json.items?).mapM text?

end Json
end StagedScript
