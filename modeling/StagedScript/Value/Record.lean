import StagedScript.Decimal.Reading
import StagedScript.Json.Record
import StagedScript.Value

/-!
# Records of values

Values as JSON from which they can be told apart: integers, reals, models and host objects are
objects with one field that says what they are. A model is read by its place in a list of models
and written by its name.
-/

namespace StagedScript
namespace Value

mutual

def toRecord : Value → Json
  | .null => .null
  | .boolean value => .boolean value
  | .integer value => .object [("int", .text (toString value.toInt))]
  | .real value => .object [("real", .text (Decimal.RealFormat.plain.render value))]
  | .text value => .text value
  | .list items => .array (toRecords items)
  | .model handle => .object [("model", .text handle.name)]
  | .host object => .object [("opaque", .text object.content)]

def toRecords : List Value → List Json
  | [] => []
  | value :: rest => toRecord value :: toRecords rest

end

/-- The integer of a decimal text; null if it has none of 64 bits. -/
def ofIntegerText (text : String) : Value :=
  match text.toInt?.bind int64? with
  | some value => .integer value
  | none => .null

/-- The real of a text; null if it has none. -/
def ofRealText (text : String) : Value :=
  match Decimal.readReal? text with
  | some value => .real value
  | none => .null

mutual

/-- The value of a record, with the models that it may refer to. -/
def ofRecord (models : List ModelHandle) : Json → Value
  | .array items => .list (ofRecords models items)
  | .object [("int", .text digits)] => ofIntegerText digits
  | .object [("real", .text digits)] => ofRealText digits
  | .object [("model", .integer place)] =>
      match models[place.toNat]? with
      | some handle => .model handle
      | none => .null
  | .object [("opaque", .text content)] => .host ⟨.given content, content⟩
  | .object [("json", json)] => Value.ofJson json
  | .object _ => .null
  | json => Value.ofJson json

def ofRecords (models : List ModelHandle) : List Json → List Value
  | [] => []
  | json :: rest => ofRecord models json :: ofRecords models rest

end

end Value

namespace Variable

def toRecord (v : Variable) : Json :=
  .object
    [("name", .text v.name), ("value", v.value.toRecord), ("read_only", .boolean v.readOnly)]

/-- The binding of a record; scripts cannot assign to it if nothing else is said. -/
def ofRecord (models : List ModelHandle) (json : Json) : Variable :=
  ⟨json.textAt "name", .ofRecord models (json.member "value"), json.flagAtOrTrue "read_only"⟩

end Variable

namespace Parameters

/-- The name and the parameter of a record: a binding, or a bare value. -/
def entryOfRecord (models : List ModelHandle) (json : Json) : String × Parameter :=
  (json.textAt "name",
    if json.holds "variable" then
      .binding (.ofRecord models (json.member "variable"))
    else
      .bare (.ofRecord models (json.member "value")))

/-- The parameters of records, set one after the other. -/
def ofRecords (models : List ModelHandle) (records : List Json) : Parameters :=
  putAll [] (records.map (entryOfRecord models))

end Parameters
end StagedScript
