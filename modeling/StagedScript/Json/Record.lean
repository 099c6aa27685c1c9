import StagedScript.Json.Basic

/-!
# JSON records

Records of this library are JSON objects whose fields may be left out. A field that is left out, or
is null, counts as the empty text, zero, false or no items.
-/

namespace StagedScript
namespace Json

def natural (value : Nat) : Json :=
  .integer value

def texts (values : List String) : Json :=
  .array (values.map .text)

/-- What an optional value is written as; null stands for none. -/
def ofOption (write : α → Json) : Option α → Json
  | some value => write value
  | none => .null

def ofText? : Option String → Json :=
  ofOption .text

/-- The value of a field; null for one that is left out. -/
def member (json : Json) (key : String) : Json :=
  (json.field? key).getD .null

/-- Whether a record has a field that is not null. -/
def holds (json : Json) (key : String) : Bool :=
  match json.member key with
  | .null => false
  | _ => true

/-- A field with a string, which may be left out. -/
def textAt? (json : Json) (key : String) : Option String :=
  (json.member key).text?

def textAt (json : Json) (key : String) : String :=
  (json.textAt? key).getD ""

def flagAt (json : Json) (key : String) : Bool :=
  (json.member key).boolean?.getD false

/-- A field with a boolean that is true if it is left out. -/
def flagAtOrTrue (json : Json) (key : String) : Bool :=
  (json.member key).boolean?.getD true

/-- A field with a natural number. -/
def naturalAt (json : Json) (key : String) : Nat :=
  ((json.member key).integer?.getD 0).toNat

/-- A field with an array. -/
def itemsAt (json : Json) (key : String) : List Json :=
  (json.member key).items?.getD []

/-- A field with an array of strings. -/
def textsAt (json : Json) (key : String) : List String :=
  (json.itemsAt key).filterMap text?

end Json
end StagedScript
