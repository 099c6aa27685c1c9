import StagedScript.Json.Basic
import StagedScript.Decimal.Layout

/-!
# JSON text

A value is written compactly, without blanks, or over several lines with an indent of two spaces.
Quotes, backslashes and control characters are escaped, every other character stands for itself.
Both writers append to a text, so that a deep value is written in one pass.
-/

namespace StagedScript
namespace Json

/-- One character of a JSON string. -/
def escapedChar (c : Char) : String :=
  match c with
  | '"' => "\\\""
  | '\\' => "\\\\"
  | '\x08' => "\\b"
  | '\x0c' => "\\f"
  | '\n' => "\\n"
  | '\r' => "\\r"
  | '\t' => "\\t"
  | c =>
      if c.toNat < 0x20 then
        let digits := Nat.toDigits 16 c.toNat
        "\\u" ++ String.ofList (List.replicate (4 - digits.length) '0' ++ digits)
      else
        c.toString

/-- Append a JSON string. -/
def writeText (out : String) (text : String) : String :=
  (text.toList.foldl (fun out c => out ++ escapedChar c) (out ++ "\"")) ++ "\""

mutual

/-- Append a value without blanks. -/
def writeCompact (out : String) : Json → String
  | .null => out ++ "null"
  | .boolean true => out ++ "true"
  | .boolean false => out ++ "false"
  | .integer value => out ++ toString value
  | .real value => out ++ Decimal.RealFormat.json.render value
  | .text value => writeText out value
  | .array items => writeItems (out ++ "[") true items ++ "]"
  | .object fields => writeFields (out ++ "\x7b") true fields ++ "\x7d"

/-- Append the items of an array; a comma stands before all but the first. -/
def writeItems (out : String) (first : Bool) : List Json → String
  | [] => out
  | item :: rest =>
      writeItems (writeCompact (if first then out else out ++ ",") item) false rest

/-- Append the fields of an object; a comma stands before all but the first. -/
def writeFields (out : String) (first : Bool) : List (String × Json) → String
  | [] => out
  | (key, value) :: rest =>
      let key := writeText (if first then out else out ++ ",") key
      writeFields (writeCompact (key ++ ":") value) false rest

end

/-- The text of a value without blanks. -/
def compact (json : Json) : String :=
  writeCompact "" json

/-- A line break and the indent of a nesting level. -/
def lineBreak (level : Nat) : String :=
  "\n" ++ String.ofList (List.replicate (2 * level) ' ')

mutual

/-- Append a value over several lines; the empty array and the empty object stay on one. -/
def writePretty (out : String) (level : Nat) : Json → String
  | .null => out ++ "null"
  | .boolean true => out ++ "true"
  | .boolean false => out ++ "false"
  | .integer value => out ++ toString value
  | .real value => out ++ Decimal.RealFormat.json.render value
  | .text value => writeText out value
  | .array [] => out ++ "[]"
  | .array (item :: rest) =>
      writePrettyItems (writePretty (out ++ "[" ++ lineBreak (level + 1)) (level + 1) item)
        (level + 1) rest ++ lineBreak level ++ "]"
  | .object [] => out ++ "\x7b\x7d"
  | .object ((key, value) :: rest) =>
      let key := writeText (out ++ "\x7b" ++ lineBreak (level + 1)) key
      writePrettyFields (writePretty (key ++ ": ") (level + 1) value)
        (level + 1) rest ++ lineBreak level ++ "\x7d"

/-- Append the items after the first, each after a comma on a line of its own. -/
def writePrettyItems (out : String) (level : Nat) : List Json → String
  | [] => out
  | item :: rest =>
      writePrettyItems (writePretty (out ++ "," ++ lineBreak level) level item) level rest

/-- Append the fields after the first, each after a comma on a line of its own. -/
def writePrettyFields (out : String) (level : Nat) : List (String × Json) → String
  | [] => out
  | (key, value) :: rest =>
      let key := writeText (out ++ "," ++ lineBreak level) key
      writePrettyFields (writePretty (key ++ ": ") level value) level rest

end

/-- The text of a value over several lines. -/
def pretty (json : Json) : String :=
  writePretty "" 0 json

end Json
end StagedScript
