import StagedScript.Json.Basic

/-!
# Languages

The scripting languages that a run can be written in.
-/

namespace StagedScript

inductive Language where
  /-- Expressions and statements. -/
  | eol
  /-- Comparison of models. -/
  | ecl
  /-- Transformation of models. -/
  | etl
  /-- Merging of models. -/
  | eml
  /-- Validation of models. -/
  | evl
  /-- Templates that generate text. -/
  | egl
  /-- Rules that generate files. -/
  | egx
deriving DecidableEq, Repr, Inhabited

namespace Language

def all : List Language :=
  [.eol, .ecl, .etl, .eml, .evl, .egl, .egx]

def name : Language → String
  | .eol => "eol"
  | .ecl => "ecl"
  | .etl => "etl"
  | .eml => "eml"
  | .evl => "evl"
  | .egl => "egl"
  | .egx => "egx"

/-- The extension of the files of a language, which is its name. -/
def extension (language : Language) : String :=
  language.name

/-- Whether programs of a language are made of rules, which can be timed. -/
def isRuleBased : Language → Bool
  | .eol => false
  | .egl => false
  | _ => true

/-- The name under which a language is stored: its name with a capital. -/
def storedName (language : Language) : String :=
  language.name.capitalize

/-- A language as a JSON record. -/
def toJson (language : Language) : Json :=
  .object
    [("name", .text language.name), ("display", .text language.name),
      ("extension", .text language.extension),
      ("rule_based", .boolean language.isRuleBased), ("variant", .text language.storedName)]

end Language
end StagedScript
