import StagedScript.Error
import StagedScript.Files.Path

/-!
# Finding a language

A language goes by its short name and by longer ones. The language of a file is that of its
extension, in letters of either case.
-/

namespace StagedScript
namespace Language

def ofName? (name : String) : Option Language :=
  match name with
  | "eol" => some .eol
  | "expression" => some .eol
  | "script" => some .eol
  | "ecl" => some .ecl
  | "comparison" => some .ecl
  | "etl" => some .etl
  | "transformation" => some .etl
  | "eml" => some .eml
  | "merging" => some .eml
  | "evl" => some .evl
  | "validation" => some .evl
  | "egl" => some .egl
  | "template" => some .egl
  | "egx" => some .egx
  | "generation" => some .egx
  | _ => none

/-- The language that goes by a name, which must be a known one. -/
def find (name : String) : Except ScriptError Language :=
  match ofName? name with
  | some language => .ok language
  | none => .error (.config (.unsupportedLanguage name))

def ofPath (path : String) : Except ScriptError Language :=
  match Path.extension? path with
  | some extension => find (extension.map Char.toLower)
  | none => .error (.config (.noExtension path))

end Language
end StagedScript
