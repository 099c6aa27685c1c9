/-!
# Paths

A path is a text with slashes. Empty pieces and single dots do not count, except a dot at the start
of a relative path. The functions here work on the text alone and keep the parts of it that they do
not need to touch.
-/

namespace StagedScript
namespace Path

/-- The parts of a path between its slashes. -/
def pieces (path : String) : List String :=
  (path.toList.splitOn '/').map String.ofList

/-- A path that starts at the root. -/
def isAbsolute (path : String) : Bool :=
  path.toList.head? = some '/'

/-- A piece that names nothing: an empty one or a single dot. -/
def isIdle (piece : String) : Bool :=
  piece.isEmpty || piece = "."

/-- The pieces after the root, or all pieces of a relative path. -/
def body (path : String) : List String :=
  if isAbsolute path then (pieces path).tail else pieces path

/-- Drop the idle pieces at the end. A dot that starts a relative path is kept. -/
def trimEnd (relative : Bool) : List String → List String
  | [] => []
  | piece :: rest =>
      match trimEnd false rest with
      | [] => if piece.isEmpty || (piece = "." && !relative) then [] else [piece]
      | kept => piece :: kept

/-- A path from its pieces after the root. -/
def ofBody (absolute : Bool) (body : List String) : String :=
  (if absolute then "/" else "") ++ "/".intercalate body

/-- The directory that holds what a path names; nothing for the root and for the empty path. -/
def parent? (path : String) : Option String :=
  let absolute := isAbsolute path
  match trimEnd (!absolute) (body path) with
  | [] => none
  | kept => some (ofBody absolute (trimEnd (!absolute) kept.dropLast))

/-- The name at the end of a path; nothing if the path ends in a dot, in two dots or at the root. -/
def fileName? (path : String) : Option String :=
  match (trimEnd (!isAbsolute path) (body path)).getLast? with
  | some name => if name = ".." || name = "." then none else some name
  | none => none

/-- What follows the last dot of the name at the end of a path; nothing if there is no dot but
perhaps at its start. -/
def extension? (path : String) : Option String := do
  let name := (← fileName? path).toList
  let reversed := name.reverse
  let after := reversed.takeWhile (· ≠ '.')
  let before := reversed.dropWhile (· ≠ '.')
  match before with
  | _ :: _ :: _ => some (String.ofList after.reverse)
  | _ => none

/-- A path seen from a base directory; an absolute path stays as it is. -/
def join (base path : String) : String :=
  if isAbsolute path then
    path
  else if base.isEmpty || base.toList.getLast? = some '/' then
    base ++ path
  else
    base ++ "/" ++ path

end Path

/-- A rule for the paths that callers write: relative ones are taken from a base directory. -/
structure PathResolver where
  base : String
deriving DecidableEq, Repr

namespace PathResolver

/-- The rule whose base holds a file. -/
def siblingOf (file : String) : PathResolver :=
  ⟨(Path.parent? file).getD ""⟩

/-- The path to open for a path as written. -/
def resolve (resolver : PathResolver) (path : String) : String :=
  if Path.isAbsolute path then path else Path.join resolver.base path

end PathResolver
end StagedScript
