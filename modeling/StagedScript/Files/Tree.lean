import StagedScript.Files.Error
import StagedScript.Files.Path

/-!
# A tree of files

The files that a run can see: a working directory with files and directories below it. Paths are
walked piece by piece, as an operating system does: what a piece is taken from must be a directory,
and two dots lead back. The places above the working directory are named by the two dots that lead
to them. Nothing is known of them but that they are directories.
-/

namespace StagedScript

/-- What stands at a place in a tree. -/
inductive FileEntry where
  | file (content : ByteArray)
  | directory

/-- Files and directories by their place, seen from the working directory. -/
structure FileTree where
  entries : List (List String × FileEntry)

namespace FileTree

/-- A working directory with nothing in it. -/
def empty : FileTree :=
  ⟨[]⟩

/-- Whether a place is the working directory or one above it; these are always there. -/
def isAbove (place : List String) : Bool :=
  place.all (· = "..")

def entry? (tree : FileTree) (place : List String) : Option FileEntry :=
  if isAbove place then some .directory else List.lookup place tree.entries

/-- Put an entry at a place; an earlier one there is replaced. -/
def set (tree : FileTree) (place : List String) (entry : FileEntry) : FileTree :=
  let others := tree.entries.filter fun held => held.1 ≠ place
  ⟨others ++ [(place, entry)]⟩

/-- The longest name of a file in bytes. -/
def maxNameSize : Nat :=
  255

/-- Take one piece of a path from a place. -/
def step (tree : FileTree) (place : List String) (piece : String) :
    Except IoError (List String) :=
  match tree.entry? place with
  | none => .error .notFound
  | some (.file _) => .error .notADirectory
  | some .directory =>
      if Path.isIdle piece then
        .ok place
      else if piece = ".." then
        .ok (if isAbove place then place ++ [piece] else place.dropLast)
      else if maxNameSize < piece.utf8ByteSize then
        .error .nameTooLong
      else
        .ok (place ++ [piece])

/-- The place that a path names, whether or not something stands there. -/
def locate (tree : FileTree) (path : String) : Except IoError (List String) :=
  if path.isEmpty then
    .error .notFound
  else if path.toList.contains '\x00' then
    .error .nullInPath
  else if Path.isAbsolute path then
    if (Path.body path).all Path.isIdle then .ok [] else .error .notFound
  else
    (Path.pieces path).foldlM tree.step []

def find (tree : FileTree) (path : String) : Except IoError FileEntry := do
  match tree.entry? (← tree.locate path) with
  | some entry => .ok entry
  | none => .error .notFound

/-- Whether a path names something. -/
def holds (tree : FileTree) (path : String) : Bool :=
  (tree.find path).isOk

def readBytes (tree : FileTree) (path : String) : Except IoError ByteArray := do
  match ← tree.find path with
  | .file content => .ok content
  | .directory => .error .isADirectory

def readText (tree : FileTree) (path : String) : Except IoError String := do
  match String.fromUTF8? (← tree.readBytes path) with
  | some text => .ok text
  | none => .error .invalidText

/-- Whether a path ends as only the path of a directory does. -/
def namesDirectory (path : String) : Bool :=
  match (Path.pieces path).getLast? with
  | some piece => Path.isIdle piece || piece = ".."
  | none => false

/-- Write a file, new or in place of an earlier one. -/
def write (tree : FileTree) (path : String) (content : ByteArray) :
    Except IoError FileTree := do
  let place ← tree.locate path
  match tree.entry? place with
  | some .directory => .error .isADirectory
  | some (.file _) => .ok (tree.set place (.file content))
  | none =>
      if namesDirectory path then
        .error .isADirectory
      else
        match tree.entry? place.dropLast with
        | some .directory => .ok (tree.set place (.file content))
        | some (.file _) => .error .notADirectory
        | none => .error .notFound

/-- Make a directory and those above it. -/
def makeDirectories (tree : FileTree) (path : String) : FileTree :=
  let names := (Path.body path).filter fun piece => !Path.isIdle piece
  (List.range names.length).foldl (fun tree count =>
    let place := names.take (count + 1)
    match tree.entry? place with
    | some _ => tree
    | none => tree.set place .directory) tree

end FileTree
end StagedScript
