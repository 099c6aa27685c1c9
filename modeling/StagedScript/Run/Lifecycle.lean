import StagedScript.Json.Basic

/-!
# The lifecycle of a run

A run goes through four stages after its source was parsed, in a fixed order. The state of a
controller says how far its last run came.
-/

namespace StagedScript

inductive Stage where
  | prepareExecution
  | preProcess
  | execute
  | postProcess
deriving DecidableEq, Repr, Inhabited

namespace Stage

/-- The stages in the order in which a run goes through them. -/
def all : List Stage :=
  [.prepareExecution, .preProcess, .execute, .postProcess]

def name : Stage → String
  | .prepareExecution => "prepareExecution"
  | .preProcess => "preProcess"
  | .execute => "execute"
  | .postProcess => "postProcess"

def ofName? (name : String) : Option Stage :=
  all.find? fun stage => stage.name = name

end Stage

/-- How far the run of a controller came. -/
inductive LifecycleState where
  | constructed
  | parsed
  | prepared
  | preProcessed
  | executed
  | postProcessed
  /-- A step failed, and those after it were not made. -/
  | failed
  | disposed
deriving DecidableEq, Repr, Inhabited

namespace LifecycleState

def name : LifecycleState → String
  | .constructed => "Constructed"
  | .parsed => "Parsed"
  | .prepared => "Prepared"
  | .preProcessed => "PreProcessed"
  | .executed => "Executed"
  | .postProcessed => "PostProcessed"
  | .failed => "Failed"
  | .disposed => "Disposed"

end LifecycleState

/-- The form in which a source was given. -/
inductive SourceKind where
  | script
  | code
deriving DecidableEq, Repr, Inhabited

namespace SourceKind

def name : SourceKind → String
  | .script => "script"
  | .code => "code"

end SourceKind

/-- The form of a source that is parsed: a file or the text itself. -/
inductive ResolvedSource where
  | script (path : String)
  | code (text : String)
deriving DecidableEq, Repr

namespace ResolvedSource

def kind : ResolvedSource → SourceKind
  | .script _ => .script
  | .code _ => .code

def text : ResolvedSource → String
  | .script path => path
  | .code text => text

end ResolvedSource

/-- Where a program comes from: the path of a script, inline code, or both. -/
structure ExecutionSource where
  script : Option String
  code : Option String
deriving DecidableEq, Repr, Inhabited

namespace ExecutionSource

def none : ExecutionSource :=
  ⟨.none, .none⟩

def ofScript (path : String) : ExecutionSource :=
  ⟨some path, .none⟩

def ofCode (text : String) : ExecutionSource :=
  ⟨.none, some text⟩

/-- Whether nothing was given. -/
def isEmpty (source : ExecutionSource) : Bool :=
  source.script.isNone && source.code.isNone

/-- What is parsed: the script if there is one, else the code. -/
def resolve? (source : ExecutionSource) : Option ResolvedSource :=
  match source.script, source.code with
  | some path, _ => some (.script path)
  | .none, some text => some (.code text)
  | .none, .none => .none

/-- The source as a JSON record. -/
def toJson (source : ExecutionSource) : Json :=
  let optional (text : Option String) : Json := (text.map Json.text).getD .null
  .object [("script", optional source.script), ("code", optional source.code)]

end ExecutionSource
end StagedScript
