import StagedScript.Frames
import StagedScript.Model.Repository
import StagedScript.Native
import StagedScript.Stream

/-!
# Engine contexts

What an engine runs a program against: models, variables, makers of host objects, and a stream for
each channel.
-/

namespace StagedScript

structure Context where
  models : Repository
  frames : FrameStack
  delegates : List NativeDelegate
  output : Stream
  warning : Stream
  error : Stream

namespace Context

/-- Nothing at hand, and the standard streams. -/
def initial : Context where
  models := []
  frames := .empty
  delegates := []
  output := .stdout
  warning := .stderr
  error := .stderr

def stream (context : Context) : Channel → Stream
  | .output => context.output
  | .warning => context.warning
  | .error => context.error

def redirect (context : Context) (channel : Channel) (stream : Stream) : Context :=
  match channel with
  | .output => { context with output := stream }
  | .warning => { context with warning := stream }
  | .error => { context with error := stream }

def addModels (context : Context) (models : List ModelHandle) : Context :=
  { context with models := context.models.addAll models }

/-- Bind the parameters of a run globally. -/
def addParameters (context : Context) (parameters : Parameters) : Context :=
  { context with frames := context.frames.putGlobals parameters.toVariables }

/-- Add makers of host objects after those that are there. -/
def addDelegates (context : Context) (delegates : List NativeDelegate) : Context :=
  { context with delegates := context.delegates ++ delegates }

/-- The first delegate that knows a type. -/
def delegateFor? (context : Context) (type : String) : Option NativeDelegate :=
  NativeDelegate.find? context.delegates type

/-- Forget variables and delegates; models and streams stay. -/
def dispose (context : Context) : Context :=
  { context with frames := .empty, delegates := [] }

/-- The context as diagnostics show it. -/
def describe (context : Context) : String :=
  "ModuleContext \x7b models: " ++ toString context.models.length ++
    ", frames: " ++ context.frames.describe ++
    ", native_delegates: " ++ toString context.delegates.length ++
    ", output: " ++ context.output.render ++ " \x7d"

end Context
end StagedScript
