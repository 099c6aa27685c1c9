import StagedScript.Metrics.Changes
import StagedScript.Text.Utf8
import StagedScript.World

/-!
# Sessions

What a host keeps that drives the parts of this library step by step: a world, the models that were
made in it, in order, and streams by name. A session remembers what of its streams, its log and its
metrics was reported, and hands out what is new.
-/

namespace StagedScript

/-- A stream that goes by a name, and how many bytes of it were reported. -/
structure NamedStream where
  name : String
  stream : Stream
  reported : Nat

/-- A world with its models and streams, and the metrics at the last report. -/
structure Session where
  world : World
  models : List ModelHandle
  streams : List NamedStream
  reported : MetricsRegistry

abbrev InSession :=
  StateM Session

namespace Session

def start (machine : Machine) (files : FileTree) : Session :=
  let world := World.initial machine
  { world := { world with resources := { world.resources with files := files } },
    models := [], streams := [], reported := world.metrics }

end Session

namespace InSession

/-- Carry out a computation in the world of the session. -/
def inWorld (computation : InWorld α) : InSession α := do
  let session ← get
  let (result, world) := computation.run session.world
  set { session with world := world }
  return result

def resources : InSession Resources :=
  return (← get).world.resources

def modifyResources (change : Resources → Resources) : InSession Unit :=
  inWorld (modify fun world => { world with resources := change world.resources })

/-- Carry out an action of a component, given its state. -/
def act (action : Act σ α) (state : σ) : InSession (α × σ) :=
  inWorld (InWorld.perform action state)

/-- Carry out a computation over the resources. -/
def shared (computation : Shared α) : InSession α := do
  let (result, ()) ← act (StateT.lift computation) ()
  return result

def makeModel (properties : ModelProperties) (contents : ModelContents) :
    InSession ModelHandle := do
  let (handle, models) := (← resources).models.add properties contents
  modifyResources fun held => { held with models := models }
  modify fun session => { session with models := session.models ++ [handle] }
  return handle

/-- The stream of a name. It is made at the first use of the name, to a buffer, or to a sink of
limited capacity. -/
def streamNamed (name : String) (capacity : Option Nat) : InSession Stream := do
  match (← get).streams.find? fun held => held.name = name with
  | some held => return held.stream
  | none =>
      let (sink, sinks) := (← resources).sinks.add capacity
      let made : Stream := ⟨sink, if capacity.isSome then .custom else .buffer⟩
      modifyResources fun held => { held with sinks := sinks }
      modify fun session => { session with streams := session.streams ++ [⟨name, made, 0⟩] }
      return made

/-- The bytes that a stream received in all. -/
def received (stream : Stream) : InSession ByteArray :=
  return ((← resources).sinks.get stream.sink).received

/-- The texts that streams received since the last report, by name. -/
def takeWritten : InSession (List (String × String)) := do
  let session ← get
  let bytesOf (held : NamedStream) : ByteArray :=
    (session.world.resources.sinks.get held.stream.sink).received
  let marked : List NamedStream :=
    session.streams.map fun held => { held with reported := (bytesOf held).size }
  set { session with streams := marked }
  return session.streams.filterMap fun held =>
    let bytes := bytesOf held
    if bytes.size = held.reported then
      none
    else
      some (held.name, Text.lossyText (bytes.extract held.reported bytes.size))

/-- The records that were logged since the last report. -/
def takeLog : InSession (List LogRecord) :=
  inWorld (modifyGet fun world => (world.log, { world with log := [] }))

/-- What changed in the metrics since the last report. -/
def takeMetrics : InSession (List (String × Nat)) := do
  let session ← get
  set { session with reported := session.world.metrics }
  return session.reported.changes session.world.metrics

end InSession
end StagedScript
