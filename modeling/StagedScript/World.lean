import StagedScript.Metrics.Registry
import StagedScript.Profile.Basic
import StagedScript.Resources

/-!
# The world of a run

Everything outside a controller: the shared resources, the log, the metrics of the process, and the
machine. The machine answers questions about time and names new runs; its answers are given in
advance, as functions of how often it was asked, so that a computation in a world is a function.
-/

namespace StagedScript

structure Machine where
  metadata : HostMetadata
  /-- The instants that its clock shows, reading by reading. -/
  instants : Nat → Nanoseconds
  /-- The dates that it shows, reading by reading. -/
  dates : Nat → String
  /-- The names that it gives to runs. -/
  runNames : Nat → String

/-- Everything outside a controller. -/
structure World where
  resources : Resources
  log : List LogRecord
  metrics : MetricsRegistry
  machine : Machine
  instantsRead : Nat
  datesRead : Nat
  runsNamed : Nat

namespace World

/-- A world in which nothing happened. -/
def initial (machine : Machine) : World where
  resources := .initial
  log := []
  metrics := .new
  machine := machine
  instantsRead := 0
  datesRead := 0
  runsNamed := 0

end World

abbrev InWorld :=
  StateM World

/-- The identity of a run: which of the machine's names it has, and the name. -/
structure RunId where
  serial : Nat
  text : String
deriving DecidableEq, Repr

namespace InWorld

/-- Leave a log record. -/
def log (level : LogLevel) (message : String) : InWorld Unit :=
  modify fun world => { world with log := world.log ++ [⟨level, message⟩] }

def logAll (records : List LogRecord) : InWorld Unit :=
  modify fun world => { world with log := world.log ++ records }

/-- Read the clock. -/
def instant : InWorld Nanoseconds :=
  modifyGet fun world =>
    (world.machine.instants world.instantsRead,
      { world with instantsRead := world.instantsRead + 1 })

def date : InWorld String :=
  modifyGet fun world =>
    (world.machine.dates world.datesRead, { world with datesRead := world.datesRead + 1 })

def newRunId : InWorld RunId :=
  modifyGet fun world =>
    (⟨world.runsNamed, world.machine.runNames world.runsNamed⟩,
      { world with runsNamed := world.runsNamed + 1 })

def meter (change : MetricsRegistry → MetricsRegistry) : InWorld Unit :=
  modify fun world => { world with metrics := change world.metrics }

def elapsedSince (started : Nanoseconds) : InWorld Nanoseconds := do
  let now ← instant
  return now - started

/-- The value of a logged computation, whose records are logged. -/
def ofLogged (logged : Logged α) : InWorld α := do
  logAll logged.records
  return logged.value

/-- Carry out an action of a component, given its state. -/
def perform (action : Act σ α) (state : σ) : InWorld (α × σ) := do
  let world ← get
  let ((result, state), resources) ← ofLogged ((action.run state).run world.resources)
  modify fun world => { world with resources := resources }
  return (result, state)

end InWorld
end StagedScript
