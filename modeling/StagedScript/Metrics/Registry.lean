import StagedScript.Error
import StagedScript.Metrics.Histogram

/-!
# Metrics of runs

Counters of runs by outcome, of disposals and of rule times that were replaced, a gauge of the runs
that are going on, and histograms of latencies. Counters wrap at 64 bits; the gauge does not go
below zero.
-/

namespace StagedScript

inductive Counter where
  | runsTotal
  | runsSucceeded
  | configFailures
  | parseFailures
  | executionFailures
  | stageFailures
  | otherFailures
  | ruleOverwrites
  | disposals
deriving DecidableEq, Repr

namespace Counter

def all : List Counter :=
  [.runsTotal, .runsSucceeded, .configFailures, .parseFailures, .executionFailures,
    .stageFailures, .otherFailures, .ruleOverwrites, .disposals]

def name : Counter → String
  | .runsTotal => "runs_total"
  | .runsSucceeded => "runs_succeeded"
  | .configFailures => "config_failures"
  | .parseFailures => "parse_failures"
  | .executionFailures => "execution_failures"
  | .stageFailures => "stage_failures"
  | .otherFailures => "other_failures"
  | .ruleOverwrites => "rule_overwrites"
  | .disposals => "disposals"

/-- The counter of the failures of an error's kind. -/
def ofError : ScriptError → Counter
  | .config _ => .configFailures
  | .parse .. => .parseFailures
  | .execution .. => .executionFailures
  | .stage .. => .stageFailures
  | _ => .otherFailures

end Counter

/-- What latencies are observed of: whole runs and their stages. -/
inductive Latency where
  | run
  | stage (stage : Stage)
deriving DecidableEq, Repr

structure MetricsRegistry where
  runsTotal : UInt64
  runsSucceeded : UInt64
  configFailures : UInt64
  parseFailures : UInt64
  executionFailures : UInt64
  stageFailures : UInt64
  otherFailures : UInt64
  ruleOverwrites : UInt64
  disposals : UInt64
  activeRuns : UInt64
  runLatency : Histogram
  prepareLatency : Histogram
  preProcessLatency : Histogram
  executeLatency : Histogram
  postProcessLatency : Histogram
deriving DecidableEq

namespace MetricsRegistry

/-- Nothing counted or observed. -/
def new : MetricsRegistry where
  runsTotal := 0
  runsSucceeded := 0
  configFailures := 0
  parseFailures := 0
  executionFailures := 0
  stageFailures := 0
  otherFailures := 0
  ruleOverwrites := 0
  disposals := 0
  activeRuns := 0
  runLatency := .new
  prepareLatency := .new
  preProcessLatency := .new
  executeLatency := .new
  postProcessLatency := .new

def get (metrics : MetricsRegistry) : Counter → UInt64
  | .runsTotal => metrics.runsTotal
  | .runsSucceeded => metrics.runsSucceeded
  | .configFailures => metrics.configFailures
  | .parseFailures => metrics.parseFailures
  | .executionFailures => metrics.executionFailures
  | .stageFailures => metrics.stageFailures
  | .otherFailures => metrics.otherFailures
  | .ruleOverwrites => metrics.ruleOverwrites
  | .disposals => metrics.disposals

def set (metrics : MetricsRegistry) (counter : Counter) (value : UInt64) : MetricsRegistry :=
  match counter with
  | .runsTotal => { metrics with runsTotal := value }
  | .runsSucceeded => { metrics with runsSucceeded := value }
  | .configFailures => { metrics with configFailures := value }
  | .parseFailures => { metrics with parseFailures := value }
  | .executionFailures => { metrics with executionFailures := value }
  | .stageFailures => { metrics with stageFailures := value }
  | .otherFailures => { metrics with otherFailures := value }
  | .ruleOverwrites => { metrics with ruleOverwrites := value }
  | .disposals => { metrics with disposals := value }

def add (metrics : MetricsRegistry) (counter : Counter) (amount : UInt64) : MetricsRegistry :=
  metrics.set counter (metrics.get counter + amount)

def count (metrics : MetricsRegistry) (counter : Counter) : MetricsRegistry :=
  metrics.add counter 1

/-- A counter reads what was set, and the others are as before. -/
@[simp] theorem get_set (metrics : MetricsRegistry) (counter other : Counter) (value : UInt64) :
    (metrics.set counter value).get other =
      if counter = other then value else metrics.get other := by
  cases counter <;> cases other <;> rfl

def enter (metrics : MetricsRegistry) : MetricsRegistry :=
  { metrics with activeRuns := metrics.activeRuns + 1 }

/-- A run ends; the gauge stays at zero if it is there. -/
def leave (metrics : MetricsRegistry) : MetricsRegistry :=
  { metrics with activeRuns := if metrics.activeRuns = 0 then 0 else metrics.activeRuns - 1 }

def latency (metrics : MetricsRegistry) : Latency → Histogram
  | .run => metrics.runLatency
  | .stage .prepareExecution => metrics.prepareLatency
  | .stage .preProcess => metrics.preProcessLatency
  | .stage .execute => metrics.executeLatency
  | .stage .postProcess => metrics.postProcessLatency

def observe (metrics : MetricsRegistry) (which : Latency) (elapsed : Nanoseconds) :
    MetricsRegistry :=
  match which with
  | .run => { metrics with runLatency := metrics.runLatency.observe elapsed }
  | .stage .prepareExecution =>
      { metrics with prepareLatency := metrics.prepareLatency.observe elapsed }
  | .stage .preProcess =>
      { metrics with preProcessLatency := metrics.preProcessLatency.observe elapsed }
  | .stage .execute => { metrics with executeLatency := metrics.executeLatency.observe elapsed }
  | .stage .postProcess =>
      { metrics with postProcessLatency := metrics.postProcessLatency.observe elapsed }

/-- A latency reads what was observed of it, and the others are as before. -/
@[simp] theorem latency_observe (metrics : MetricsRegistry) (which other : Latency)
    (elapsed : Nanoseconds) :
    (metrics.observe which elapsed).latency other =
      if which = other then (metrics.latency which).observe elapsed else metrics.latency other := by
  rcases which with _ | which <;> rcases other with _ | other
  · rfl
  · cases other <;> rfl
  · cases which <;> rfl
  · cases which <;> cases other <;> rfl

def recordRunStart (metrics : MetricsRegistry) : MetricsRegistry :=
  (metrics.count .runsTotal).enter

def recordSuccess (metrics : MetricsRegistry) (elapsed : Nanoseconds) : MetricsRegistry :=
  (metrics.leave.count .runsSucceeded).observe .run elapsed

/-- Count a run that failed, by the kind of its error. -/
def recordFailure (metrics : MetricsRegistry) (error : ScriptError) (elapsed : Nanoseconds) :
    MetricsRegistry :=
  (metrics.leave.observe .run elapsed).count (.ofError error)

end MetricsRegistry
end StagedScript
