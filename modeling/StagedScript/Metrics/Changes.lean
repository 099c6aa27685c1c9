import StagedScript.Metrics.Registry

/-!
# Changes of metrics

What happened between two states of the metrics, by name: by how much each counter and the gauge
grew, and how many latencies were observed. What did not change is left out.
-/

namespace StagedScript

namespace Counter

def ofName? (name : String) : Option Counter :=
  all.find? fun counter => counter.name = name

end Counter

namespace Latency

def all : List Latency :=
  .run :: Stage.all.map .stage

/-- The name of a latency among the changes. -/
def name : Latency → String
  | .run => "run_latency"
  | .stage .prepareExecution => "prepare_latency"
  | .stage .preProcess => "pre_process_latency"
  | .stage .execute => "execute_latency"
  | .stage .postProcess => "post_process_latency"

end Latency

namespace MetricsRegistry

/-- How much a metric grew, unless it did not. -/
def growth (name : String) (before after : UInt64) : List (String × Nat) :=
  let grown := (after - before).toNat
  if grown = 0 then [] else [(name, grown)]

/-- What changed between two states of the metrics. -/
def changes (before after : MetricsRegistry) : List (String × Nat) :=
  Counter.all.flatMap (fun counter =>
    growth counter.name (before.get counter) (after.get counter)) ++
  growth "active_runs" before.activeRuns after.activeRuns ++
  Latency.all.flatMap fun which =>
    growth which.name (before.latency which).count (after.latency which).count

end MetricsRegistry
end StagedScript
