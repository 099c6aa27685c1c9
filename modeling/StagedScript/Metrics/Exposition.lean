import StagedScript.Metrics.Registry

/-!
# The exposition of metrics

The metrics as text, each with a line of help and a line with its type, in the format that
monitoring systems collect.
-/

namespace StagedScript
namespace MetricsRegistry

/-- The lines over the values of a metric. -/
def heading (name help type : String) : List String :=
  ["# HELP " ++ name ++ " " ++ help, "# TYPE " ++ name ++ " " ++ type]

def single (name help type : String) (value : UInt64) : List String :=
  heading name help type ++ [name ++ " " ++ toString value.toNat]

def outcomes : List (String × Counter) :=
  [("ok", .runsSucceeded), ("config", .configFailures), ("parse", .parseFailures),
    ("execution", .executionFailures), ("stage", .stageFailures), ("other", .otherFailures)]

def expositionLines (metrics : MetricsRegistry) : List String :=
  let byOutcome := "scriptbox_runs_by_outcome"
  let runLatency := "scriptbox_run_latency_seconds"
  let stageLatency := "scriptbox_stage_latency_seconds"
  single "scriptbox_runs_total" "Total number of controller runs" "counter" metrics.runsTotal ++
  heading byOutcome "Runs by outcome" "counter" ++
  (outcomes.map fun (outcome, counter) =>
    byOutcome ++ "\x7boutcome=\"" ++ outcome ++ "\"\x7d " ++
      toString (metrics.get counter).toNat) ++
  single "scriptbox_rule_overwrites_total" "Rule timings replaced by a later harvest" "counter"
    metrics.ruleOverwrites ++
  single "scriptbox_disposals_total" "Controller disposals" "counter" metrics.disposals ++
  single "scriptbox_active_runs" "Currently running controllers" "gauge" metrics.activeRuns ++
  heading runLatency "End-to-end run latency" "histogram" ++
  metrics.runLatency.exposition runLatency "" ++
  heading stageLatency "Latency per lifecycle stage" "histogram" ++
  Stage.all.flatMap fun stage =>
    (metrics.latency (.stage stage)).exposition stageLatency ("stage=\"" ++ stage.name ++ "\"")

def exposition (metrics : MetricsRegistry) : String :=
  String.join (metrics.expositionLines.map fun line => line ++ "\n")

end MetricsRegistry
end StagedScript
