import StagedScript.Text.Utf8
import StagedScript.World

/-!
# Recording profiles

A profile is recorded while a run goes on: its start and its end are logged, and the rule times of
an engine are merged, with a warning and a count for each that is replaced.
-/

namespace StagedScript
namespace Profile

/-- Record the start of a run, and log the machine. -/
def logStart (profile : Profile) : InWorld Profile := do
  let now ← InWorld.instant
  let date ← InWorld.date
  InWorld.logAll
    [⟨.info, "Operating system: " ++ profile.host.os⟩,
     ⟨.info, "Runtime: " ++ profile.host.runtime⟩,
     ⟨.info, "CPU: " ++ profile.host.cpu⟩,
     ⟨.info, "Logical processors: " ++ toString profile.host.logicalProcessors⟩,
     ⟨.info, "Starting execution at " ++ date⟩,
     ⟨.info, separator⟩]
  return profile.begin_ now date

def recordStart (profile : Profile) (name : String) : InWorld Profile := do
  return profile.startStage name (← InWorld.instant)

def recordEnd (profile : Profile) (name : String) : InWorld Profile := do
  return profile.endStage name (← InWorld.instant)

/-- Merge the rule times of one harvest; the last time of a rule counts. -/
def harvest (profile : Profile) : List RuleTiming → InWorld Profile
  | [] => return profile
  | timing :: rest => do
      if (profile.rules.get? timing.rule).isSome then
        InWorld.log .warn ("Value for rule " ++ timing.rule ++ " was replaced.")
        InWorld.meter fun metrics => metrics.count .ruleOverwrites
      harvest (profile.takeTiming timing) rest

/-- Merge the rule times of an engine, if it measures them. -/
def endModule (profile : Profile) (timings : Option (List RuleTiming)) : InWorld Profile :=
  match timings with
  | none => return profile
  | some timings => profile.harvest timings

/-- Record the end of a run, and log the profile line by line. -/
def logEnd (profile : Profile) : InWorld Profile := do
  let now ← InWorld.instant
  let date ← InWorld.date
  let closed := profile.finish now date
  InWorld.logAll ((Text.lines closed.summary).map fun line => ⟨.info, line⟩)
  return closed

end Profile
end StagedScript
