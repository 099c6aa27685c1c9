import StagedScript.Json.Record
import StagedScript.Json.Writer
import StagedScript.Metrics.Histogram
import StagedScript.Run.Lifecycle

/-!
# Profiles

What one run took: when it started and ended, how long each stage took, and how long each rule. A
stage that is started again counts from the later start, one that is ended again keeps the later
time, and one that is ended without a start took no time. Rules come from harvests, of which the
last one that names a rule counts.
-/

namespace StagedScript

/-- The machine that a run was made on. -/
structure HostMetadata where
  os : String
  runtime : String
  cpu : String
  logicalProcessors : Nat
deriving DecidableEq, Repr

namespace HostMetadata

/-- The name and the version under which runs are made. -/
def runtimeName : String :=
  "scriptbox 0.1.0"

/-- A machine that runs are made on, by its operating system and its processor. -/
def ofMachine (os cpu : String) (logicalProcessors : Nat) : HostMetadata :=
  ⟨os, runtimeName, cpu, logicalProcessors⟩

/-- The machine as a JSON record. -/
def toJson (host : HostMetadata) : Json :=
  .object
    [("os", .text host.os), ("runtime", .text host.runtime), ("cpu", .text host.cpu),
      ("logical_processors", .integer host.logicalProcessors)]

/-- The machine of a JSON record. -/
def ofJson (json : Json) : HostMetadata :=
  ⟨json.textAt "os", json.textAt "runtime", json.textAt "cpu",
    json.naturalAt "logical_processors"⟩

end HostMetadata

/-- The time data of one run. Instants are nanoseconds of one clock. -/
structure Profile where
  host : HostMetadata
  start : Option Nanoseconds
  startedAt : Option String
  finishedAt : Option String
  /-- The last start of each stage. -/
  stageStarts : List (String × Nanoseconds)
  /-- The time of each stage that was ended, in the order of their first ends. -/
  stages : List (String × Nanoseconds)
  rules : RuleTimes
  total : Option Nanoseconds
  /-- How many times of rules were replaced by a later harvest. They are no more than were
  harvested, so 64 bits hold the count for fewer than `2 ^ 64` timings
  (`Profile.Merged.toNat_ruleOverwrites`). -/
  ruleOverwrites : Nat
deriving DecidableEq, Repr

namespace Profile

/-- Nothing recorded on a machine. -/
def new (host : HostMetadata) : Profile where
  host := host
  start := none
  startedAt := none
  finishedAt := none
  stageStarts := []
  stages := []
  rules := []
  total := none
  ruleOverwrites := 0

/-- Set the value of a key; a new key stands at the end. -/
def setEntry (key : String) (value : Nanoseconds) :
    List (String × Nanoseconds) → List (String × Nanoseconds)
  | [] => [(key, value)]
  | (held, earlier) :: rest =>
      if held = key then (key, value) :: rest else (held, earlier) :: setEntry key value rest

def begin_ (profile : Profile) (now : Nanoseconds) (date : String) : Profile :=
  { profile with start := some now, startedAt := some date }

def startStage (profile : Profile) (name : String) (now : Nanoseconds) : Profile :=
  { profile with stageStarts := setEntry name now profile.stageStarts }

/-- When a stage was last started. -/
def stageStartedAt? (profile : Profile) (name : String) : Option Nanoseconds :=
  List.lookup name profile.stageStarts

/-- The time since the last start of a stage; none without a start. -/
def sinceStart (profile : Profile) (name : String) (now : Nanoseconds) : Nanoseconds :=
  now - (profile.stageStartedAt? name).getD now

def endStage (profile : Profile) (name : String) (now : Nanoseconds) : Profile :=
  { profile with stages := setEntry name (profile.sinceStart name now) profile.stages }

/-- Take the time of a rule from a harvest. -/
def takeTiming (profile : Profile) (timing : RuleTiming) : Profile :=
  let replaced := (profile.rules.get? timing.rule).isSome
  { profile with
    rules := profile.rules.put timing.rule timing.elapsed
    ruleOverwrites := profile.ruleOverwrites + (if replaced then 1 else 0) }

/-- The run ends. -/
def finish (profile : Profile) (now : Nanoseconds) (date : String) : Profile :=
  { profile with
    total := some (match profile.start with
      | some start => now - start
      | none => 0)
    finishedAt := some date }

/-- How long a stage took. -/
def stageDuration? (profile : Profile) (name : String) : Option Nanoseconds :=
  List.lookup name profile.stages

/-- How long a rule took. -/
def ruleDuration? (profile : Profile) (rule : String) : Option Nanoseconds :=
  profile.rules.get? rule

/-- Whether the time of a stage is one that a clock measured. -/
def isMeasured (profile : Profile) (name : String) : Bool :=
  (profile.stageStartedAt? name).isSome

/-- What a profile says that does not depend on the clock: its measured times are zero, and it has
no dates. -/
def withoutTimes (profile : Profile) : Profile :=
  { profile with
    startedAt := none
    finishedAt := none
    stages := profile.stages.map fun (name, elapsed) =>
      (name, if profile.isMeasured name then 0 else elapsed)
    total := if profile.start.isSome then profile.total.map fun _ => 0 else profile.total }

/-- The line between the parts of a log. -/
def separator : String :=
  String.ofList (List.replicate 40 '-')

/-- The line over the times of stages. -/
def stagesHeading : String :=
  "Profiled processes:"

/-- The line over the times of rules. -/
def rulesHeading : String :=
  "Profiled rules:"

/-- The line of a stage or a rule up to its time. -/
def entryLead (name : String) : String :=
  "  " ++ name ++ ":"

/-- The line of the total up to its time. -/
def totalLead : String :=
  "Total duration: "

/-- The line of the end of the run up to the date. -/
def finishLead : String :=
  "Finished execution at "

/-- A time in milliseconds with three places. -/
def durationText (elapsed : Nanoseconds) : String :=
  Decimal.fixedText 3 elapsed.toMillis ++ " ms"

def summaryLines (profile : Profile) : List String :=
  [stagesHeading] ++
  (profile.stages.map fun (name, elapsed) => entryLead name ++ durationText elapsed) ++
  [rulesHeading] ++
  (profile.rules.map fun timing => entryLead timing.rule ++ durationText timing.elapsed) ++
  (profile.total.map fun total => totalLead ++ durationText total).toList ++
  (profile.finishedAt.map fun date => finishLead ++ date).toList ++
  [separator]

def summary (profile : Profile) : String :=
  "\n".intercalate profile.summaryLines

/-- Times by name as a JSON object, sorted by name. -/
def timesJson (times : List (String × Nanoseconds)) : Json :=
  .object (Json.Fields.ofPairs (times.map fun (name, elapsed) => (name, .real elapsed.toMillis)))

/-- The profile as a JSON record with times in milliseconds. -/
def toJson (profile : Profile) : Json :=
  let optional (text : Option String) : Json := (text.map Json.text).getD .null
  .object
    [("host", profile.host.toJson),
     ("started_at", optional profile.startedAt),
     ("finished_at", optional profile.finishedAt),
     ("stages_ms", timesJson profile.stages),
     ("rules_ms", timesJson (profile.rules.map fun timing => (timing.rule, timing.elapsed))),
     ("total_ms", (profile.total.map fun total => Json.real total.toMillis).getD .null),
     ("rule_overwrites", .integer profile.ruleOverwrites)]

end Profile
end StagedScript
