/-!
# Timing rules

How long each named rule of a program took. A timer adds up what it is told, and measures what is
started and stopped; times are counted in nanoseconds.

**Results.** To set the time of a rule leaves the times of the others as they were
(`RuleTimes.get?_put`).
-/

namespace StagedScript

/-- A span of time in nanoseconds. -/
abbrev Nanoseconds :=
  Nat

/-- How long a rule took. -/
structure RuleTiming where
  rule : String
  elapsed : Nanoseconds
deriving DecidableEq, Repr

/-- Times by rule, each rule once, in ascending order of the rules. -/
abbrev RuleTimes :=
  List RuleTiming

namespace RuleTimes

def get? (times : RuleTimes) (rule : String) : Option Nanoseconds :=
  (times.find? fun timing => timing.rule = rule).map RuleTiming.elapsed

/-- Set the time of a rule. -/
def put (rule : String) (elapsed : Nanoseconds) : RuleTimes → RuleTimes
  | [] => [⟨rule, elapsed⟩]
  | held :: rest =>
      if rule = held.rule then
        ⟨rule, elapsed⟩ :: rest
      else if rule < held.rule then
        ⟨rule, elapsed⟩ :: held :: rest
      else
        held :: put rule elapsed rest

/-- A rule has the time that was set, and the others have theirs as before. -/
theorem get?_put (rule : String) (elapsed : Nanoseconds) (times : RuleTimes) (other : String) :
    (times.put rule elapsed).get? other =
      if rule = other then some elapsed else times.get? other := by
  induction times with
  | nil =>
      by_cases same : rule = other <;> simp [put, get?, same]
  | cons held rest ih =>
      simp only [get?] at ih ⊢
      by_cases found : rule = held.rule
      · by_cases same : rule = other <;> simp_all [put]
      · rw [put, if_neg found]
        by_cases before : rule < held.rule
        · rw [if_pos before, List.find?_cons]
          by_cases same : rule = other <;> simp [same]
        · rw [if_neg before, List.find?_cons, List.find?_cons]
          by_cases same : held.rule = other
          · have apart : rule ≠ other := fun h => found (h.trans same.symm)
            simp [same, apart]
          · simp [same, ih]

end RuleTimes

/-- The times that were recorded, and the instants at which rules were started. -/
structure RuleTimer where
  times : RuleTimes
  running : List (String × Nanoseconds)
deriving DecidableEq, Repr

namespace RuleTimer

/-- A timer with nothing recorded. -/
def new : RuleTimer :=
  ⟨[], []⟩

/-- Add to the time of a rule. -/
def record (timer : RuleTimer) (rule : String) (elapsed : Nanoseconds) : RuleTimer :=
  { timer with times := timer.times.put rule ((timer.times.get? rule).getD 0 + elapsed) }

/-- Start a rule at an instant; an earlier start that was not stopped is forgotten. -/
def start (timer : RuleTimer) (rule : String) (now : Nanoseconds) : RuleTimer :=
  { timer with running := (rule, now) :: timer.running.filter fun entry => entry.1 ≠ rule }

/-- Stop a rule at an instant and add the time since its start, if it was started. -/
def stop (timer : RuleTimer) (rule : String) (now : Nanoseconds) : RuleTimer :=
  match List.lookup rule timer.running with
  | none => timer
  | some started =>
      { timer with running := timer.running.filter fun entry => entry.1 ≠ rule }.record rule
        (now - started)

/-- Forget everything. -/
def reset (_ : RuleTimer) : RuleTimer :=
  new

/-- The times in ascending order of the rules. -/
def timings (timer : RuleTimer) : List RuleTiming :=
  timer.times

end RuleTimer
end StagedScript
