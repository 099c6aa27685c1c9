import StagedScript.Metrics.Changes

/-!
# Likeness of metrics

Metrics that agree up to the clock and up to the rule times that were replaced. Every change that a
run makes keeps metrics alike, and alike metrics have the same changes.
-/

namespace StagedScript
namespace MetricsRegistry

variable {metrics : MetricsRegistry}

section Reading

/-! A change of one part of the metrics is not seen in the others. -/

@[simp] theorem get_count (counter other : Counter) :
    (metrics.count counter).get other =
      if counter = other then metrics.get counter + 1 else metrics.get other :=
  get_set _ _ _ _

@[simp] theorem activeRuns_count (counter : Counter) :
    (metrics.count counter).activeRuns = metrics.activeRuns := by
  cases counter <;> rfl

@[simp] theorem latency_count (counter : Counter) (which : Latency) :
    (metrics.count counter).latency which = metrics.latency which := by
  rcases which with _ | stage
  · cases counter <;> rfl
  · cases counter <;> cases stage <;> rfl

@[simp] theorem get_observe (which : Latency) (elapsed : Nanoseconds) (counter : Counter) :
    (metrics.observe which elapsed).get counter = metrics.get counter := by
  rcases which with _ | stage
  · cases counter <;> rfl
  · cases stage <;> cases counter <;> rfl

@[simp] theorem activeRuns_observe (which : Latency) (elapsed : Nanoseconds) :
    (metrics.observe which elapsed).activeRuns = metrics.activeRuns := by
  rcases which with _ | stage
  · rfl
  · cases stage <;> rfl

@[simp] theorem get_enter (counter : Counter) :
    metrics.enter.get counter = metrics.get counter := by
  cases counter <;> rfl

@[simp] theorem latency_enter (which : Latency) :
    metrics.enter.latency which = metrics.latency which := by
  rcases which with _ | stage
  · rfl
  · cases stage <;> rfl

@[simp] theorem get_leave (counter : Counter) :
    metrics.leave.get counter = metrics.get counter := by
  cases counter <;> rfl

@[simp] theorem latency_leave (which : Latency) :
    metrics.leave.latency which = metrics.latency which := by
  rcases which with _ | stage
  · rfl
  · cases stage <;> rfl

end Reading

/-- Metrics that agree on all but the count of replaced rule times and the times that were
observed. These are as many, and the same if the clock stands still. -/
structure Alike (still : Prop) (first second : MetricsRegistry) : Prop where
  get : ∀ counter, counter ≠ .ruleOverwrites → first.get counter = second.get counter
  activeRuns : first.activeRuns = second.activeRuns
  observations : ∀ which, (first.latency which).count = (second.latency which).count
  latency : still → ∀ which, first.latency which = second.latency which

namespace Alike

variable {still : Prop} {first second third : MetricsRegistry}

theorem refl (metrics : MetricsRegistry) : Alike still metrics metrics :=
  ⟨fun _ _ => rfl, rfl, fun _ => rfl, fun _ _ => rfl⟩

theorem symm (alike : Alike still first second) : Alike still second first where
  get counter other := (alike.get counter other).symm
  activeRuns := alike.activeRuns.symm
  observations which := (alike.observations which).symm
  latency stands which := (alike.latency stands which).symm

theorem trans (left : Alike still first second) (right : Alike still second third) :
    Alike still first third where
  get counter other := (left.get counter other).trans (right.get counter other)
  activeRuns := left.activeRuns.trans right.activeRuns
  observations which := (left.observations which).trans (right.observations which)
  latency stands which := (left.latency stands which).trans (right.latency stands which)

theorem count (alike : Alike still first second) (counter : Counter) :
    Alike still (first.count counter) (second.count counter) where
  get other apart := by
    by_cases same : counter = other
    · subst same
      simp [alike.get counter apart]
    · simp [same, alike.get other apart]
  activeRuns := by simpa using alike.activeRuns
  observations which := by simpa using alike.observations which
  latency stands which := by simpa using alike.latency stands which

/-- The rule times that were replaced are not counted here. -/
theorem count_ruleOverwrites (metrics : MetricsRegistry) :
    Alike still metrics (metrics.count .ruleOverwrites) where
  get other apart := by simp [apart.symm]
  activeRuns := by simp
  observations which := by simp
  latency _ which := by simp

theorem observe (alike : Alike still first second) (which : Latency) {elapsed other : Nanoseconds}
    (same : still → elapsed = other) :
    Alike still (first.observe which elapsed) (second.observe which other) where
  get counter apart := by simpa using alike.get counter apart
  activeRuns := by simpa using alike.activeRuns
  observations latency := by
    by_cases here : which = latency
    · simp [here, alike.observations latency]
    · simp [here, alike.observations latency]
  latency stands latency := by simp [same stands, alike.latency stands]

theorem enter (alike : Alike still first second) : Alike still first.enter second.enter where
  get counter apart := by simpa using alike.get counter apart
  activeRuns := congrArg (· + 1) alike.activeRuns
  observations which := by simpa using alike.observations which
  latency stands which := by simpa using alike.latency stands which

theorem leave (alike : Alike still first second) : Alike still first.leave second.leave where
  get counter apart := by simpa using alike.get counter apart
  activeRuns := by
    unfold MetricsRegistry.leave
    rw [alike.activeRuns]
  observations which := by simpa using alike.observations which
  latency stands which := by simpa using alike.latency stands which

theorem recordRunStart (alike : Alike still first second) :
    Alike still first.recordRunStart second.recordRunStart :=
  (alike.count .runsTotal).enter

theorem recordSuccess (alike : Alike still first second) {elapsed other : Nanoseconds}
    (same : still → elapsed = other) :
    Alike still (first.recordSuccess elapsed) (second.recordSuccess other) :=
  (alike.leave.count .runsSucceeded).observe .run same

theorem recordFailure (alike : Alike still first second) (error : ScriptError)
    {elapsed other : Nanoseconds} (same : still → elapsed = other) :
    Alike still (first.recordFailure error elapsed) (second.recordFailure error other) :=
  (alike.leave.observe .run same).count (.ofError error)

end Alike

/-- The changes of the metrics other than the replaced rule times. -/
def unprofiledChanges (before after : MetricsRegistry) : List (String × Nat) :=
  (changes before after).filter fun change => change.1 ≠ Counter.ruleOverwrites.name

theorem filter_growth_ruleOverwrites (before after : UInt64) :
    (growth Counter.ruleOverwrites.name before after).filter
      (fun change => change.1 ≠ Counter.ruleOverwrites.name) = [] := by
  unfold growth
  by_cases unchanged : (after - before).toNat = 0 <;> simp [unchanged]

/-- What changed between alike metrics is the same. -/
theorem unprofiledChanges_eq {still : Prop} {before after before' after' : MetricsRegistry}
    (start : Alike still before before') (stop : Alike still after after') :
    unprofiledChanges before after = unprofiledChanges before' after' := by
  have counters : ∀ counter : Counter,
      (growth counter.name (before.get counter) (after.get counter)).filter
          (fun change => change.1 ≠ Counter.ruleOverwrites.name) =
        (growth counter.name (before'.get counter) (after'.get counter)).filter
          (fun change => change.1 ≠ Counter.ruleOverwrites.name) := by
    intro counter
    by_cases overwrites : counter = .ruleOverwrites
    · rw [overwrites, filter_growth_ruleOverwrites, filter_growth_ruleOverwrites]
    · rw [start.get counter overwrites, stop.get counter overwrites]
  unfold unprofiledChanges changes
  simp only [List.filter_append, List.filter_flatMap, start.activeRuns, stop.activeRuns,
    start.observations, stop.observations, counters]

end MetricsRegistry
end StagedScript
