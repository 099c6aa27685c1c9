import Mathlib.Algebra.GroupWithZero.Nat
import Mathlib.Logic.Function.Basic
import StagedScript.Proofs.Run.Metering
import StagedScript.Proofs.Run.History

/-!
# Metrics balance

Any number of controllers, over executors of any kinds, take calls in turn, and a record is kept of
each: what the call found, how far the executor lets a run of the controller come, and the error
that was answered. Each call registers in the metrics what its record says, whatever else happens in
it. So what metrics show that were fresh before the calls can be counted in the records.

Counters are words that wrap, so numbers of records are compared with them as words.

**Results.** Metrics balance: runs are counted once at their begin and once at their end, by how
they end, and a latency is observed in every run that enters its stage (`Fleet.metrics_balance`).
-/

namespace StagedScript

/-- Whether a stage other than the execution failed in a run. -/
def ScriptError.isStage : ScriptError → Bool
  | .stage .. => true
  | _ => false

/-- A call that a controller took, on record: the call and the state that it found, through which
stages the executor lets a run of the controller come, and the error that the call answered. -/
structure CallRecord where
  call : ControllerCall
  state : LifecycleState
  parsed : Bool
  preProcessed : Bool
  executed : Bool
  postProcessed : Bool
  failure : Option ScriptError

namespace CallRecord

/-- Whether the call was a run, and the controller one that can run. -/
def ran (record : CallRecord) : Bool :=
  match record.call with
  | .run => record.state = .constructed
  | _ => false

def disposed (record : CallRecord) : Bool :=
  match record.call with
  | .dispose => true
  | _ => false

/-- Whether the call was a run that failed with some kind of error. -/
def failedWith (kind : ScriptError → Bool) (record : CallRecord) : Bool :=
  record.ran && record.failure.any kind

end CallRecord

/-- How metrics go with the calls that were taken since they were all zero. -/
structure MetricsRegistry.Balances (metrics : MetricsRegistry) (records : List CallRecord) :
    Prop where
  runsTotal : metrics.runsTotal = UInt64.ofNat (records.countP CallRecord.ran)
  outcomes : metrics.runsTotal =
    metrics.runsSucceeded + metrics.configFailures + metrics.parseFailures +
      metrics.executionFailures + metrics.stageFailures + metrics.otherFailures
  runLatency : metrics.runLatency.count = metrics.runsTotal
  activeRuns : metrics.activeRuns = 0
  prepareLatency : metrics.prepareLatency.count =
    UInt64.ofNat (records.countP fun record => record.ran && record.parsed)
  preProcessLatency : metrics.preProcessLatency.count = metrics.prepareLatency.count
  executeLatency : metrics.executeLatency.count =
    UInt64.ofNat (records.countP fun record => record.ran && record.preProcessed)
  postProcessLatency : metrics.postProcessLatency.count =
    UInt64.ofNat (records.countP fun record => record.ran && record.executed)
  runsSucceeded : metrics.runsSucceeded =
    UInt64.ofNat (records.countP fun record => record.ran && record.postProcessed)
  configFailures : metrics.configFailures =
    UInt64.ofNat (records.countP (CallRecord.failedWith ScriptError.isConfig))
  parseFailures : metrics.parseFailures =
    UInt64.ofNat (records.countP (CallRecord.failedWith ScriptError.isParse))
  executionFailures : metrics.executionFailures =
    UInt64.ofNat (records.countP (CallRecord.failedWith ScriptError.isExecution))
  stageFailures : metrics.stageFailures =
    UInt64.ofNat (records.countP (CallRecord.failedWith ScriptError.isStage))
  otherFailures : metrics.otherFailures =
    UInt64.ofNat (records.countP (CallRecord.failedWith fun error =>
      !(error.isConfig || error.isParse || error.isExecution || error.isStage)))
  disposals : metrics.disposals = UInt64.ofNat (records.countP CallRecord.disposed)

namespace CallRecord

/-- The counter of how a run ended. -/
def outcome (record : CallRecord) : Counter :=
  match record.failure with
  | none => .runsSucceeded
  | some error => .ofError error

/-- The counters of how runs end. -/
def outcomes : List Counter :=
  [.runsSucceeded, .configFailures, .parseFailures, .executionFailures, .stageFailures,
    .otherFailures]

theorem outcome_mem (record : CallRecord) : record.outcome ∈ outcomes := by
  unfold outcome
  split
  next => decide
  next error _ => cases error <;> simp [Counter.ofError, outcomes]

theorem disposed_of_ran {record : CallRecord} (ran : record.ran = true) :
    record.disposed = false := by
  obtain ⟨call, state⟩ := record
  cases call with
  | run => rfl
  | redirect channel stream => cases ran
  | dispose => cases ran

/-- Whether a call is counted. -/
def counts (record : CallRecord) : Counter → Bool
  | .runsTotal => record.ran
  | .disposals => record.disposed
  | .ruleOverwrites => false
  | counter => record.ran && record.outcome = counter

/-- Whether a latency is observed in a call. -/
def observes (record : CallRecord) : Latency → Bool
  | .run => record.ran
  | .stage .prepareExecution => record.ran && record.parsed
  | .stage .preProcess => record.ran && record.parsed
  | .stage .execute => record.ran && record.preProcessed
  | .stage .postProcess => record.ran && record.executed

/-- A run failed if and only if it did not come through all stages. -/
def IsSound (record : CallRecord) : Prop :=
  record.ran = true → record.failure.isNone = record.postProcessed

end CallRecord

namespace MetricsRegistry

/-- From one registry to another, a call was counted and its latencies were observed. -/
structure Registers (record : CallRecord) (before after : MetricsRegistry) : Prop where
  get : ∀ counter, counter ≠ .ruleOverwrites →
    after.get counter = before.get counter + if record.counts counter then 1 else 0
  activeRuns : before.activeRuns = 0 → after.activeRuns = 0
  latency : ∀ which, (after.latency which).count =
    (before.latency which).count + if record.observes which then 1 else 0

/-- A run ended, and a counter counts how. -/
structure Ended (outcome : Counter) (before after : MetricsRegistry) : Prop where
  get : ∀ counter, after.get counter = before.get counter + if outcome = counter then 1 else 0
  activeRuns : after.activeRuns = before.leave.activeRuns
  runs : (after.latency .run).count = (before.latency .run).count + 1
  stages : ∀ stage, (after.latency (.stage stage)).count = (before.latency (.stage stage)).count

theorem ended_recordSuccess (metrics : MetricsRegistry) (elapsed : Nanoseconds) :
    Ended .runsSucceeded metrics (metrics.recordSuccess elapsed) where
  get counter := by
    by_cases same : Counter.runsSucceeded = counter
    · subst same
      simp [recordSuccess]
    · simp [recordSuccess, same]
  activeRuns := by simp [recordSuccess]
  runs := by simp [recordSuccess]
  stages stage := by simp [recordSuccess]

theorem ended_recordFailure (metrics : MetricsRegistry) (error : ScriptError)
    (elapsed : Nanoseconds) :
    Ended (.ofError error) metrics (metrics.recordFailure error elapsed) where
  get counter := by
    by_cases same : Counter.ofError error = counter
    · subst same
      simp [recordFailure]
    · simp [recordFailure, same]
  activeRuns := by simp [recordFailure]
  runs := by simp [recordFailure]
  stages stage := by simp [recordFailure]

theorem get_recordRunStart (metrics : MetricsRegistry) (counter : Counter) :
    metrics.recordRunStart.get counter =
      metrics.get counter + if counter = .runsTotal then 1 else 0 := by
  by_cases same : counter = .runsTotal
  · subst same
    simp [recordRunStart]
  · simp [recordRunStart, same, Ne.symm same]

theorem activeRuns_recordRunStart (metrics : MetricsRegistry) :
    metrics.recordRunStart.activeRuns = metrics.activeRuns + 1 := by
  change (metrics.count .runsTotal).activeRuns + 1 = _
  rw [activeRuns_count]

/-- A run is counted at its begin and at its end, and its stages are observed in between. -/
theorem registers_ran {record : CallRecord} {stages : List Stage}
    {before during after : MetricsRegistry} (ran : record.ran = true)
    (entered : Entered stages before.recordRunStart during)
    (ended : Ended record.outcome during after)
    (observed : ∀ stage, stages.count stage = if record.observes (.stage stage) then 1 else 0) :
    Registers record before after where
  get counter other := by
    rw [ended.get, entered.get counter other, get_recordRunStart]
    have notTotal : record.outcome ≠ .runsTotal :=
      ne_of_mem_of_not_mem record.outcome_mem (by decide)
    have notDisposal : record.outcome ≠ .disposals :=
      ne_of_mem_of_not_mem record.outcome_mem (by decide)
    cases counter with
    | runsTotal => simp [CallRecord.counts, ran, notTotal]
    | ruleOverwrites => contradiction
    | disposals =>
        simp [CallRecord.counts, CallRecord.disposed_of_ran ran, notDisposal]
    | _ => simp [CallRecord.counts, ran]
  activeRuns idle := by
    rw [ended.activeRuns]
    simp [leave, entered.activeRuns, activeRuns_recordRunStart, idle]
  latency which := by
    cases which with
    | run =>
        rw [ended.runs, entered.runs]
        simp [recordRunStart, CallRecord.observes, ran]
    | stage stage =>
        rw [ended.stages, entered.stages, observed]
        simp only [recordRunStart, latency_enter, latency_count]
        split <;> rfl

end MetricsRegistry

namespace Controller

open InWorld

variable {σ ρ : Type}

/-- The error that a call answered, if it was a run that failed. -/
def failureOf : Option (Except ScriptError ρ) → Option ScriptError
  | some (.error error) => some error
  | _ => none

/-- What is on record of a call that a controller took when it found some resources. -/
def record (controller : Controller σ ρ) (resources : Resources) (call : ControllerCall)
    (answer : Option (Except ScriptError ρ)) : CallRecord where
  call := call
  state := controller.state
  parsed := (controller.parsed? resources).isSome
  preProcessed := (controller.preProcessed? resources).isSome
  executed := (controller.executed? resources).isSome
  postProcessed := (controller.postProcessed? resources).isSome
  failure := failureOf answer

theorem run_registers (controller : Controller σ ρ) (fresh : controller.state = .constructed)
    (world : World) :
    let run := controller.run.run world
    let record := controller.record world.resources .run (some run.1.1)
    record.IsSound ∧ MetricsRegistry.Registers record world.metrics run.2.metrics := by
  intro run record
  have ran : record.ran = true := decide_eq_true fresh
  obtain ⟨elapsed, during, entered, ok, left⟩ := controller.run_metrics fresh world
  have observed : ∀ stage, (Stage.all.filter (controller.enters world.resources)).count stage =
      if record.observes (.stage stage) then 1 else 0 := by
    intro stage
    have same : record.observes (.stage stage) = controller.enters world.resources stage := by
      cases stage <;> simp [CallRecord.observes, ran] <;> rfl
    rw [same]
    cases enters : controller.enters world.resources stage with
    | true =>
        rw [List.count_filter enters]
        cases stage <;> rfl
    | false =>
        rw [List.count_eq_zero_of_not_mem (by simp [enters])]
        rfl
  have ends : MetricsRegistry.Ended record.outcome during run.2.metrics ∧
      record.failure.isNone = run.1.1.isOk := by
    have failure : record.failure = failureOf (some run.1.1) := rfl
    unfold CallRecord.outcome
    rw [failure]
    rw [show (controller.run.run world).1.1 = run.1.1 from rfl] at left
    rw [left]
    cases run.1.1 with
    | ok output => exact ⟨during.ended_recordSuccess elapsed, rfl⟩
    | error error => exact ⟨during.ended_recordFailure error elapsed, rfl⟩
  exact ⟨fun _ => ends.2.trans ok, MetricsRegistry.registers_ran ran entered ends.1 observed⟩

theorem world_freshProfile (options : ExecutionOptions) (probe : HostProbe) (world : World) :
    ((freshProfile options probe).run world).2 = world := by
  unfold freshProfile
  split
  · cases probe <;> rfl
  · rfl

theorem metrics_redirected (controller : Controller σ ρ) (channel : Channel) (stream : Stream)
    (world : World) :
    ((controller.redirected channel stream).run world).2.metrics = world.metrics := by
  have named := world_freshProfile (controller.setStream channel stream).options
    (controller.setStream channel stream).probe { world with runsNamed := world.runsNamed + 1 }
  have metrics := congrArg World.metrics named
  exact metrics

theorem metrics_dispose (controller : Controller σ ρ) (world : World) :
    (controller.dispose.run world).2.metrics = world.metrics.count .disposals := by
  rw [dispose_eq]
  rfl

/-- A call that is no run, or one that is refused, observes no latency and ends no run. -/
theorem registers_other {record : CallRecord} (other : record.ran = false)
    {metrics after : MetricsRegistry}
    (left : after = if record.disposed then metrics.count .disposals else metrics) :
    MetricsRegistry.Registers record metrics after where
  get counter apart := by
    subst left
    cases disposed : record.disposed <;> cases counter <;> simp [CallRecord.counts, other, disposed]
  activeRuns idle := by
    subst left
    split <;> simp [idle]
  latency which := by
    have unobserved : record.observes which = false := by
      rcases which with _ | stage
      · exact other
      · cases stage <;> simp [CallRecord.observes, other]
    subst left
    rw [unobserved]
    split <;> simp

theorem take_registers (controller : Controller σ ρ) (call : ControllerCall) (world : World) :
    let taken := (controller.take call).run world
    let record := controller.record world.resources call taken.1.1
    record.IsSound ∧ MetricsRegistry.Registers record world.metrics taken.2.metrics := by
  intro taken record
  cases call with
  | run =>
      by_cases fresh : controller.state = .constructed
      · exact controller.run_registers fresh world
      · have other : record.ran = false := decide_eq_false fresh
        refine ⟨fun ran => absurd (other.symm.trans ran) Bool.false_ne_true, ?_⟩
        refine registers_other other ?_
        exact congrArg (fun run => run.2.metrics) (controller.run_refused fresh world)
  | redirect channel stream =>
      refine ⟨nofun, registers_other rfl ?_⟩
      exact controller.metrics_redirected channel stream world
  | dispose =>
      refine ⟨nofun, registers_other rfl ?_⟩
      exact controller.metrics_dispose world

end Controller

/-- Controllers over executors of any kinds. -/
abbrev Fleet (ι : Type) (σ ρ : ι → Type) : Type :=
  (i : ι) → Controller (σ i) (ρ i)

namespace Fleet

variable {ι : Type} [DecidableEq ι] {σ ρ : ι → Type}

/-- Let a controller take a call, and keep a record of it. -/
def take (fleet : Fleet ι σ ρ) (i : ι) (call : ControllerCall) :
    InWorld (CallRecord × Fleet ι σ ρ) := do
  let before ← get
  let (answer, next) ← (fleet i).take call
  return ((fleet i).record before.resources call answer, Function.update fleet i next)

/-- Let controllers take calls one after the other. -/
def takeAll (fleet : Fleet ι σ ρ) :
    List (ι × ControllerCall) → InWorld (List CallRecord × Fleet ι σ ρ)
  | [] => return ([], fleet)
  | (i, call) :: rest => do
      let (record, next) ← fleet.take i call
      let (records, last) ← takeAll next rest
      return (record :: records, last)

end Fleet

namespace MetricsRegistry

/-- From one registry to another, calls were counted and their latencies were observed. -/
structure RegistersAll (records : List CallRecord) (before after : MetricsRegistry) : Prop where
  get : ∀ counter, counter ≠ .ruleOverwrites →
    after.get counter = before.get counter +
      UInt64.ofNat (records.countP fun record => record.counts counter)
  activeRuns : before.activeRuns = 0 → after.activeRuns = 0
  latency : ∀ which, (after.latency which).count = (before.latency which).count +
    UInt64.ofNat (records.countP fun record => record.observes which)

theorem RegistersAll.nil (metrics : MetricsRegistry) : RegistersAll [] metrics metrics :=
  ⟨fun _ _ => (UInt64.add_zero _).symm, id, fun _ => (UInt64.add_zero _).symm⟩

theorem ofNat_countP_cons (p : CallRecord → Bool) (record : CallRecord)
    (records : List CallRecord) :
    UInt64.ofNat ((record :: records).countP p) =
      (if p record then 1 else 0) + UInt64.ofNat (records.countP p) := by
  rw [List.countP_cons, UInt64.ofNat_add, UInt64.add_comm]
  split <;> rfl

theorem Registers.cons {record : CallRecord} {records : List CallRecord}
    {before during after : MetricsRegistry} (first : Registers record before during)
    (rest : RegistersAll records during after) : RegistersAll (record :: records) before after where
  get counter other := by
    rw [rest.get counter other, first.get counter other, ofNat_countP_cons, UInt64.add_assoc]
  activeRuns idle := rest.activeRuns (first.activeRuns idle)
  latency which := by
    rw [rest.latency, first.latency, ofNat_countP_cons, UInt64.add_assoc]

end MetricsRegistry

namespace Fleet

variable {ι : Type} [DecidableEq ι] {σ ρ : ι → Type}

theorem takeAll_registers (calls : List (ι × ControllerCall)) :
    ∀ (fleet : Fleet ι σ ρ) (world : World),
      let taken := (fleet.takeAll calls).run world
      (∀ record ∈ taken.1.1, record.IsSound) ∧
        MetricsRegistry.RegistersAll taken.1.1 world.metrics taken.2.metrics := by
  induction calls with
  | nil =>
      intro fleet world
      have parts : (fleet.takeAll []).run world = (([], fleet), world) := rfl
      rw [parts]
      exact ⟨List.forall_mem_nil _, .nil world.metrics⟩
  | cons first rest ih =>
      intro fleet world
      obtain ⟨i, call⟩ := first
      let taken := ((fleet i).take call).run world
      let next : Fleet ι σ ρ := Function.update fleet i taken.1.2
      let record := (fleet i).record world.resources call taken.1.1
      let later := (next.takeAll rest).run taken.2
      have parts : (fleet.takeAll ((i, call) :: rest)).run world =
          ((record :: later.1.1, later.1.2), later.2) := rfl
      obtain ⟨sound, registers⟩ := (fleet i).take_registers call world
      obtain ⟨soundRest, registersRest⟩ := ih next taken.2
      rw [parts]
      exact ⟨List.forall_mem_cons.2 ⟨sound, soundRest⟩, registers.cons registersRest⟩

end Fleet

namespace MetricsRegistry

/-- Each run ended in one way. -/
theorem countP_ran (records : List CallRecord) :
    records.countP CallRecord.ran =
      (CallRecord.outcomes.map fun outcome =>
        records.countP fun record => record.ran && record.outcome = outcome).sum := by
  induction records with
  | nil => rfl
  | cons record records ih =>
      have ends : (if record.ran then 1 else 0) = (CallRecord.outcomes.map fun outcome =>
          if record.ran && record.outcome = outcome then 1 else 0).sum := by
        cases record.ran with
        | false => rfl
        | true =>
            have member := record.outcome_mem
            revert member
            cases record.outcome <;> decide
      simp only [CallRecord.outcomes, List.map_cons, List.map_nil, List.sum_cons, List.sum_nil,
        List.countP_cons] at ends ih ⊢
      omega

/-- Runs that came through all stages are those that succeeded. -/
theorem countP_postProcessed {records : List CallRecord}
    (sound : ∀ record ∈ records, record.IsSound) :
    (records.countP fun record => record.ran && record.postProcessed) =
      records.countP fun record => record.counts .runsSucceeded := by
  refine List.countP_congr fun record member => ?_
  cases ran : record.ran with
  | false => simp [CallRecord.counts, ran]
  | true =>
      rw [← sound record member ran]
      cases failed : record.failure with
      | none => simp [CallRecord.counts, CallRecord.outcome, ran, failed]
      | some error =>
          cases error <;>
            simp [CallRecord.counts, CallRecord.outcome, ran, failed, Counter.ofError]

/-- Failures are counted by the kinds of their errors. -/
theorem countP_failedWith {counter : Counter} {kind : ScriptError → Bool}
    (kinds : ∀ error, kind error = decide (Counter.ofError error = counter))
    (failure : counter ≠ .runsSucceeded) (records : List CallRecord) :
    (records.countP fun record => record.ran && record.outcome = counter) =
      records.countP (CallRecord.failedWith kind) := by
  refine List.countP_congr fun record _ => ?_
  unfold CallRecord.failedWith CallRecord.outcome
  cases record.failure with
  | none => simp [failure.symm]
  | some error => simp [kinds]

/-- What was counted and observed since all was zero. -/
theorem RegistersAll.balances {records : List CallRecord} {metrics : MetricsRegistry}
    (registers : RegistersAll records new metrics)
    (sound : ∀ record ∈ records, record.IsSound) : metrics.Balances records := by
  have count (counter : Counter) (other : counter ≠ .ruleOverwrites) : metrics.get counter =
      UInt64.ofNat (records.countP fun record => record.counts counter) := by
    rw [registers.get counter other]
    cases counter <;> exact UInt64.zero_add _
  have observed (which : Latency) : (metrics.latency which).count =
      UInt64.ofNat (records.countP fun record => record.observes which) := by
    rw [registers.latency]
    rcases which with _ | stage
    · exact UInt64.zero_add _
    · cases stage <;> exact UInt64.zero_add _
  have failures {counter : Counter} {kind : ScriptError → Bool}
      (kinds : ∀ error, kind error = decide (Counter.ofError error = counter))
      (failure : counter ≠ .runsSucceeded) :
      UInt64.ofNat (records.countP fun record => record.ran && record.outcome = counter) =
        UInt64.ofNat (records.countP (CallRecord.failedWith kind)) :=
    congrArg UInt64.ofNat (countP_failedWith kinds failure records)
  have total : metrics.get .runsTotal = metrics.get .runsSucceeded + metrics.get .configFailures +
      metrics.get .parseFailures + metrics.get .executionFailures + metrics.get .stageFailures +
        metrics.get .otherFailures := by
    have ran : metrics.get .runsTotal = UInt64.ofNat (records.countP CallRecord.ran) :=
      count .runsTotal (by decide)
    rw [ran, countP_ran, count .runsSucceeded (by decide), count .configFailures (by decide),
      count .parseFailures (by decide), count .executionFailures (by decide),
      count .stageFailures (by decide), count .otherFailures (by decide)]
    simp only [CallRecord.outcomes, List.map_cons, List.map_nil, List.sum_cons, List.sum_nil,
      Nat.add_zero, UInt64.ofNat_add, UInt64.add_assoc]
    rfl
  exact
    { runsTotal := count .runsTotal (by decide)
      outcomes := total
      runLatency := (observed .run).trans (count .runsTotal (by decide)).symm
      activeRuns := registers.activeRuns rfl
      prepareLatency := observed (.stage .prepareExecution)
      preProcessLatency := (observed (.stage .preProcess)).trans
        (observed (.stage .prepareExecution)).symm
      executeLatency := observed (.stage .execute)
      postProcessLatency := observed (.stage .postProcess)
      runsSucceeded := (count .runsSucceeded (by decide)).trans
        (congrArg UInt64.ofNat (countP_postProcessed sound).symm)
      configFailures := (count .configFailures (by decide)).trans
        (failures (fun error => by cases error <;> rfl) (by decide))
      parseFailures := (count .parseFailures (by decide)).trans
        (failures (fun error => by cases error <;> rfl) (by decide))
      executionFailures := (count .executionFailures (by decide)).trans
        (failures (fun error => by cases error <;> rfl) (by decide))
      stageFailures := (count .stageFailures (by decide)).trans
        (failures (fun error => by cases error <;> rfl) (by decide))
      otherFailures := (count .otherFailures (by decide)).trans
        (failures (fun error => by cases error <;> rfl) (by decide))
      disposals := count .disposals (by decide) }

end MetricsRegistry

namespace Fleet

variable {ι : Type} [DecidableEq ι] {σ ρ : ι → Type}

/-- Whatever calls any controllers take, metrics that were fresh before them balance after them. -/
theorem metrics_balance (fleet : Fleet ι σ ρ) (calls : List (ι × ControllerCall)) (world : World) :
    let taken := (fleet.takeAll calls).run { world with metrics := .new }
    taken.2.metrics.Balances taken.1.1 := by
  intro taken
  obtain ⟨sound, registers⟩ := takeAll_registers calls fleet { world with metrics := .new }
  exact registers.balances sound

end Fleet
end StagedScript
