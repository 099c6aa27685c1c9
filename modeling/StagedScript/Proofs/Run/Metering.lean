import StagedScript.Proofs.Metrics.Likeness
import StagedScript.Proofs.Run.Calls

/-!
# What a run observes

Along a run the metrics change by latencies of stages and by replaced rule times, and at its begin
and end by more. Each step of a pass enters the same stages whatever it comes to; which steps a run
makes depends on how far its executor lets it come. So the rules here go along with those on the
effects of computations, and add up the stages that are entered (`InWorld.Accounts`).

**Results.** An attempt enters the stages that its executor lets it come to, and succeeds if all of
them do (`Controller.accounts_attempt`).
-/

namespace StagedScript

namespace MetricsRegistry

/-- The latencies of some stages were observed. Besides, only rule times were replaced. -/
structure Entered (stages : List Stage) (before after : MetricsRegistry) : Prop where
  get : ∀ counter, counter ≠ .ruleOverwrites → after.get counter = before.get counter
  activeRuns : after.activeRuns = before.activeRuns
  runs : (after.latency .run).count = (before.latency .run).count
  stages : ∀ stage, (after.latency (.stage stage)).count =
    (before.latency (.stage stage)).count + UInt64.ofNat (stages.count stage)

namespace Entered

variable {first second third : MetricsRegistry} {stages more : List Stage}

theorem refl (metrics : MetricsRegistry) : Entered [] metrics metrics :=
  ⟨fun _ _ => rfl, rfl, rfl, fun _ => (UInt64.add_zero _).symm⟩

theorem append (left : Entered stages first second) (right : Entered more second third) :
    Entered (stages ++ more) first third where
  get counter other := (right.get counter other).trans (left.get counter other)
  activeRuns := right.activeRuns.trans left.activeRuns
  runs := right.runs.trans left.runs
  stages stage := by
    rw [right.stages, left.stages, List.count_append, UInt64.ofNat_add, UInt64.add_assoc]

theorem observe (metrics : MetricsRegistry) (stage : Stage) (elapsed : Nanoseconds) :
    Entered [stage] metrics (metrics.observe (.stage stage) elapsed) where
  get counter _ := by simp
  activeRuns := by simp
  runs := by simp
  stages other := by
    by_cases same : stage = other
    · subst same
      simp
    · simp [same]

theorem count_ruleOverwrites (metrics : MetricsRegistry) :
    Entered [] metrics (metrics.count .ruleOverwrites) where
  get counter other := by simp [other.symm]
  activeRuns := by simp
  runs := by simp
  stages stage := by simp

end Entered
end MetricsRegistry

namespace InWorld

open MetricsRegistry

variable {α β : Type} {stages more : List Stage}

/-- A computation that enters some stages, whatever it comes to. -/
def Enters (m : InWorld α) (stages : List Stage) : Prop :=
  ∀ world, Entered stages world.metrics (m.run world).2.metrics

theorem enters_pure (a : α) : (pure a : InWorld α).Enters [] :=
  fun world => .refl world.metrics

theorem Enters.bind {m : InWorld α} {f : α → InWorld β} (first : m.Enters stages)
    (next : ∀ a, (f a).Enters more) : (m >>= f).Enters (stages ++ more) :=
  fun world => (first world).append (next _ _)

/-- A computation that does not touch the metrics enters no stage. -/
theorem enters_of_same {m : InWorld α} (same : ∀ world, (m.run world).2.metrics = world.metrics) :
    m.Enters [] := by
  intro world
  rw [same]
  exact .refl _

theorem enters_log (level : LogLevel) (message : String) : (log level message).Enters [] :=
  enters_of_same fun _ => rfl

end InWorld

namespace Profile

open InWorld

theorem enters_harvest (timings : List RuleTiming) :
    ∀ profile : Profile, (profile.harvest timings).Enters [] := by
  induction timings with
  | nil => exact fun profile => enters_pure profile
  | cons timing rest ih =>
      intro profile
      have replaced : (meter fun metrics => metrics.count .ruleOverwrites).Enters [] :=
        fun world => .count_ruleOverwrites world.metrics
      unfold harvest
      split
      · exact (enters_log _ _).bind fun _ => replaced.bind fun _ => ih _
      · exact ih _

theorem enters_endModule (profile : Profile) (timings : Option (List RuleTiming)) :
    (profile.endModule timings).Enters [] := by
  cases timings with
  | none => exact enters_pure profile
  | some timings => exact enters_harvest timings profile

end Profile

namespace Pass

open InWorld

variable {σ ρ α : Type} {reached : LifecycleState}

theorem enters_onProfile (pass : Pass σ ρ reached) {change : Profile → InWorld Profile}
    (enters : ∀ profile, (change profile).Enters []) : (pass.onProfile change).Enters [] := by
  unfold onProfile
  split
  · exact enters_pure _
  · exact (enters _).bind fun _ => enters_pure _

theorem enters_perform (pass : Pass σ ρ reached) (action : Act σ α) :
    (pass.perform action).Enters [] :=
  enters_of_same fun _ => rfl

theorem enters_span (pass : Pass σ ρ reached) (stage : Stage) (action : Act σ α) :
    (pass.span stage action).Enters [stage] := by
  have timed : instant.Enters [] := enters_of_same fun _ => rfl
  have started (profile : Profile) : (profile.recordStart stage.name).Enters [] :=
    enters_of_same fun _ => rfl
  have ended (profile : Profile) : (profile.recordEnd stage.name).Enters [] :=
    enters_of_same fun _ => rfl
  have observed (elapsed : Nanoseconds) :
      (meter fun metrics => metrics.observe (.stage stage) elapsed).Enters [stage] :=
    fun world => .observe world.metrics stage elapsed
  unfold span
  refine timed.bind fun _ => (pass.enters_onProfile started).bind fun opened => ?_
  refine (opened.enters_perform action).bind fun acted => ?_
  refine (acted.2.enters_onProfile ended).bind fun closed => ?_
  refine (enters_of_same fun _ => rfl).bind fun elapsed => ?_
  exact (observed elapsed).bind fun _ => enters_pure _

theorem enters_logFault (lead : String) (error : ScriptError) :
    (logFault lead error).Enters [] := by
  unfold logFault
  split
  · exact enters_log _ _
  · exact enters_pure _

/-! Each step of a pass enters its stages, whether it fails or not. -/

theorem enters_parse (pass : Pass σ ρ .constructed) (source : ResolvedSource) :
    (pass.parse source).run.Enters [] := by
  have logged (records : List LogRecord) : (InWorld.logAll records).Enters [] :=
    enters_of_same fun _ => rfl
  unfold parse
  rw [run_lift_bind]
  refine (pass.enters_perform _).bind ?_
  rintro ⟨fault | accepted, after⟩
  · exact (enters_log _ _).bind fun _ => enters_pure _
  · dsimp only
    split
    · exact (logged _).bind fun _ => enters_pure _
    · split
      · exact (enters_log _ _).bind fun _ => enters_pure _
      · exact enters_pure _

theorem enters_prepare (pass : Pass σ ρ .parsed) (models : List ModelHandle)
    (parameters : Parameters) (delegates : List NativeDelegate) :
    (pass.prepare models parameters delegates).Enters [.prepareExecution] :=
  (pass.enters_span _ _).bind fun _ => enters_pure _

theorem enters_hook (pass : Pass σ ρ reached) (stage : Stage)
    (action : Act σ (Except ScriptError Unit)) (next : LifecycleState) :
    (pass.hook stage action next).run.Enters [stage] := by
  unfold hook
  rw [run_lift_bind]
  refine (pass.enters_span stage action).bind ?_
  rintro ⟨error | _, after⟩
  · exact (enters_logFault _ _).bind fun _ => enters_pure _
  · exact enters_pure _

theorem enters_execute (pass : Pass σ ρ .preProcessed) : pass.execute.run.Enters [.execute] := by
  unfold execute
  rw [run_lift_bind]
  refine (pass.enters_span .execute _).bind ?_
  rintro ⟨error | output, after⟩
  · exact (enters_logFault _ _).bind fun _ => enters_pure _
  · exact enters_pure _

theorem enters_finish (pass : Pass σ ρ .postProcessed) : pass.finish.Enters [] :=
  pass.enters_onProfile fun profile =>
    (profile.enters_endModule _).bind fun _ => enters_of_same fun _ => rfl

end Pass

section Progress

variable {σ ρ α ε : Type}

/-- What an action that can fail leaves, if it succeeds. -/
def Act.success? (action : Act σ (Except ε α)) (state : σ × Resources) : Option (σ × Resources) :=
  match Act.apply action state with
  | (.ok _, after) => some after
  | (.error _, _) => none

/-- What a parse leaves, if the source is accepted and has no problems. -/
def LanguageExecutor.parsed? (executor : LanguageExecutor σ ρ) (source : ResolvedSource)
    (state : σ × Resources) : Option (σ × Resources) :=
  match Act.apply (executor.parse source) state with
  | (.ok true, after) => if executor.problems after.1 = [] then some after else none
  | _ => none

namespace Controller

variable (controller : Controller σ ρ) (resources : Resources)

/-- Hand the inputs of a run over to the executor. -/
def handOver : Act σ Unit := do
  controller.executor.addModels controller.models
  controller.executor.addParameters controller.parameters
  controller.executor.addDelegates controller.delegates

/-! What the executor of a run leaves after each of its stages, if the run comes through it. -/

def parsed? : Option (σ × Resources) :=
  if (validateInputs controller.source controller.parameters).errors = [] then
    controller.source.resolve?.bind fun source =>
      controller.executor.parsed? source
        (Act.apply controller.redirectAll (controller.engine, resources)).2
  else
    none

def preProcessed? : Option (σ × Resources) :=
  (controller.parsed? resources).bind fun parsed =>
    Act.success? controller.executor.preProcess (Act.apply controller.handOver parsed).2

def executed? : Option (σ × Resources) :=
  (controller.preProcessed? resources).bind (Act.success? controller.executor.execute)

def postProcessed? : Option (σ × Resources) :=
  (controller.executed? resources).bind (Act.success? controller.executor.postProcess)

end Controller
end Progress

namespace InWorld

open MetricsRegistry

variable {α β : Type} {resources : Resources} {stages : List Stage}

/-- In every world with these resources, a computation enters some stages, and its value, the
resources that it leaves and these stages are as the postcondition says. -/
def Accounts (m : InWorld α) (resources : Resources) (post : α → Resources → List Stage → Prop) :
    Prop :=
  ∀ world, world.resources = resources → ∃ entered,
    Entered entered world.metrics (m.run world).2.metrics ∧
      post (m.run world).1 (m.run world).2.resources entered

theorem accounts_pure {a : α} {post : α → Resources → List Stage → Prop}
    (holds : post a resources []) : (pure a : InWorld α).Accounts resources post := by
  rintro world rfl
  exact ⟨[], .refl _, holds⟩

theorem Accounts.mono {m : InWorld α} {weak strong : α → Resources → List Stage → Prop}
    (accounts : m.Accounts resources strong)
    (weaken : ∀ a left entered, strong a left entered → weak a left entered) :
    m.Accounts resources weak := by
  intro world same
  obtain ⟨entered, more, holds⟩ := accounts world same
  exact ⟨entered, more, weaken _ _ _ holds⟩

/-- A step enters its stages, and what it comes to decides how it goes on. -/
theorem Accounts.step {m : InWorld α} {f : α → InWorld β} {mid : α → Resources → Prop}
    {post : β → Resources → List Stage → Prop} (enters : m.Enters stages)
    (first : m.Ensures resources mid)
    (next : ∀ a left, mid a left →
      (f a).Accounts left fun b after entered => post b after (stages ++ entered)) :
    (m >>= f).Accounts resources post := by
  intro world same
  obtain ⟨entered, more, holds⟩ := next _ _ (first world same) _ rfl
  exact ⟨stages ++ entered, (enters world).append more, holds⟩

end InWorld

namespace Attempt

open InWorld

variable {σ α β : Type} {resources : Resources} {stages : List Stage}

/-- In an attempt, a step that fails is the last. -/
theorem accounts_step {x : Attempt σ α} {f : α → Attempt σ β}
    {mid : Except (FailedPass σ) α → Resources → Prop}
    {post : Except (FailedPass σ) β → Resources → List Stage → Prop}
    (enters : x.run.Enters stages) (first : x.run.Ensures resources mid)
    (fails : ∀ failed left, mid (.error failed) left → post (.error failed) left stages)
    (passes : ∀ a left, mid (.ok a) left →
      (f a).run.Accounts left fun b after entered => post b after (stages ++ entered)) :
    (x >>= f).run.Accounts resources post := by
  rw [ExceptT.run_bind]
  refine Accounts.step enters first ?_
  rintro (failed | a) left holds
  · refine accounts_pure ?_
    rw [List.append_nil]
    exact fails failed left holds
  · exact passes a left holds

end Attempt

namespace Pass

open InWorld

variable {σ ρ : Type} {reached : LifecycleState} {resources : Resources}

/-- A step of a pass came to what its executor left, if it succeeded. -/
def Comes (executor : LanguageExecutor σ ρ) (after? : Option (σ × Resources)) :
    Except (FailedPass σ) (Pass σ ρ reached) → Resources → Prop
  | .ok pass, left => pass.executor = executor ∧ after? = some (pass.state, left)
  | .error _, _ => after? = none

theorem comes_parse (pass : Pass σ ρ .constructed) (source : ResolvedSource) :
    (pass.parse source).run.Ensures resources
      (Comes pass.executor (pass.executor.parsed? source (pass.state, resources))) := by
  rw [← bind_pure (pass.parse source)]
  refine ensures_parse_bind ?_ ?_ ?_ ?_
  · intro fault after answer
    simp only [Comes, LanguageExecutor.parsed?, answer]
  · intro accepted after answer found
    cases accepted <;> simp [Comes, LanguageExecutor.parsed?, answer, found]
  · intro after answer clean
    simp only [Comes, LanguageExecutor.parsed?, answer]
  · intro after answer clean
    refine ensures_pure ⟨rfl, ?_⟩
    simp [LanguageExecutor.parsed?, answer, clean]

theorem comes_hook (pass : Pass σ ρ reached) (stage : Stage)
    (action : Act σ (Except ScriptError Unit)) (next : LifecycleState) :
    (pass.hook stage action next).run.Ensures resources
      (Comes pass.executor (Act.success? action (pass.state, resources))) := by
  rw [← bind_pure (pass.hook stage action next)]
  refine ensures_hook_bind ?_ ?_
  · intro error after profile answer
    simp only [Comes, Act.success?, answer]
  · intro after profile answer
    refine ensures_pure ⟨rfl, ?_⟩
    simp only [Act.success?, answer]

theorem comes_execute (pass : Pass σ ρ .preProcessed) :
    pass.execute.run.Ensures resources fun executed =>
      Comes pass.executor (Act.success? pass.executor.execute (pass.state, resources))
        (executed.map Prod.snd) := by
  rw [← bind_pure pass.execute]
  refine ensures_execute_bind ?_ ?_
  · intro error after profile answer
    simp only [Comes, Act.success?, answer, Except.map]
  · intro output after profile answer
    refine ensures_pure ⟨rfl, ?_⟩
    simp only [Act.success?, answer]

end Pass

namespace Controller

open InWorld Pass

variable {σ ρ : Type}

/-- Whether a run enters a stage. -/
def enters (controller : Controller σ ρ) (resources : Resources) : Stage → Bool
  | .prepareExecution => (controller.parsed? resources).isSome
  | .preProcess => (controller.parsed? resources).isSome
  | .execute => (controller.preProcessed? resources).isSome
  | .postProcess => (controller.executed? resources).isSome

section Stops

variable {controller : Controller σ ρ} {resources : Resources}

theorem preProcessed?_of_parsed? (stops : controller.parsed? resources = none) :
    controller.preProcessed? resources = none := by
  rw [preProcessed?, stops]
  rfl

theorem executed?_of_preProcessed? (stops : controller.preProcessed? resources = none) :
    controller.executed? resources = none := by
  rw [executed?, stops]
  rfl

theorem postProcessed?_of_executed? (stops : controller.executed? resources = none) :
    controller.postProcessed? resources = none := by
  rw [postProcessed?, stops]
  rfl

end Stops

/-- What the rest of an attempt comes to from some stages on: those are entered that its executor
lets it come to, and it succeeds if it comes through the last. -/
def Accounted (controller : Controller σ ρ) (resources : Resources) (stages : List Stage)
    (attempt : Except (FailedPass σ) (ρ × Pass σ ρ .postProcessed)) (_ : Resources)
    (entered : List Stage) : Prop :=
  entered = stages.filter (controller.enters resources) ∧
    attempt.isOk = (controller.postProcessed? resources).isSome

theorem ensures_prepare_handOver (controller : Controller σ ρ) {pass : Pass σ ρ .parsed}
    (same : pass.executor = controller.executor) (resources : Resources) :
    (pass.prepare controller.models controller.parameters controller.delegates).Ensures resources
      fun prepared left => prepared.executor = controller.executor ∧
        (prepared.state, left) = (Act.apply controller.handOver (pass.state, resources)).2 := by
  rw [← bind_pure (pass.prepare _ _ _)]
  refine ensures_prepare_bind fun after profile handed => ensures_pure ⟨same, ?_⟩
  rw [same] at handed
  exact handed

section Rests

variable {controller : Controller σ ρ} {resources left : Resources} {stages : List Stage}

/-- An attempt that fails in a stage entered that stage and none after it. -/
theorem accounted_stop (stops : controller.postProcessed? resources = none)
    {entered : List Stage} (only : stages.filter (controller.enters resources) = entered)
    (failed : FailedPass σ) (left : Resources) :
    controller.Accounted resources stages (.error failed) left entered := by
  refine ⟨only.symm, ?_⟩
  rw [stops]
  rfl

theorem accounts_fromExecuted {executed : Pass σ ρ .executed} (output : ρ)
    (same : executed.executor = controller.executor)
    (came : controller.executed? resources = some (executed.state, left)) :
    (do
      let postProcessed ← executed.postProcess
      return (output, ← postProcessed.finish) : Attempt σ _).run.Accounts left
      (controller.Accounted resources [.postProcess]) := by
  have entered : controller.enters resources .postProcess = true := by
    rw [enters, came]
    rfl
  have only : [Stage.postProcess].filter (controller.enters resources) = [.postProcess] :=
    List.filter_cons_of_pos entered
  have answer : controller.postProcessed? resources =
      Act.success? executed.executor.postProcess (executed.state, left) := by
    rw [postProcessed?, came, same]
    rfl
  refine Attempt.accounts_step (executed.enters_hook _ _ _) (executed.comes_hook _ _ _) ?_ ?_
  · intro failed after stops
    exact accounted_stop (answer.trans stops) only failed after
  rintro postProcessed after ⟨-, success⟩
  have finishes : postProcessed.finish.Ensures after fun _ _ => True := fun _ _ => trivial
  rw [run_lift_bind]
  refine Accounts.step postProcessed.enters_finish finishes fun finished last _ => ?_
  refine accounts_pure ⟨only.symm, ?_⟩
  rw [answer, success]
  rfl

theorem accounts_fromPreProcessed {preProcessed : Pass σ ρ .preProcessed}
    (same : preProcessed.executor = controller.executor)
    (came : controller.preProcessed? resources = some (preProcessed.state, left)) :
    (do
      let (output, executed) ← preProcessed.execute
      let postProcessed ← executed.postProcess
      return (output, ← postProcessed.finish) : Attempt σ _).run.Accounts left
      (controller.Accounted resources [.execute, .postProcess]) := by
  have entered : controller.enters resources .execute = true := by
    rw [enters, came]
    rfl
  have answer : controller.executed? resources =
      Act.success? preProcessed.executor.execute (preProcessed.state, left) := by
    rw [executed?, came, same]
    rfl
  refine Attempt.accounts_step preProcessed.enters_execute preProcessed.comes_execute ?_ ?_
  · intro failed after stops
    have executed := answer.trans stops
    refine accounted_stop (postProcessed?_of_executed? executed) ?_ failed after
    rw [List.filter_cons_of_pos entered]
    simp [enters, executed]
  rintro ⟨output, executed⟩ after ⟨sameExecuted, success⟩
  refine (accounts_fromExecuted output (sameExecuted.trans same) (answer.trans success)).mono ?_
  rintro attempt last rest ⟨rfl, ok⟩
  exact ⟨(List.filter_cons_of_pos entered).symm, ok⟩

theorem accounts_fromParsed {parsed : Pass σ ρ .parsed}
    (same : parsed.executor = controller.executor)
    (came : controller.parsed? resources = some (parsed.state, left)) :
    (do
      let prepared ← parsed.prepare controller.models controller.parameters controller.delegates
      let preProcessed ← prepared.preProcess
      let (output, executed) ← preProcessed.execute
      let postProcessed ← executed.postProcess
      return (output, ← postProcessed.finish) : Attempt σ _).run.Accounts left
      (controller.Accounted resources Stage.all) := by
  have prepares : controller.enters resources .prepareExecution = true := by
    rw [enters, came]
    rfl
  have preProcesses : controller.enters resources .preProcess = true := prepares
  have begun : Stage.all.filter (controller.enters resources) = [.prepareExecution, .preProcess] ++
      [.execute, .postProcess].filter (controller.enters resources) := by
    simp [Stage.all, List.filter_cons_of_pos, prepares, preProcesses]
  rw [run_lift_bind]
  refine Accounts.step (parsed.enters_prepare _ _ _)
    (controller.ensures_prepare_handOver same left) ?_
  rintro prepared after ⟨samePrepared, handed⟩
  have answer : controller.preProcessed? resources =
      Act.success? prepared.executor.preProcess (prepared.state, after) := by
    rw [preProcessed?, came, samePrepared, handed]
    rfl
  refine Attempt.accounts_step (prepared.enters_hook _ _ _) (prepared.comes_hook _ _ _) ?_ ?_
  · intro failed last stops
    have preProcessed := answer.trans stops
    have executed := executed?_of_preProcessed? preProcessed
    refine accounted_stop (postProcessed?_of_executed? executed) ?_ failed last
    simp [begun, enters, preProcessed, executed]
  rintro preProcessed last ⟨samePreProcessed, success⟩
  refine (accounts_fromPreProcessed (samePreProcessed.trans samePrepared)
    (answer.trans success)).mono ?_
  rintro attempt final rest ⟨rfl, ok⟩
  exact ⟨begun.symm, ok⟩

/-- An attempt that does not come through the parse enters no stage. -/
theorem accounted_unparsed (stops : controller.parsed? resources = none) (failed : FailedPass σ)
    (left : Resources) : controller.Accounted resources Stage.all (.error failed) left [] := by
  have preProcessed := preProcessed?_of_parsed? stops
  have executed := executed?_of_preProcessed? preProcessed
  refine accounted_stop (postProcessed?_of_executed? executed) ?_ failed left
  simp [Stage.all, enters, stops, preProcessed, executed]

theorem accounts_lead {pass : Pass σ ρ .constructed} {source : ResolvedSource}
    (same : pass.executor = controller.executor)
    (comes : controller.parsed? resources = controller.executor.parsed? source (pass.state, left)) :
    (controller.lead pass source).run.Accounts left (controller.Accounted resources Stage.all) := by
  have answer : controller.parsed? resources =
      pass.executor.parsed? source (pass.state, left) := by
    rw [comes, same]
  unfold lead
  refine Attempt.accounts_step (pass.enters_parse source) (pass.comes_parse source) ?_ ?_
  · intro failed after stops
    exact accounted_unparsed (answer.trans stops) failed after
  rintro parsed after ⟨sameParsed, success⟩
  exact accounts_fromParsed (sameParsed.trans same) (answer.trans success)

end Rests

theorem enters_validate (controller : Controller σ ρ) : controller.validate.run.Enters [] := by
  have checked : (ofLogged (validateInputs controller.source controller.parameters).toResult).Enters
      [] := enters_of_same fun _ => rfl
  unfold validate
  rw [run_lift_bind]
  refine checked.bind fun result => ?_
  cases result with
  | ok warnings => exact enters_pure _
  | error error => exact enters_pure _

theorem ensures_validate (controller : Controller σ ρ) (resources : Resources) :
    controller.validate.run.Ensures resources fun checked left => left = resources ∧
      (checked.isOk = true ↔
        (validateInputs controller.source controller.parameters).errors = []) := by
  unfold validate
  rw [run_lift_bind]
  refine ensures_ofLogged_bind ?_
  by_cases valid : (validateInputs controller.source controller.parameters).errors = []
  · simp only [ValidationReport.toResult, ValidationReport.isValid, valid, List.isEmpty_nil,
      if_true]
    exact ensures_pure ⟨rfl, fun _ => trivial, fun _ => rfl⟩
  · simp only [ValidationReport.toResult, ValidationReport.isValid, valid, List.isEmpty_iff,
      if_false]
    exact ensures_pure ⟨rfl, fun passed => (Bool.false_ne_true passed).elim, False.elim⟩

theorem enters_openPass (controller : Controller σ ρ) : controller.openPass.Enters [] := by
  unfold openPass
  refine (Pass.enters_onProfile _ fun profile => enters_of_same fun _ => rfl).bind fun started => ?_
  exact (started.enters_perform _).bind fun _ => enters_pure _

theorem ensures_openPass (controller : Controller σ ρ) (resources : Resources) :
    controller.openPass.Ensures resources fun pass left => pass.executor = controller.executor ∧
      (Act.apply controller.redirectAll (controller.engine, resources)).2 = (pass.state, left) := by
  rw [← bind_pure controller.openPass]
  refine ensures_openPass_bind fun after profile redirected => ensures_pure ⟨rfl, ?_⟩
  rw [redirected]

/-- An attempt enters the stages that its executor lets it come to, and succeeds if it comes through
all of them. -/
theorem accounts_attempt (controller : Controller σ ρ) (resources : Resources) :
    controller.attempt.run.Accounts resources (controller.Accounted resources Stage.all) := by
  unfold attempt
  refine Attempt.accounts_step controller.enters_validate
    (controller.ensures_validate resources) ?_ ?_
  · rintro failed left ⟨rfl, refused⟩
    refine accounted_unparsed (if_neg fun valid => ?_) failed left
    have ok := refused.2 valid
    cases ok
  rintro _ left ⟨rfl, accepted⟩
  have valid := accepted.1 rfl
  obtain ⟨source, resolved⟩ := exists_resolve_of_valid valid
  rw [run_lift_bind, resolved]
  refine Accounts.step controller.enters_openPass (controller.ensures_openPass left) ?_
  rintro pass after ⟨same, redirected⟩
  refine accounts_lead same ?_
  rw [parsed?, if_pos valid, resolved, redirected]
  rfl

/-- The metrics of a run: its begin, the stages that its executor lets it come to, and its end. -/
theorem run_metrics (controller : Controller σ ρ) (fresh : controller.state = .constructed)
    (world : World) :
    let run := controller.run.run world
    ∃ elapsed during,
      MetricsRegistry.Entered (Stage.all.filter (controller.enters world.resources))
        world.metrics.recordRunStart during ∧
      run.1.1.isOk = (controller.postProcessed? world.resources).isSome ∧
      run.2.metrics = match run.1.1 with
        | .ok _ => during.recordSuccess elapsed
        | .error error => during.recordFailure error elapsed := by
  intro run
  have bound {α β : Type} (m : InWorld α) (f : α → InWorld β) (world : World) :
      (m >>= f).run world = (f (m.run world).1).run (m.run world).2 := rfl
  have same : run = controller.run.run world := rfl
  unfold Controller.run at same
  rw [if_neg (by simp [fresh])] at same
  rw [bound, bound, bound, bound, bound (ExceptT.run _)] at same
  generalize opens : (InWorld.instant.run _).2 = opened at same
  obtain ⟨entered, during, rfl, ok⟩ :=
    controller.accounts_attempt world.resources opened (by rw [← opens]; rfl)
  have started : opened.metrics = world.metrics.recordRunStart := by
    rw [← opens]
    rfl
  rw [started] at during
  rcases attempted : controller.attempt.run.run opened with ⟨failed | ⟨output, pass⟩, after⟩
  · rw [attempted] at same during ok
    rw [same]
    exact ⟨_, _, during, ok, rfl⟩
  · rw [attempted] at same during ok
    rw [same]
    exact ⟨_, _, during, ok, rfl⟩

end Controller
end StagedScript
