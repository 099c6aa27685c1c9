import StagedScript.Engine.Canned
import StagedScript.Executor.Rules
import StagedScript.Proofs.Profile.Harvests
import StagedScript.Proofs.Run.Metering
import StagedScript.Proofs.Run.OneShot

/-!
# What a profile says of its run

Where a run ends is for its executor to say: at its inputs, at its parse, in a stage that fails, or
after the last one (`Controller.runEnd`). The profile follows the run: it is begun once the inputs
are accepted, it has the stages that were ended so far while the run goes on (`Profile.Begun`), and
only a run that comes through is harvested and closed.

Each step of a pass ends its stage in the profile whether it fails or not, so there is one rule for
each step that says what became of the profile. It goes along with the rule that says what the step
came to.

**Results.** The profile of a run says where the run ended, and a redirection makes a new one
(`RunPlan.profile_of_run`).
-/

namespace StagedScript

/-- Where a run ends. -/
inductive RunEnd where
  /-- The inputs are not accepted. -/
  | refused
  /-- The source is not parsed, or has problems. -/
  | unparsed
  | failed (stage : Stage)
  | completed
deriving DecidableEq

/-- The stages that a run enters: all up to one that fails, which is entered too. -/
def RunEnd.stages : RunEnd → List Stage
  | .refused => []
  | .unparsed => []
  | .failed stage => Stage.all.takeWhile (fun other => other ≠ stage) ++ [stage]
  | .completed => Stage.all

theorem Stage.name_injective : Function.Injective Stage.name := by
  intro first second
  cases first <;> cases second <;> decide

theorem RunEnd.nodup_stages (ended : RunEnd) : (ended.stages.map Stage.name).Nodup := by
  refine List.Nodup.map Stage.name_injective ?_
  rcases ended with _ | _ | stage | _
  · exact List.nodup_nil
  · exact List.nodup_nil
  · cases stage <;> decide
  · decide

namespace Profile

open InWorld

/-- A profile of a run that goes on, with the stages that were ended so far. -/
structure Begun (profile : Profile) (stages : List Stage) : Prop where
  start : profile.start.isSome
  startedAt : profile.startedAt.isSome
  stages : profile.stages.map Prod.fst = stages.map Stage.name
  total : profile.total = none
  finishedAt : profile.finishedAt = none
  rules : profile.rules = []
  ruleOverwrites : profile.ruleOverwrites = 0

/-- What a profile says of a run that ended somewhere and left an engine with timings of rules. -/
structure Tells (profile : Profile) (ended : RunEnd) (timings : List RuleTiming) : Prop where
  start : profile.start.isSome ↔ ended ≠ .refused
  startedAt : profile.startedAt.isSome ↔ ended ≠ .refused
  stages : profile.stages.map Prod.fst = ended.stages.map Stage.name
  once : (profile.stages.map Prod.fst).Nodup
  total : profile.total.isSome ↔ ended = .completed
  finishedAt : profile.finishedAt.isSome ↔ ended = .completed
  harvested : ended = .completed → profile.Merged timings
  unharvested : ended ≠ .completed → profile.rules = [] ∧ profile.ruleOverwrites = 0

/-- A key that is set for the first time stands at the end. -/
theorem map_fst_setEntry {key : String} {entries : List (String × Nanoseconds)}
    (unused : key ∉ entries.map Prod.fst) (value : Nanoseconds) :
    (setEntry key value entries).map Prod.fst = entries.map Prod.fst ++ [key] := by
  induction entries with
  | nil => rfl
  | cons entry rest ih =>
      obtain ⟨other, unusedLater⟩ := not_or.1 (mt List.mem_cons.2 unused)
      rw [setEntry, if_neg (Ne.symm other), List.map_cons, ih unusedLater]
      rfl

theorem begun_begin (host : HostMetadata) (now : Nanoseconds) (date : String) :
    ((new host).begin_ now date).Begun [] :=
  ⟨rfl, rfl, rfl, rfl, rfl, rfl, rfl⟩

/-- A stage is recorded once it is ended. -/
theorem Begun.record {profile : Profile} {stages : List Stage} (begun : profile.Begun stages)
    {stage : Stage} (unseen : stage ∉ stages) (opened closed : Nanoseconds) :
    ((profile.startStage stage.name opened).endStage stage.name closed).Begun
      (stages ++ [stage]) := by
  have unused : stage.name ∉ profile.stages.map Prod.fst := by
    rw [begun.stages, List.mem_map_of_injective Stage.name_injective]
    exact unseen
  refine ⟨begun.start, begun.startedAt, ?_, begun.total, begun.finishedAt, begun.rules,
    begun.ruleOverwrites⟩
  rw [List.map_append, ← begun.stages]
  exact map_fst_setEntry unused _

/-- A run that ends in between leaves the profile as it is. -/
theorem Begun.tells {profile : Profile} {ended : RunEnd} (begun : profile.Begun ended.stages)
    (entered : ended ≠ .refused) (short : ended ≠ .completed) (timings : List RuleTiming) :
    profile.Tells ended timings where
  start := iff_of_true begun.start entered
  startedAt := iff_of_true begun.startedAt entered
  stages := begun.stages
  once := begun.stages ▸ ended.nodup_stages
  total := by simp [begun.total, short]
  finishedAt := by simp [begun.finishedAt, short]
  harvested done := absurd done short
  unharvested _ := ⟨begun.rules, begun.ruleOverwrites⟩

theorem tells_new (host : HostMetadata) (timings : List RuleTiming) :
    (new host).Tells .refused timings where
  start := by simp [new]
  startedAt := by simp [new]
  stages := rfl
  once := List.nodup_nil
  total := by simp [new]
  finishedAt := by simp [new]
  harvested done := nomatch done
  unharvested _ := ⟨rfl, rfl⟩

/-- A run that came through all stages is harvested and closed. -/
theorem Begun.tells_finish {profile : Profile} (begun : profile.Begun Stage.all)
    (timings : List RuleTiming) (now : Nanoseconds) (date : String) :
    ((profile.merge timings).finish now date).Tells .completed timings where
  start := iff_of_true begun.start (by decide)
  startedAt := iff_of_true begun.startedAt (by decide)
  stages := begun.stages
  once := begun.stages ▸ RunEnd.nodup_stages .completed
  total := iff_of_true rfl rfl
  finishedAt := iff_of_true rfl rfl
  harvested _ := by
    have merged := merged_merge begun.rules begun.ruleOverwrites timings
    exact ⟨merged.ascending, merged.latest, merged.overwrites⟩
  unharvested short := absurd rfl short

end Profile

section Results

variable {σ ρ : Type} {reached : LifecycleState}

/-- The profile of what a step came to. -/
def Pass.profileOf : Except (FailedPass σ) (Pass σ ρ reached) → Option Profile
  | .ok pass => pass.profile
  | .error failed => failed.profile

/-- There is a profile of a run that goes on, with the stages that were ended so far. -/
def Profile.BegunIn (profile : Option Profile) (stages : List Stage) : Prop :=
  ∃ begun, profile = some begun ∧ begun.Begun stages

end Results

namespace Attempt

open InWorld

variable {σ α β : Type} {resources : Resources}

/-- In an attempt, a step that fails is the last. -/
theorem ensures_step {x : Attempt σ α} {f : α → Attempt σ β}
    {mid : Except (FailedPass σ) α → Resources → Prop}
    {post : Except (FailedPass σ) β → Resources → Prop} (first : x.run.Ensures resources mid)
    (fails : ∀ failed left, mid (.error failed) left → post (.error failed) left)
    (passes : ∀ a left, mid (.ok a) left → (f a).run.Ensures left post) :
    (x >>= f).run.Ensures resources post := by
  rw [ExceptT.run_bind]
  refine first.bind ?_
  rintro (failed | a) left holds
  · exact ensures_pure (fails failed left holds)
  · exact passes a left holds

end Attempt

namespace Pass

open InWorld Profile

variable {σ ρ α β : Type} {reached : LifecycleState} {pass : Pass σ ρ reached}
  {resources : Resources}

/-- With a profile, it is changed. -/
theorem onProfile_some {profile : Profile} (held : pass.profile = some profile)
    (change : Profile → InWorld Profile) :
    pass.onProfile change = do return { pass with profile := some (← change profile) } := by
  rw [onProfile, held]

/-! Each step ends its stage in the profile, whether it fails or not. -/

theorem begunIn_span {stages : List Stage} (begun : BegunIn pass.profile stages) {stage : Stage}
    (unseen : stage ∉ stages) (action : Act σ α) :
    (pass.span stage action).Ensures resources fun spanned _ =>
      BegunIn spanned.2.profile (stages ++ [stage]) := by
  obtain ⟨profile, held, begun⟩ := begun
  unfold span
  rw [onProfile_some held]
  unfold recordStart recordEnd
  simp only [bind_assoc, pure_bind]
  refine aside_instant.ensures_bind fun started => aside_instant.ensures_bind fun opened => ?_
  refine ensures_perform_bind ?_
  rw [onProfile_some rfl]
  simp only [bind_assoc, pure_bind]
  refine aside_instant.ensures_bind fun closed => ?_
  refine (aside_elapsedSince started).ensures_bind fun elapsed => ?_
  refine (aside_meter _).ensures_bind fun _ => ensures_pure ?_
  exact ⟨_, rfl, begun.record unseen opened closed⟩

theorem begunIn_prepare {pass : Pass σ ρ .parsed} (begun : BegunIn pass.profile [])
    (models : List ModelHandle) (parameters : Parameters) (delegates : List NativeDelegate) :
    (pass.prepare models parameters delegates).Ensures resources fun prepared _ =>
      BegunIn prepared.profile [.prepareExecution] := by
  unfold prepare
  refine (begunIn_span begun List.not_mem_nil _).bind ?_
  rintro ⟨_, spanned⟩ left begun
  exact ensures_pure begun

theorem begunIn_hook {stages : List Stage} (begun : BegunIn pass.profile stages) {stage : Stage}
    (unseen : stage ∉ stages) (action : Act σ (Except ScriptError Unit)) (next : LifecycleState) :
    (pass.hook stage action next).run.Ensures resources fun hooked _ =>
      BegunIn (profileOf hooked) (stages ++ [stage]) := by
  unfold hook
  rw [run_lift_bind]
  refine (begunIn_span begun unseen action).bind ?_
  rintro ⟨error | _, spanned⟩ left begun
  · exact (aside_logFault _ _).ensures_bind fun _ => ensures_pure begun
  · exact ensures_pure begun

theorem begunIn_execute {pass : Pass σ ρ .preProcessed} {stages : List Stage}
    (begun : BegunIn pass.profile stages) (unseen : .execute ∉ stages) :
    pass.execute.run.Ensures resources fun executed _ =>
      BegunIn (profileOf (executed.map Prod.snd)) (stages ++ [.execute]) := by
  unfold execute
  rw [run_lift_bind]
  refine (begunIn_span begun unseen _).bind ?_
  rintro ⟨error | output, spanned⟩ left begun
  · exact (aside_logFault _ _).ensures_bind fun _ => ensures_pure begun
  · exact ensures_pure begun

/-- A parse is no stage. -/
theorem begunIn_parse {pass : Pass σ ρ .constructed} {stages : List Stage}
    (begun : BegunIn pass.profile stages) (source : ResolvedSource) :
    (pass.parse source).run.Ensures resources fun parsed _ =>
      BegunIn (profileOf parsed) stages := by
  rw [← bind_pure (pass.parse source)]
  refine ensures_parse_bind ?_ ?_ ?_ ?_
  · exact fun _ _ _ => begun
  · exact fun _ _ _ _ => begun
  · exact fun _ _ _ => begun
  · exact fun _ _ _ => ensures_pure begun

/-- A pass that came through all stages is harvested and closed. -/
theorem tells_finish {pass : Pass σ ρ .postProcessed} (begun : BegunIn pass.profile Stage.all) :
    pass.finish.Ensures resources fun finished _ => finished.state = pass.state ∧
      ∃ profile, finished.profile = some profile ∧
        profile.Tells .completed ((pass.executor.ruleTimings pass.state).getD []) := by
  obtain ⟨profile, held, begun⟩ := begun
  have harvested (profile : Profile) (timings : Option (List RuleTiming)) :
      (profile.endModule timings).Ensures resources fun merged left =>
        merged = profile.merge (timings.getD []) ∧ left = resources := by
    rintro world rfl
    refine ⟨?_, profile.aside_endModule timings world⟩
    cases timings with
    | none => rfl
    | some timings => exact congrArg Prod.fst (run_harvest timings profile world)
  unfold finish
  rw [onProfile_some held]
  simp only [bind_assoc]
  refine (harvested profile _).bind ?_
  rintro _ _ ⟨rfl, rfl⟩
  unfold logEnd
  simp only [bind_assoc, pure_bind]
  refine aside_instant.ensures_bind fun now => aside_date.ensures_bind fun date => ?_
  refine (aside_logAll _).ensures_bind fun _ => ensures_pure ⟨rfl, _, rfl, ?_⟩
  exact begun.tells_finish _ now date

end Pass

namespace Controller

open InWorld Pass Profile

variable {σ ρ : Type}

/-- Where a run of a controller ends, by what its executor does with its inputs. -/
def runEnd (controller : Controller σ ρ) (resources : Resources) : RunEnd :=
  if (validateInputs controller.source controller.parameters).errors ≠ [] then .refused
  else if (controller.parsed? resources).isNone then .unparsed
  else if (controller.preProcessed? resources).isNone then .failed .preProcess
  else if (controller.executed? resources).isNone then .failed .execute
  else if (controller.postProcessed? resources).isNone then .failed .postProcess
  else .completed

/-- What an attempt came to agrees with where the run ends, and so does its profile. -/
def Told (controller : Controller σ ρ) (resources : Resources) :
    Except (FailedPass σ) (ρ × Pass σ ρ .postProcessed) → Resources → Prop
  | .ok (_, pass), _ => controller.runEnd resources = .completed ∧ ∃ profile,
      pass.profile = some profile ∧
        profile.Tells .completed ((controller.executor.ruleTimings pass.state).getD [])
  | .error failed, _ => controller.runEnd resources ≠ .completed ∧ ∃ profile,
      failed.profile = some profile ∧
        ∀ timings, profile.Tells (controller.runEnd resources) timings

section Rests

variable {controller : Controller σ ρ} {resources left : Resources}

/-- An attempt that ends in between has the stages that were ended so far in its profile. -/
theorem told_stop {ended : RunEnd} (ends : controller.runEnd resources = ended)
    (entered : ended ≠ .refused) (short : ended ≠ .completed) {failed : FailedPass σ}
    (begun : BegunIn failed.profile ended.stages) :
    controller.Told resources (.error failed) left := by
  obtain ⟨profile, held, begun⟩ := begun
  subst ends
  exact ⟨short, profile, held, begun.tells entered short⟩

/-- An attempt whose stage does not come through ends there. -/
theorem told_failed {stage : Stage} {next : RunEnd} {after? : Option (σ × Resources)}
    (ends : controller.runEnd resources = if after?.isNone then .failed stage else next)
    (stops : after? = none) {failed : FailedPass σ}
    (begun : BegunIn failed.profile (RunEnd.failed stage).stages) :
    controller.Told resources (.error failed) left := by
  rw [stops] at ends
  exact told_stop ends RunEnd.noConfusion RunEnd.noConfusion begun

/-! The rest of an attempt from some stage on. What is left of the question where the run ends is
carried along. -/

theorem told_fromExecuted {executed : Pass σ ρ .executed} (output : ρ)
    (same : executed.executor = controller.executor)
    (came : controller.executed? resources = some (executed.state, left))
    (begun : BegunIn executed.profile [.prepareExecution, .preProcess, .execute])
    (ends : controller.runEnd resources =
      if (controller.postProcessed? resources).isNone then .failed .postProcess else .completed) :
    (do
      let postProcessed ← executed.postProcess
      return (output, ← postProcessed.finish) : Attempt σ _).run.Ensures left
      (controller.Told resources) := by
  have answer : controller.postProcessed? resources =
      Act.success? executed.executor.postProcess (executed.state, left) := by
    rw [postProcessed?, came, same]
    rfl
  refine Attempt.ensures_step
    ((executed.comes_hook _ _ _).and (begunIn_hook begun (by decide) _ _)) ?_ ?_
  · rintro failed after ⟨stops, begun⟩
    exact told_failed ends (answer.trans stops) begun
  · rintro postProcessed after ⟨⟨samePostProcessed, success⟩, begun⟩
    rw [answer, success] at ends
    rw [run_lift_bind]
    refine (tells_finish begun).bind ?_
    rintro finished last ⟨kept, profile, held, tells⟩
    rw [samePostProcessed, same, ← kept] at tells
    exact ensures_pure ⟨ends, profile, held, tells⟩

theorem told_fromPreProcessed {preProcessed : Pass σ ρ .preProcessed}
    (same : preProcessed.executor = controller.executor)
    (came : controller.preProcessed? resources = some (preProcessed.state, left))
    (begun : BegunIn preProcessed.profile [.prepareExecution, .preProcess])
    (ends : controller.runEnd resources =
      if (controller.executed? resources).isNone then .failed .execute
      else if (controller.postProcessed? resources).isNone then .failed .postProcess
      else .completed) :
    (do
      let (output, executed) ← preProcessed.execute
      let postProcessed ← executed.postProcess
      return (output, ← postProcessed.finish) : Attempt σ _).run.Ensures left
      (controller.Told resources) := by
  have answer : controller.executed? resources =
      Act.success? preProcessed.executor.execute (preProcessed.state, left) := by
    rw [executed?, came, same]
    rfl
  refine Attempt.ensures_step
    (preProcessed.comes_execute.and (begunIn_execute begun (by decide))) ?_ ?_
  · rintro failed after ⟨stops, begun⟩
    exact told_failed ends (answer.trans stops) begun
  · rintro ⟨output, executed⟩ after ⟨⟨sameExecuted, success⟩, begun⟩
    have passed := answer.trans success
    rw [passed] at ends
    exact told_fromExecuted output (sameExecuted.trans same) passed begun ends

theorem told_fromParsed {parsed : Pass σ ρ .parsed}
    (same : parsed.executor = controller.executor)
    (came : controller.parsed? resources = some (parsed.state, left))
    (begun : BegunIn parsed.profile [])
    (ends : controller.runEnd resources =
      if (controller.preProcessed? resources).isNone then .failed .preProcess
      else if (controller.executed? resources).isNone then .failed .execute
      else if (controller.postProcessed? resources).isNone then .failed .postProcess
      else .completed) :
    (do
      let prepared ← parsed.prepare controller.models controller.parameters controller.delegates
      let preProcessed ← prepared.preProcess
      let (output, executed) ← preProcessed.execute
      let postProcessed ← executed.postProcess
      return (output, ← postProcessed.finish) : Attempt σ _).run.Ensures left
      (controller.Told resources) := by
  rw [run_lift_bind]
  refine ((controller.ensures_prepare_handOver same left).and
    (begunIn_prepare begun _ _ _)).bind ?_
  rintro prepared after ⟨⟨samePrepared, handed⟩, begun⟩
  have answer : controller.preProcessed? resources =
      Act.success? prepared.executor.preProcess (prepared.state, after) := by
    rw [preProcessed?, came, samePrepared, handed]
    rfl
  refine Attempt.ensures_step
    ((prepared.comes_hook _ _ _).and (begunIn_hook begun (by decide) _ _)) ?_ ?_
  · rintro failed last ⟨stops, begun⟩
    exact told_failed ends (answer.trans stops) begun
  · rintro preProcessed last ⟨⟨samePreProcessed, success⟩, begun⟩
    have passed := answer.trans success
    rw [passed] at ends
    exact told_fromPreProcessed (samePreProcessed.trans samePrepared) passed begun ends

theorem told_lead {pass : Pass σ ρ .constructed} {source : ResolvedSource}
    (valid : (validateInputs controller.source controller.parameters).errors = [])
    (same : pass.executor = controller.executor)
    (comes : controller.parsed? resources = controller.executor.parsed? source (pass.state, left))
    (begun : BegunIn pass.profile []) :
    (controller.lead pass source).run.Ensures left (controller.Told resources) := by
  have answer : controller.parsed? resources =
      pass.executor.parsed? source (pass.state, left) := by
    rw [comes, same]
  unfold lead
  refine Attempt.ensures_step
    ((pass.comes_parse source).and (begunIn_parse begun source)) ?_ ?_
  · rintro failed after ⟨stops, begun⟩
    have stopped : controller.runEnd resources = .unparsed := by
      simp [runEnd, valid, answer.trans stops]
    exact told_stop stopped (by decide) (by decide) begun
  · rintro parsed after ⟨⟨sameParsed, success⟩, begun⟩
    have passed := answer.trans success
    refine told_fromParsed (sameParsed.trans same) passed begun ?_
    simp [runEnd, valid, passed]

end Rests

/-- A validation leaves the profile alone. -/
theorem ensures_validate_profile (controller : Controller σ ρ) (resources : Resources) :
    controller.validate.run.Ensures resources fun checked _ =>
      ∀ failed, checked = .error failed → failed.profile = controller.profile := by
  unfold validate
  rw [run_lift_bind]
  refine ensures_ofLogged_bind ?_
  generalize (validateInputs controller.source controller.parameters).toResult.value = result
  cases result with
  | ok warnings =>
      refine ensures_pure fun failed isFailed => ?_
      cases isFailed
  | error error =>
      refine ensures_pure fun failed isFailed => ?_
      cases isFailed
      rfl

/-- A pass that is opened has begun its profile. -/
theorem begunIn_openPass {controller : Controller σ ρ} {host : HostMetadata}
    (fresh : controller.profile = some (.new host)) (resources : Resources) :
    controller.openPass.Ensures resources fun pass _ => BegunIn pass.profile [] := by
  have held : (Pass.start controller.executor controller.engine controller.profile).profile =
      some (.new host) := fresh
  unfold openPass
  dsimp only
  rw [onProfile_some held]
  unfold logStart
  simp only [bind_assoc, pure_bind]
  refine aside_instant.ensures_bind fun now => aside_date.ensures_bind fun date => ?_
  refine (aside_logAll _).ensures_bind fun _ => Pass.ensures_perform_bind (ensures_pure ?_)
  exact ⟨_, rfl, begun_begin host now date⟩

theorem told_attempt {controller : Controller σ ρ} {host : HostMetadata}
    (fresh : controller.profile = some (.new host)) (resources : Resources) :
    controller.attempt.run.Ensures resources (controller.Told resources) := by
  unfold attempt
  refine Attempt.ensures_step ((controller.ensures_validate resources).and
    (controller.ensures_validate_profile resources)) ?_ ?_
  · rintro failed left ⟨⟨rfl, accepted⟩, kept⟩
    have refused : (validateInputs controller.source controller.parameters).errors ≠ [] :=
      fun valid => Bool.false_ne_true (accepted.2 valid)
    have ends : controller.runEnd left = .refused := if_pos refused
    refine ⟨ends ▸ RunEnd.noConfusion, _, (kept failed rfl).trans fresh, ?_⟩
    rw [ends]
    exact tells_new host
  · rintro _ left ⟨⟨rfl, accepted⟩, -⟩
    have valid := accepted.1 rfl
    obtain ⟨source, resolved⟩ := exists_resolve_of_valid valid
    rw [run_lift_bind, resolved]
    refine ((controller.ensures_openPass left).and (begunIn_openPass fresh left)).bind ?_
    rintro pass after ⟨⟨same, redirected⟩, begun⟩
    refine told_lead valid same ?_ begun
    rw [parsed?, if_pos valid, resolved, redirected]
    rfl

/-- A run comes through as its executor says, and its profile says the same. -/
theorem told_run {controller : Controller σ ρ} {host : HostMetadata}
    (ready : controller.state = .constructed) (fresh : controller.profile = some (.new host))
    (resources : Resources) : controller.run.Ensures resources fun run _ =>
      (run.1.isOk ↔ controller.runEnd resources = .completed) ∧ ∃ profile,
        run.2.profile = some profile ∧ profile.Tells (controller.runEnd resources)
          ((controller.executor.ruleTimings run.2.engine).getD []) := by
  unfold run
  rw [if_neg (by simp [ready])]
  refine (aside_log _ _).ensures_bind fun _ => (aside_log _ _).ensures_bind fun _ => ?_
  refine (aside_meter _).ensures_bind fun _ => aside_instant.ensures_bind fun started => ?_
  refine (told_attempt fresh resources).bind fun attempt left told => ?_
  refine (aside_elapsedSince started).ensures_bind fun elapsed => ?_
  rcases attempt with failed | ⟨output, pass⟩
  · obtain ⟨short, profile, held, tells⟩ := told
    refine (aside_meter _).ensures_bind fun _ => ensures_pure ⟨?_, profile, held, tells _⟩
    exact iff_of_false Bool.false_ne_true short
  · obtain ⟨completed, profile, held, tells⟩ := told
    refine (aside_meter _).ensures_bind fun _ => ensures_pure ⟨?_, profile, held, ?_⟩
    · exact iff_of_true rfl completed
    · rw [completed]
      exact tells

/-- A controller records its runs, and nothing is recorded while it is newly made or renewed. -/
structure Recording (controller : Controller σ ρ) : Prop where
  profiled : controller.options.profileExecution = true
  fresh : controller.state = .constructed → ∃ host, controller.profile = some (.new host)

theorem ensures_freshProfile {options : ExecutionOptions}
    (profiled : options.profileExecution = true) (probe : HostProbe) (resources : Resources) :
    (freshProfile options probe).Ensures resources fun profile left =>
      left = resources ∧ ∃ host, profile = some (.new host) := by
  rintro world rfl
  unfold freshProfile
  rw [if_pos profiled]
  cases probe <;> exact ⟨rfl, _, rfl⟩

section Recording

variable {controller : Controller σ ρ}

theorem Recording.ensures_run (recording : controller.Recording) (resources : Resources) :
    controller.run.Ensures resources fun run _ => run.2.Recording := by
  by_cases ready : controller.state = .constructed
  · refine ((ensures_run_inputs controller resources).and
      (ensures_run_state controller ready resources)).mono ?_
    rintro ⟨answer, next⟩ left ⟨⟨engine, profile, state, rfl⟩, ended⟩
    refine ⟨recording.profiled, fun again => ?_⟩
    rcases ended with done | failed
    · exact absurd (done.symm.trans again) (by decide)
    · exact absurd (failed.symm.trans again) (by decide)
  · intro world _
    rw [controller.run_refused ready world]
    exact recording

theorem Recording.ensures_redirected (recording : controller.Recording) (channel : Channel)
    (stream : Stream) (resources : Resources) :
    (controller.redirected channel stream).Ensures resources fun next _ =>
      next.Recording ∧ ∃ host, next.profile = some (.new host) := by
  have profiled : (controller.setStream channel stream).options.profileExecution = true := by
    cases channel <;> exact recording.profiled
  unfold redirected renewed
  refine aside_newRunId.ensures_bind fun runId => ?_
  refine (ensures_freshProfile profiled _ resources).bind ?_
  rintro profile left ⟨rfl, made⟩
  exact ensures_pure ⟨⟨profiled, fun _ => made⟩, made⟩

theorem Recording.ensures_take (recording : controller.Recording) (call : ControllerCall)
    (resources : Resources) :
    (controller.take call).Ensures resources fun taken _ => taken.2.Recording := by
  cases call with
  | run =>
      unfold take
      exact (recording.ensures_run resources).bind fun _ _ next => ensures_pure next
  | redirect channel stream =>
      unfold take
      exact (recording.ensures_redirected channel stream resources).bind
        fun _ _ next => ensures_pure next.1
  | dispose =>
      unfold take
      rw [dispose_eq]
      simp only [bind_assoc, pure_bind]
      refine (aside_log _ _).ensures_bind fun _ => ensures_perform_bind ?_
      refine (aside_log _ _).ensures_bind fun _ => ensures_perform_bind ?_
      exact (aside_meter _).ensures_bind fun _ => ensures_pure ⟨recording.profiled, nofun⟩

theorem Recording.ensures_takeAll (recording : controller.Recording) (calls : List ControllerCall)
    (resources : Resources) :
    (controller.takeAll calls).Ensures resources fun taken _ => taken.2.Recording :=
  Controller.ensures_takeAll (fun _ next _ => next.Recording)
    (fun _ _ left call recording => recording.ensures_take call left) recording calls

end Recording
end Controller

namespace RunPlan

open InWorld

variable {σ ρ : Type}

theorem ensures_build_recording (plan : RunPlan σ ρ) (resources : Resources) :
    (plan.profileExecution true).build.Ensures resources fun controller _ =>
      controller.Recording := by
  have profiled : (plan.profileExecution true).options.profileExecution = true := rfl
  unfold build
  refine (Controller.ensures_freshProfile profiled _ resources).bind ?_
  rintro profile left ⟨rfl, made⟩
  exact aside_newRunId.ensures_bind fun runId => ensures_pure ⟨profiled, fun _ => made⟩

/-- Whatever calls a controller took that records its runs: if it can run, its profile says
afterwards where the run ended, which is where its executor lets it end. It is begun if the inputs
were accepted, and has the stages in order up to the one that failed, each once; it is closed, and
has merged the rule times that the executor measured, if and only if the run succeeded. A
redirection of the controller makes a profile with nothing in it. -/
theorem profile_of_run (plan : RunPlan σ ρ) (calls : List ControllerCall) (world : World) :
    let built := (plan.profileExecution true).build.run world
    let taken := (built.1.takeAll calls).run built.2
    let controller := taken.1.2
    let run := controller.run.run taken.2
    let ended := controller.runEnd taken.2.resources
    (controller.state = .constructed →
      (run.1.1.isOk ↔ ended = .completed) ∧
      ∃ profile, run.1.2.profile = some profile ∧
        profile.Tells ended ((controller.executor.ruleTimings run.1.2.engine).getD [])) ∧
    ∀ channel stream, ∃ host,
      ((controller.redirected channel stream).run taken.2).1.profile = some (.new host) := by
  intro built taken controller run ended
  have start : built.1.Recording := plan.ensures_build_recording world.resources world rfl
  have recording : controller.Recording :=
    start.ensures_takeAll calls built.2.resources built.2 rfl
  refine ⟨fun ready => ?_, fun channel stream => ?_⟩
  · obtain ⟨host, fresh⟩ := recording.fresh ready
    exact Controller.told_run ready fresh taken.2.resources taken.2 rfl
  · exact (recording.ensures_redirected channel stream taken.2.resources taken.2 rfl).2

/-- A comparison whose module fails before its main pass: the run is begun and has two stages. -/
theorem profile_of_run_failingAt :
    let world := World.initial ⟨⟨"", "", "", 0⟩, fun _ => 0, fun _ => "", fun _ => ""⟩
    let plan := (RunPlan.new LanguageExecutor.comparison
      (CannedModule.new.failingAt .preProcess "no rules")).code ""
    let built := (plan.profileExecution true).build.run world
    built.1.state = .constructed ∧ ∃ profile,
      (built.1.run.run built.2).1.2.profile = some profile ∧ profile.start.isSome ∧
        profile.stages.map Prod.fst = ["prepareExecution", "preProcess"] ∧
        profile.total = none ∧ profile.rules = [] := by
  intro world plan built
  have ready : built.1.state = .constructed := rfl
  obtain ⟨-, profile, held, tells⟩ := (profile_of_run plan [] world).1 ready
  have valid : (validateInputs built.1.source built.1.parameters).errors = [] := by
    change (validateInputs (.ofCode "") []).errors = []
    simp [validateInputs, validateParameters, Parameters.names]
    rfl
  have parsed : (built.1.parsed? built.2.resources).isNone = false := by
    rw [Controller.parsed?, if_pos valid]
    rfl
  have fails : (built.1.preProcessed? built.2.resources).isNone = true := by
    rw [Controller.preProcessed?, Controller.parsed?, if_pos valid]
    rfl
  have ended : built.1.runEnd built.2.resources = .failed .preProcess := by
    rw [Controller.runEnd, if_neg (not_not_intro valid), parsed, fails]
    rfl
  have same : ((built.1.takeAll []).run built.2).1.2.runEnd
      ((built.1.takeAll []).run built.2).2.resources = .failed .preProcess := ended
  rw [same] at tells
  refine ⟨ready, profile, held, tells.start.2 (by decide), tells.stages, ?_, ?_⟩
  · simpa using mt tells.total.1 (by decide)
  · exact (tells.unharvested (by decide)).1

end RunPlan
end StagedScript
