import StagedScript.Proofs.Run.Release
import StagedScript.Proofs.Run.Views

/-!
# One run between renewals

A controller has a chance to run while it is newly made or renewed, and loses it with the run or
with a disposal. The steps that its executor wrote down and the chance that is left do not become
more in a call, except that a redirection gives a new chance.

**Results.** However calls are taken, each step of a run is made at most once and once more for
every redirection; what cannot run refuses and changes nothing, and disposals make no step
(`Controller.one_shot`).
-/

namespace StagedScript

/-- The calls by which an executor is led through a run. -/
inductive RunStep where
  | parse
  | preProcess
  | execute
  | postProcess
deriving DecidableEq

/-- The step of a run that a call makes, if it makes one. -/
def ExecutorCall.step? : ExecutorCall → Option RunStep
  | .parse _ => some .parse
  | .preProcess => some .preProcess
  | .execute => some .execute
  | .postProcess => some .postProcess
  | _ => none

def ControllerCall.isRedirect : ControllerCall → Bool
  | .redirect _ _ => true
  | _ => false

/-- How many runs a controller can make in a state. -/
def LifecycleState.chances : LifecycleState → Nat
  | .constructed => 1
  | _ => 0

/-- How often a step was made. -/
def RunStep.countIn (step : RunStep) (calls : List ExecutorCall) : Nat :=
  calls.countP fun call => call.step? = some step

namespace Controller

open InWorld

variable {σ ρ : Type}

/-- A run makes each step once, if it comes so far. -/
theorem countIn_calls (controller : Controller σ ρ) (source : ResolvedSource) (step : RunStep) :
    step.countIn (controller.calls source) = 1 := by
  have redirects : step.countIn (channels.filterMap fun channel =>
      (controller.stream? channel).map fun stream => .redirect channel stream) = 0 := by
    refine List.countP_eq_zero.2 fun call member => ?_
    obtain ⟨channel, -, found⟩ := List.mem_filterMap.1 member
    obtain ⟨stream, -, rfl⟩ := Option.map_eq_some_iff.1 found
    simp [ExecutorCall.step?]
  rw [calls, RunStep.countIn, List.countP_append]
  unfold RunStep.countIn at redirects
  rw [redirects]
  cases step <;> rfl

variable {executor : LanguageExecutor σ ρ} {controller : Controller (σ × List ExecutorCall) ρ}

/-- A step that was made, or a chance to make it. -/
def stake (controller : Controller (σ × List ExecutorCall) ρ) (step : RunStep) : Nat :=
  step.countIn controller.engine.2 + controller.state.chances

theorem ensures_run_stake (records : controller.executor = executor.recorded)
    (resources : Resources) : controller.run.Ensures resources fun run _ =>
      run.2.executor = executor.recorded ∧ ∀ step, run.2.stake step ≤ controller.stake step := by
  by_cases fresh : controller.state = .constructed
  · refine ((ensures_run controller fresh resources).and
      (ensures_run_inputs controller resources)).mono ?_
    rintro ⟨answer, next⟩ left ⟨reports, inputs⟩
    refine ⟨by obtain ⟨engine, profile, state, rfl⟩ := inputs; exact records, fun step => ?_⟩
    have chance : controller.state.chances = 1 := by rw [fresh]; rfl
    rcases reports with ⟨-, -, failed, engine, -⟩ | ⟨-, source, -, made, outcome, makes, ends⟩
    · simp only at failed engine
      rw [stake, stake, failed, engine]
      exact Nat.le_add_right _ _
    · rw [records] at makes
      have spent : next.state.chances = 0 := by
        rcases ends with ⟨_, -, -, state⟩ | ⟨_, -, -, state⟩ <;> rw [state] <;> rfl
      have once : step.countIn made ≤ 1 := by
        rw [← controller.countIn_calls source step]
        exact makes.made_prefix.sublist.countP_le
      rw [stake, stake, spent, chance, makes.of_recorded.2, RunStep.countIn, List.countP_append]
      exact Nat.add_le_add_left once _
  · intro world _
    rw [controller.run_refused fresh world]
    exact ⟨records, fun _ => Nat.le_refl _⟩

theorem ensures_redirected_stake (records : controller.executor = executor.recorded)
    (channel : Channel) (stream : Stream) (resources : Resources) :
    (controller.redirected channel stream).Ensures resources fun next _ =>
      next.executor = executor.recorded ∧ next.state = .constructed ∧
        ∀ step, next.stake step ≤ controller.stake step + 1 := by
  refine (ensures_redirected_inputs controller channel stream resources).mono ?_
  rintro next left ⟨-, runId, profile, rfl⟩
  have kept : (controller.setStream channel stream).executor = controller.executor ∧
      (controller.setStream channel stream).engine = controller.engine := by
    cases channel <;> exact ⟨rfl, rfl⟩
  refine ⟨kept.1.trans records, rfl, fun step => ?_⟩
  change step.countIn (controller.setStream channel stream).engine.2 + 1 ≤ _
  rw [kept.2, stake]
  omega

/-- What a disposal asks the executor for. -/
def farewells (controller : Controller σ ρ) : List ExecutorCall :=
  [if controller.options.disposeModels then .disposeModels else .clearModels, .dispose]

theorem step?_of_mem_farewells {controller : Controller σ ρ} {call : ExecutorCall}
    (member : call ∈ controller.farewells) : call.step? = none := by
  rcases List.mem_cons.1 member with rfl | last
  · split <;> rfl
  · rw [List.mem_singleton.1 last]
    rfl

theorem ensures_dispose_written (records : controller.executor = executor.recorded)
    (resources : Resources) : controller.dispose.Ensures resources fun next _ =>
      next.executor = executor.recorded ∧ next.state = .disposed ∧
        next.engine.2 = controller.engine.2 ++ controller.farewells := by
  rw [dispose_eq]
  refine (aside_log _ _).ensures_bind fun _ => ensures_perform_bind ?_
  refine (aside_log _ _).ensures_bind fun _ => ensures_perform_bind ?_
  refine (aside_meter _).ensures_bind fun _ => ensures_pure ⟨records, rfl, ?_⟩
  rw [records, release, records, farewells]
  split
  · exact List.append_assoc _ [_] [_]
  · exact List.append_assoc _ [_] [_]

theorem ensures_take_stake (records : controller.executor = executor.recorded)
    (call : ControllerCall) (resources : Resources) :
    (controller.take call).Ensures resources fun taken _ =>
      taken.2.executor = executor.recorded ∧
        ∀ step, taken.2.stake step ≤ controller.stake step + if call.isRedirect then 1 else 0 := by
  cases call with
  | run =>
      unfold take
      exact (ensures_run_stake records resources).bind fun _ _ kept => ensures_pure kept
  | redirect channel stream =>
      unfold take
      refine (ensures_redirected_stake records channel stream resources).bind ?_
      rintro next left ⟨same, -, renewed⟩
      exact ensures_pure ⟨same, renewed⟩
  | dispose =>
      unfold take
      refine (ensures_dispose_written records resources).bind ?_
      rintro next left ⟨same, disposed, written⟩
      refine ensures_pure ⟨same, fun step => ?_⟩
      have none : step.countIn controller.farewells = 0 := by
        refine List.countP_eq_zero.2 fun call member => ?_
        simp [step?_of_mem_farewells member]
      change next.stake step ≤ controller.stake step
      rw [RunStep.countIn] at none
      rw [stake, stake, disposed, written, RunStep.countIn, List.countP_append, none]
      exact Nat.le_add_right _ _

theorem ensures_takeAll_stake (records : controller.executor = executor.recorded)
    (calls : List ControllerCall) (resources : Resources) :
    (controller.takeAll calls).Ensures resources fun taken _ =>
      taken.2.executor = executor.recorded ∧
        ∀ step, taken.2.stake step ≤
          controller.stake step + calls.countP ControllerCall.isRedirect := by
  refine ensures_takeAll (fun past (next : Controller (σ × List ExecutorCall) ρ) _ =>
    next.executor = executor.recorded ∧
      ∀ step, next.stake step ≤ controller.stake step + past.countP ControllerCall.isRedirect)
    ?_ ⟨records, fun _ => Nat.le_refl _⟩ calls
  rintro past next left call ⟨records, sofar⟩
  refine (ensures_take_stake records call left).mono ?_
  rintro ⟨answer, last⟩ after ⟨records, one⟩
  refine ⟨records, fun step => ?_⟩
  have before := sofar step
  have now := one step
  rw [List.countP_append, List.countP_singleton]
  omega

theorem ensures_run_state (controller : Controller σ ρ) (fresh : controller.state = .constructed)
    (resources : Resources) : controller.run.Ensures resources fun run _ =>
      run.2.state = .postProcessed ∨ run.2.state = .failed := by
  refine (ensures_run controller fresh resources).mono fun run left reports => ?_
  rcases reports with ⟨-, -, failed, -⟩ | ⟨-, _, -, _, _, -, ends⟩
  · exact .inr failed
  · rcases ends with ⟨_, -, -, done⟩ | ⟨_, -, -, failed⟩
    · exact .inl done
    · exact .inr failed

/-- However a controller takes calls, one whose executor writes down what it is asked for answers
the same and goes on the same; by what is written down, each step of a run was made at most once
and once more for every redirection. After the calls, a run from any state but the first refuses
and changes nothing, a run from that one ends processed or failed, a disposal asks for no step
and leaves the controller disposed, and a redirection makes it as new. -/
theorem one_shot (controller : Controller σ ρ) (calls : List ControllerCall) (world : World) :
    let written := (controller.recorded.takeAll calls).run world
    let taken := (controller.takeAll calls).run world
    let last := taken.1.2
    (written.1.1 = taken.1.1 ∧ written.1.2.seen Prod.fst last.executor = last ∧
      written.2 = taken.2) ∧
    (∀ step : RunStep,
      step.countIn written.1.2.engine.2 ≤ 1 + calls.countP ControllerCall.isRedirect) ∧
    (last.state ≠ .constructed → last.run.run taken.2 =
      ((.error (.config (.cannotRun last.runId.text last.state)), last), taken.2)) ∧
    (last.state = .constructed → (last.run.run taken.2).1.2.state = .postProcessed ∨
      (last.run.run taken.2).1.2.state = .failed) ∧
    ((∃ asked, (written.1.2.dispose.run written.2).1.engine.2 = written.1.2.engine.2 ++ asked ∧
        ∀ call ∈ asked, call.step? = none) ∧
      (last.dispose.run taken.2).1.state = .disposed) ∧
    ∀ channel stream, ((last.redirected channel stream).run taken.2).1.state = .constructed := by
  intro written taken last
  have shown : controller.recorded.Shows Prod.fst controller :=
    ⟨controller.executor.shows_recorded, rfl⟩
  obtain ⟨⟨answers, -, same⟩, worlds⟩ := agrees_takeAll calls shown world
  obtain ⟨records, stakes⟩ : written.1.2.executor = controller.executor.recorded ∧ _ :=
    ensures_takeAll_stake rfl calls world.resources world rfl
  refine ⟨⟨answers, same.symm, worlds⟩, fun step => ?_, fun stale => ?_, fun fresh => ?_, ⟨?_, ?_⟩,
    fun channel stream => ?_⟩
  · have bound : written.1.2.stake step ≤ _ := stakes step
    have start : controller.recorded.stake step ≤ 1 := by
      unfold stake
      cases controller.recorded.state <;> simp [recorded, RunStep.countIn, LifecycleState.chances]
    rw [stake] at bound
    omega
  · exact run_refused last stale taken.2
  · exact ensures_run_state last fresh taken.2.resources taken.2 rfl
  · obtain ⟨-, -, asked⟩ := ensures_dispose_written records written.2.resources written.2 rfl
    exact ⟨_, asked, fun _ => step?_of_mem_farewells⟩
  · rw [dispose_eq]
    rfl
  · obtain ⟨-, _, _, made⟩ :=
      ensures_redirected_inputs last channel stream taken.2.resources taken.2 rfl
    rw [made]

/-- A run of a disposed controller leaves it disposed. -/
theorem disposed_of_run :
    let world := World.initial ⟨⟨"", "", "", 0⟩, fun _ => 0, fun _ => "", fun _ => ""⟩
    let plan := (RunPlan.new LanguageExecutor.script
      (ScriptRunner.new (ScriptEngine.new 8))).code "x"
    let built := plan.build.run world
    let taken := (built.1.takeAll [.dispose, .run]).run built.2
    taken.1.2.state ≠ .postProcessed ∧ taken.1.2.state ≠ .failed := by
  intro world plan built taken
  have disposed : taken.1.2.state = .disposed := rfl
  rw [disposed]
  exact ⟨nofun, nofun⟩

end Controller
end StagedScript
