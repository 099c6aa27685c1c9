import StagedScript.Proofs.Engine.Contexts
import StagedScript.Proofs.Model.Disposal
import StagedScript.Proofs.Run.Calls
import StagedScript.Proofs.Run.History
import StagedScript.Proofs.Script.Confinement
import StagedScript.Proofs.Script.Runner

/-!
# Models are released

A disposal disposes the models that the module of the executor has, and the module gets the models
of a plan when a run hands over its inputs, after the parse. So whether a disposal releases the
models of a plan depends on whether a run came that far before it.

What modules do in their stages is their own. They are `Careful` if no stage takes a model out of
their repository or makes a disposed model undisposed; the script engine is.

**Results.** If a run came through its parse, then the models of its plan are disposed with the
controller, and stay so, whatever was done before and is done after (`released_of_cameThrough`). A
controller that is disposed without a run leaves them as they are (`models_build_dispose`).
-/

namespace StagedScript

section Keeps

variable {μ α β : Type} [EngineModule μ]

/-- What may become of a module and of the resources in a run: models that the module has stay
there, and the store of models ages. -/
structure ModelsKept (before after : μ × Resources) : Prop where
  held : ∀ model, (EngineModule.context before.1).models.holds model = true →
    (EngineModule.context after.1).models.holds model = true
  ages : before.2.models.Ages after.2.models

theorem ModelsKept.refl (state : μ × Resources) : ModelsKept state state :=
  ⟨fun _ held => held, .refl _⟩

theorem ModelsKept.trans {first second third : μ × Resources} (left : ModelsKept first second)
    (right : ModelsKept second third) : ModelsKept first third :=
  ⟨fun model held => right.held model (left.held model held), left.ages.trans right.ages⟩

theorem ModelsKept.of_eq {before after : μ × Resources}
    (repository : (EngineModule.context after.1).models = (EngineModule.context before.1).models)
    (store : after.2.models = before.2.models) : ModelsKept before after where
  held model held := by rwa [repository]
  ages := by
    rw [store]
    exact .refl _

/-- An action that keeps models. -/
def Act.KeepsModels (action : Act μ α) : Prop :=
  ∀ state, ModelsKept state (Act.apply action state).2

end Keeps

/-- Executors over a module whose stages keep models. -/
structure LanguageExecutor.Careful {μ ρ : Type} [EngineModule μ] (executor : LanguageExecutor μ ρ) :
    Prop where
  overModule : ∃ language, executor.toExecutorBase = .ofModule language
  parse : ∀ source, (executor.parse source).KeepsModels
  preProcess : executor.preProcess.KeepsModels
  execute : executor.execute.KeepsModels
  postProcess : executor.postProcess.KeepsModels

theorem Context.models_redirect (context : Context) (channel : Channel) (stream : Stream) :
    (context.redirect channel stream).models = context.models := by
  cases channel <;> rfl

section Calls

variable {μ ρ : Type} [EngineModule μ] [LawfulEngineModule μ] {executor : LanguageExecutor μ ρ}

/-- A change of the context that leaves models there keeps models. -/
theorem EngineModule.keepsModels_modifyContext {change : Context → Context}
    (keeps : ∀ context model, context.models.holds model = true →
      (change context).models.holds model = true) :
    (EngineModule.modifyContext change : Act μ Unit).KeepsModels := by
  rintro ⟨module, resources⟩
  refine ⟨fun model held => ?_, .refl _⟩
  change (EngineModule.context (EngineModule.withContext (change (EngineModule.context module))
    module)).models.holds model = true
  rw [LawfulEngineModule.context_withContext]
  exact keeps _ model held

/-- Nothing that a run asks for takes a model away. -/
theorem LanguageExecutor.Careful.relates (careful : executor.Careful) :
    executor.Relates ModelsKept := by
  obtain ⟨language, wraps⟩ := careful.overModule
  refine ⟨?redirect, careful.parse, ?addModels, ?addParameters, ?addDelegates, careful.preProcess,
    careful.execute, careful.postProcess⟩
  all_goals rw [wraps]
  case redirect =>
    refine fun channel stream => EngineModule.keepsModels_modifyContext fun context model held => ?_
    rwa [Context.models_redirect]
  case addModels =>
    exact fun models => EngineModule.keepsModels_modifyContext fun context model held =>
      Repository.holds_addAll _ _ (.inl held)
  case addParameters =>
    exact fun parameters => EngineModule.keepsModels_modifyContext fun context model held => held
  case addDelegates =>
    exact fun delegates => EngineModule.keepsModels_modifyContext fun context model held => held

theorem LanguageExecutor.Careful.modelsKept_of_makes (careful : executor.Careful)
    {calls made : List ExecutorCall} {output : Option ρ} {state after : μ × Resources}
    {outcome : Except ScriptError (Option ρ)}
    (makes : Makes executor calls output state made outcome after) : ModelsKept state after :=
  careful.relates.of_makes .refl ModelsKept.trans makes

/-- Whether an error ends a run before it hands over its inputs. -/
def ScriptError.isEarly : ScriptError → Bool
  | .config _ => true
  | .parse _ _ _ _ => true
  | _ => false

/-- Whether a run came through its parse, by what it answered. -/
def cameThrough (answer : Except ScriptError ρ) : Bool :=
  match answer with
  | .ok _ => true
  | .error error => !error.isEarly

/-- A run that fails neither at once nor in its parse hands its models over, and they stay. -/
theorem LanguageExecutor.Careful.holds_of_makes (careful : executor.Careful)
    {front calls made : List ExecutorCall} {models : List ModelHandle} {output : Option ρ}
    {state after : μ × Resources} {outcome : Except ScriptError (Option ρ)}
    (early : ∀ call ∈ front, (∃ channel stream, call = .redirect channel stream) ∨
      ∃ source, call = .parse source)
    (makes : Makes executor (front ++ .addModels models :: calls) output state made outcome after)
    (through : cameThrough outcome = true) :
    ∀ model ∈ models, (EngineModule.context after.1).models.holds model = true := by
  induction front generalizing output state made with
  | nil =>
      cases makes with
      | fail answers => cases answers
      | pass answers rest =>
          cases answers
          intro model asked
          refine (careful.modelsKept_of_makes rest).held model ?_
          obtain ⟨language, wraps⟩ := careful.overModule
          rw [wraps]
          change (EngineModule.context (EngineModule.withContext
            ((EngineModule.context state.1).addModels models) state.1)).models.holds model = true
          rw [LawfulEngineModule.context_withContext]
          exact Repository.holds_addAll models _ (.inr asked)
  | cons call front ih =>
      cases makes with
      | pass answers rest =>
          exact ih (fun other later => early other (List.mem_cons_of_mem _ later)) rest
      | fail answers =>
          rcases early call List.mem_cons_self with ⟨channel, stream, rfl⟩ | ⟨source, rfl⟩
          · cases answers
          · cases answers <;> cases through

end Calls

namespace Controller

open InWorld

section Front

variable {σ ρ : Type}

/-- The calls of a run before it hands models over. -/
def beforeModels (controller : Controller σ ρ) (source : ResolvedSource) : List ExecutorCall :=
  (channels.filterMap fun channel =>
    (controller.stream? channel).map fun stream => .redirect channel stream) ++ [.parse source]

theorem calls_eq (controller : Controller σ ρ) (source : ResolvedSource) :
    controller.calls source = controller.beforeModels source ++ .addModels controller.models ::
      [.addParameters controller.parameters, .addDelegates controller.delegates, .preProcess,
        .execute, .postProcess] := by
  rw [calls, beforeModels, List.append_assoc]
  rfl

theorem early_of_mem_beforeModels (controller : Controller σ ρ) (source : ResolvedSource) :
    ∀ call ∈ controller.beforeModels source,
      (∃ channel stream, call = .redirect channel stream) ∨ ∃ source, call = .parse source := by
  intro call member
  rcases List.mem_append.1 member with redirection | parse
  · obtain ⟨channel, -, found⟩ := List.mem_filterMap.1 redirection
    obtain ⟨stream, -, rfl⟩ := Option.map_eq_some_iff.1 found
    exact .inl ⟨channel, stream, rfl⟩
  · exact .inr ⟨source, List.mem_singleton.1 parse⟩

end Front

variable {μ ρ : Type} [EngineModule μ]

/-- A disposal leaves what the disposal of the module's models leaves, if models are disposed. -/
theorem ensures_dispose_left (controller : Controller μ ρ) (careful : controller.executor.Careful)
    (resources : Resources) :
    controller.dispose.Ensures resources fun next left =>
      next.executor = controller.executor ∧
        left = if controller.options.disposeModels then
            (Repository.disposeAll (EngineModule.context controller.engine).models).left resources
          else
            resources := by
  obtain ⟨language, wraps⟩ := careful.overModule
  rw [dispose_eq]
  refine (aside_log _ _).ensures_bind fun _ => ensures_perform_bind ?_
  refine (aside_log _ _).ensures_bind fun _ => ensures_perform_bind ?_
  refine (aside_meter _).ensures_bind fun _ => ensures_pure ⟨rfl, ?_⟩
  rw [wraps]
  unfold release
  split
  · rw [wraps]
    rfl
  · rw [wraps]
    rfl

/-- A disposal keeps the store, and the models that the module has are disposed if the options say
so. -/
theorem ensures_dispose_models (controller : Controller μ ρ)
    (careful : controller.executor.Careful) (resources : Resources) :
    controller.dispose.Ensures resources fun next left =>
      next.executor = controller.executor ∧ resources.models.Ages left.models ∧
        (controller.options.disposeModels = true → ∀ model,
          (EngineModule.context controller.engine).models.holds model = true →
          resources.models.Has model → left.models.isDisposed model = true) := by
  refine (ensures_dispose_left controller careful resources).mono ?_
  rintro next left ⟨same, rfl⟩
  refine ⟨same, ?_, fun disposes model held has => ?_⟩
  · split
    · exact Repository.ages_disposeAll _ resources
    · exact .refl _
  · rw [if_pos disposes]
    exact Repository.isDisposed_disposeAll held resources has

/-- A controller that has models to dispose; once a run came through its parse, the module has
them. -/
structure Owes (owed : List ModelHandle) (through : Bool) (controller : Controller μ ρ)
    (resources : Resources) : Prop where
  careful : controller.executor.Careful
  disposes : controller.options.disposeModels = true
  models : controller.models = owed
  has : ∀ model ∈ owed, resources.models.Has model
  held : through = true → ∀ model ∈ owed,
    (EngineModule.context controller.engine).models.holds model = true

/-- A controller whose models were disposed. -/
structure Settled (owed : List ModelHandle) (controller : Controller μ ρ)
    (resources : Resources) : Prop where
  careful : controller.executor.Careful
  disposed : ∀ model ∈ owed, resources.models.isDisposed model = true

variable {owed : List ModelHandle} {through : Bool} {controller : Controller μ ρ}
  {resources : Resources}

/-- What is owed is settled by the disposal. -/
theorem Owes.ensures_dispose (owes : controller.Owes owed true resources) :
    controller.dispose.Ensures resources fun next left => next.Settled owed left := by
  refine (ensures_dispose_models controller owes.careful resources).mono ?_
  rintro next left ⟨same, -, disposed⟩
  refine ⟨same ▸ owes.careful, fun model asked => ?_⟩
  exact disposed owes.disposes model (owes.held rfl model asked) (owes.has model asked)

variable [LawfulEngineModule μ]

/-- What a run does to models: it keeps them, and if it came through its parse, then the module has
those of the controller. -/
theorem ensures_run_models (controller : Controller μ ρ) (careful : controller.executor.Careful)
    (resources : Resources) :
    controller.run.Ensures resources fun run left =>
      ModelsKept (controller.engine, resources) (run.2.engine, left) ∧
        (cameThrough run.1 = true → ∀ model ∈ controller.models,
          (EngineModule.context run.2.engine).models.holds model = true) := by
  by_cases fresh : controller.state = .constructed
  · refine (ensures_run controller fresh resources).mono fun run left reports => ?_
    rcases reports with ⟨-, answer, -, engine, rfl⟩ | ⟨-, source, -, made, outcome, makes, ends⟩
    · rw [answer, engine]
      exact ⟨.refl _, nofun⟩
    · refine ⟨careful.modelsKept_of_makes makes, fun through => ?_⟩
      rw [calls_eq] at makes
      refine careful.holds_of_makes (early_of_mem_beforeModels controller source) makes ?_
      rcases ends with ⟨output, rfl, -, -⟩ | ⟨error, rfl, answer, -⟩
      · rfl
      · rw [answer] at through
        exact through
  · unfold run
    rw [if_pos fresh]
    exact ensures_pure ⟨.refl _, nofun⟩

theorem Owes.ensures_run (owes : controller.Owes owed through resources) :
    controller.run.Ensures resources fun run left =>
      run.2.Owes owed (through || cameThrough run.1) left := by
  refine ((ensures_run_models controller owes.careful resources).and
    (ensures_run_inputs controller resources)).mono ?_
  rintro ⟨answer, next⟩ left ⟨⟨kept, handed⟩, engine, profile, state, rfl⟩
  refine ⟨owes.careful, owes.disposes, owes.models, ?_, fun either model asked => ?_⟩
  · exact fun model asked => kept.ages.has model (owes.has model asked)
  · rcases Bool.or_eq_true_iff.1 either with before | now
    · exact kept.held model (owes.held before model asked)
    · exact handed now model (owes.models ▸ asked)

theorem Owes.ensures_take {call : ControllerCall} (owes : controller.Owes owed through resources)
    (other : call ≠ .dispose) :
    (controller.take call).Ensures resources fun taken left =>
      taken.2.Owes owed (through || taken.1.any cameThrough) left := by
  cases call with
  | dispose => exact absurd rfl other
  | run =>
      unfold take
      exact owes.ensures_run.bind fun run left kept => ensures_pure kept
  | redirect channel stream =>
      unfold take
      refine (ensures_redirected_inputs controller channel stream resources).bind ?_
      rintro next left ⟨rfl, runId, profile, rfl⟩
      refine ensures_pure ?_
      rw [Option.any_none, Bool.or_false]
      cases channel <;> exact ⟨owes.careful, owes.disposes, owes.models, owes.has, owes.held⟩

theorem Owes.ensures_takeAll {calls : List ControllerCall} (undisposed : .dispose ∉ calls) :
    ∀ {through : Bool} {controller : Controller μ ρ} {resources : Resources},
      controller.Owes owed through resources →
      (controller.takeAll calls).Ensures resources fun taken left =>
        taken.2.Owes owed (through || taken.1.any fun answer => answer.any cameThrough) left := by
  induction calls with
  | nil =>
      intro through controller resources owes
      refine ensures_pure ?_
      rwa [List.any_nil, Bool.or_false]
  | cons call rest ih =>
      intro through controller resources owes
      obtain ⟨first, later⟩ := not_or.1 (mt List.mem_cons.2 undisposed)
      refine (owes.ensures_take (Ne.symm first)).bind fun taken left next => ?_
      refine (ih later next).bind fun all final last => ensures_pure ?_
      rwa [Bool.or_assoc] at last

/-- What was settled stays so. -/
theorem Settled.ensures_take (settled : controller.Settled owed resources)
    (call : ControllerCall) :
    (controller.take call).Ensures resources fun taken left => taken.2.Settled owed left := by
  cases call with
  | run =>
      unfold take
      refine ((ensures_run_models controller settled.careful resources).and
        (ensures_run_inputs controller resources)).bind ?_
      rintro ⟨answer, next⟩ left ⟨⟨kept, -⟩, engine, profile, state, rfl⟩
      exact ensures_pure ⟨settled.careful, fun model asked =>
        kept.ages.disposed model (settled.disposed model asked)⟩
  | redirect channel stream =>
      unfold take
      refine (ensures_redirected_inputs controller channel stream resources).bind ?_
      rintro next left ⟨rfl, runId, profile, rfl⟩
      refine ensures_pure ?_
      cases channel <;> exact ⟨settled.careful, settled.disposed⟩
  | dispose =>
      unfold take
      refine (ensures_dispose_models controller settled.careful resources).bind ?_
      rintro next left ⟨same, ages, -⟩
      exact ensures_pure ⟨same ▸ settled.careful, fun model asked =>
        ages.disposed model (settled.disposed model asked)⟩

theorem Settled.ensures_takeAll (calls : List ControllerCall)
    (settled : controller.Settled owed resources) :
    (controller.takeAll calls).Ensures resources fun taken left => taken.2.Settled owed left :=
  Controller.ensures_takeAll (fun _ next left => next.Settled owed left)
    (fun _ _ _ call settled => settled.ensures_take call) settled calls

end Controller

namespace ScriptRunner

/-- An evaluation keeps the models of the context and the store. -/
theorem keepsModels_evaluate {body : Script.Setting → Script.Eval Value}
    (leaves : ∀ setting, (body setting).Leaves FrameStack.Confined) :
    (EngineResult.toScript <$> onModule (ScriptEngine.evaluate body)).KeepsModels := by
  rintro ⟨runner, resources⟩
  have confined := ScriptEngine.confined_evaluate leaves runner.module resources
  refine .of_eq ?_ ?_
  · exact congrArg (fun engine => engine.context.models) confined.engine
  · have store := congrArg Resources.models confined.resources
    exact store

end ScriptRunner

/-- The stages of the script executor keep models. -/
theorem LanguageExecutor.careful_script :
    (LanguageExecutor.script : LanguageExecutor (ScriptRunner ScriptEngine) Value).Careful where
  overModule := ⟨.eol, rfl⟩
  parse := ScriptRunner.relates_parse .refl fun _ _ _ =>
    .of_eq (congrArg Context.models (ScriptEngine.context_parsed _ _ _)) rfl
  preProcess state := .refl state
  execute := ScriptRunner.relates_execute .refl ScriptRunner.keepsModels_evaluate
  postProcess state := .refl state

namespace RunPlan

open Controller InWorld

variable {μ ρ : Type} [EngineModule μ] {plan : RunPlan μ ρ}

theorem ensures_build_owes (careful : plan.executor.Careful)
    (disposes : plan.options.disposeModels = true) {resources : Resources}
    (has : ∀ model ∈ plan.models, resources.models.Has model) :
    plan.build.Ensures resources fun controller left =>
      controller.Owes plan.models false left := by
  refine (ensures_build_inputs plan resources).mono ?_
  rintro controller left ⟨rfl, runId, profile, rfl⟩
  exact ⟨careful, disposes, rfl, has, nofun⟩

/-- If a run came through its parse before a controller is disposed, then the models of its plan
are disposed with it, and stay so whatever calls follow. -/
theorem released_of_cameThrough [LawfulEngineModule μ] (plan : RunPlan μ ρ)
    (careful : plan.executor.Careful) (disposes : plan.options.disposeModels = true)
    (calls more : List ControllerCall) (undisposed : .dispose ∉ calls) (world : World)
    (has : ∀ model ∈ plan.models, world.resources.models.Has model) :
    let built := plan.build.run world
    let driven := (built.1.takeAll calls).run built.2
    let disposed := driven.1.2.dispose.run driven.2
    let later := (disposed.1.takeAll more).run disposed.2
    (driven.1.1.any fun answer => answer.any cameThrough) = true →
    ∀ model ∈ plan.models, later.2.resources.models.isDisposed model = true := by
  intro built driven disposed later through
  have owes : built.1.Owes plan.models false built.2.resources :=
    ensures_build_owes careful disposes has world rfl
  have owed : driven.1.2.Owes plan.models
      (false || driven.1.1.any fun answer => answer.any cameThrough) driven.2.resources :=
    owes.ensures_takeAll undisposed built.2 rfl
  rw [Bool.false_or, through] at owed
  have settled : disposed.1.Settled plan.models disposed.2.resources :=
    owed.ensures_dispose driven.2 rfl
  exact (settled.ensures_takeAll more disposed.2 rfl).disposed

/-- A run of the empty program, with a model, and the disposal. -/
theorem released_of_cameThrough_empty :
    let model : ModelHandle := ⟨0, .named "m"⟩
    let world := World.initial ⟨⟨"", "", "", 0⟩, fun _ => 0, fun _ => "", fun _ => ""⟩
    let stocked := { world with
      resources := { world.resources with models := ⟨[⟨.elements [], false⟩]⟩ } }
    let plan := ((RunPlan.new LanguageExecutor.script
      (ScriptRunner.new (ScriptEngine.new 8))).code "").addModels [model]
    let built := plan.build.run stocked
    let driven := (built.1.takeAll [.run]).run built.2
    let disposed := driven.1.2.dispose.run driven.2
    driven.1.1 = [some (.ok .null)] ∧ disposed.2.resources.models.isDisposed model = true := by
  intro model world stocked plan built driven disposed
  have valid : (validateInputs built.1.source built.1.parameters).errors = [] := by
    change (validateInputs (.ofCode "") []).errors = []
    simp [validateInputs, validateParameters, Parameters.names]
    rfl
  have answered : (built.1.run.run built.2).1.1 = .ok .null := by
    rcases ensures_run built.1 rfl built.2.resources built.2 rfl with
      ⟨refused, -⟩ | ⟨-, source, resolved, made, outcome, makes, ends⟩
    · exact absurd valid refused
    obtain rfl : .code "" = source := Option.some.inj resolved
    obtain ⟨-, rfl, -⟩ := makes.unique (.pass (.parsed rfl rfl) (.pass .addModels
      (.pass .addParameters (.pass .addDelegates (.pass (.preProcess rfl) (.pass (.execute rfl)
        (.pass (.postProcess rfl) .done)))))))
    rcases ends with ⟨_, ⟨⟩, answer, -⟩ | ⟨_, ⟨⟩, -⟩
    exact answer
  have answers : driven.1.1 = [some (.ok .null)] := congrArg (fun answer => [some answer]) answered
  have has : ∀ model ∈ plan.models, stocked.resources.models.Has model := by
    intro other member
    obtain rfl := List.mem_singleton.1 member
    exact Nat.one_pos
  have released := released_of_cameThrough plan LanguageExecutor.careful_script rfl [.run] []
    (by simp) stocked has (by rw [answers]; rfl)
  exact ⟨answers, released model (List.mem_singleton_self model)⟩

/-- A disposal before any run leaves the models of the plan as they are, unless the module had
models of its own. -/
theorem models_build_dispose (plan : RunPlan μ ρ) (careful : plan.executor.Careful)
    (none : (EngineModule.context plan.engine).models = []) (resources : Resources) :
    (plan.build >>= dispose).Ensures resources fun _ left => left.models = resources.models := by
  refine (ensures_build_inputs plan resources).bind ?_
  rintro controller left ⟨rfl, runId, profile, rfl⟩
  refine (ensures_dispose_left _ careful left).mono ?_
  rintro next after ⟨-, rfl⟩
  rw [none]
  split <;> rfl

/-- A controller that disposes models and is disposed without a run: its model is not disposed. -/
theorem undisposed_of_no_run :
    let model : ModelHandle := ⟨0, .named "m"⟩
    let world := World.initial ⟨⟨"", "", "", 0⟩, fun _ => 0, fun _ => "", fun _ => ""⟩
    let stocked := { world with
      resources := { world.resources with models := ⟨[⟨.elements [], false⟩]⟩ } }
    let plan := ((RunPlan.new LanguageExecutor.script
      (ScriptRunner.new (ScriptEngine.new 8))).code "").addModels [model]
    let built := plan.build.run stocked
    let disposed := built.1.dispose.run built.2
    model ∈ plan.models ∧ plan.options.disposeModels = true ∧ disposed.1.state = .disposed ∧
      disposed.2.resources.models.isDisposed model = false := by
  intro model world stocked plan built disposed
  have same : disposed.2.resources.models = stocked.resources.models :=
    models_build_dispose plan LanguageExecutor.careful_script rfl _ stocked rfl
  exact ⟨List.mem_singleton_self model, rfl, rfl, congrArg (·.isDisposed model) same⟩

end RunPlan
end StagedScript
