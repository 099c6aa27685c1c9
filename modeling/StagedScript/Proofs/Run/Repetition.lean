import StagedScript.Proofs.Frames.Bindings
import StagedScript.Proofs.Model.Disposal
import StagedScript.Proofs.Run.ScriptRuns
import StagedScript.Proofs.Script.Transcript

/-!
# Runs again

A run of the script language leaves its traces in the engine: models and delegates that were added,
globals that the program assigned to, a program or the problems of one. A redirection renews the
controller and keeps the engine. What the traces are does not matter, since a run begins with a
parse and hands over its inputs: an engine suits the inputs of a plan if, once they are handed over,
it offers a program what a new engine would (`RunPlan.Suits`). Every call of a run keeps this.

**Results.** Whatever a run came to, after any redirections a run comes to the same, and prints the
same texts to the channels (`run_again`).
-/

namespace StagedScript

namespace Scope

/-- Declare variables one after the other. -/
def putAll (scope : Scope) (more : List Variable) : Scope :=
  more.foldl (fun scope v => scope.put v) scope

/-- A declaration adds its name at the end, if it is new. -/
theorem names_prefix_putAll (more : List Variable) :
    ∀ scope : Scope, scope.names <+: (scope.putAll more).names := by
  induction more with
  | nil => exact fun scope => List.prefix_rfl
  | cons new rest ih =>
      intro scope
      refine List.IsPrefix.trans ?_ (ih (scope.put new))
      by_cases held : new.name ∈ scope.names
      · exact names_put_of_mem held ▸ List.prefix_rfl
      · rw [put_of_not_mem held, names_append]
        exact List.prefix_append _ _

/-- Declarations come to the same in a scope that already has further variables, if these are
declared in the end, in the same order. -/
theorem putAll_append {rest : Scope} {more : List Variable} :
    ∀ {scope : Scope}, names (scope ++ rest) = (scope.putAll more).names →
      putAll (scope ++ rest) more = scope.putAll more := by
  induction more generalizing rest with
  | nil =>
      intro scope same
      have none : rest.names = [] := by
        rw [names_append] at same
        exact List.append_right_eq_self.1 same
      rw [List.map_eq_nil_iff.1 none, List.append_nil]
  | cons new more ih =>
      intro scope same
      by_cases held : new.name ∈ scope.names
      · change putAll (Scope.put new (scope ++ rest)) more = putAll (scope.put new) more
        rw [put_append_of_mem held]
        refine ih ?_
        rw [names_append, names_put_of_mem held, ← names_append]
        exact same
      · change putAll (Scope.put new (scope ++ rest)) more = putAll (scope.put new) more
        change _ = (putAll (scope.put new) more).names at same
        rw [put_append_of_not_mem held]
        rw [put_of_not_mem held] at same ⊢
        -- The next further variable has the name that is declared.
        obtain ⟨later, names_eq⟩ := names_prefix_putAll more (scope ++ [new])
        rw [← names_eq, names_append, names_append, List.append_assoc] at same
        obtain ⟨v, others, rfl, here, rfl⟩ := List.map_eq_cons_iff.1 (List.append_cancel_left same)
        rw [put, if_pos here]
        have next := @ih others (scope ++ [new]) ?_
        · rwa [List.append_assoc] at next
        · rw [← names_eq, names_append]
          rfl

end Scope

namespace FrameStack

/-- Parameters are bound to the same again, whatever a program made of those that it may assign
to. -/
theorem putGlobals_of_confined {bound : List Variable} {after : FrameStack}
    (confined : (empty.putGlobals bound).Confined after) :
    after.putGlobals bound = empty.putGlobals bound := by
  obtain ⟨globals, locals⟩ := after
  have noLocals : locals = [] := List.forall₂_nil_left_iff.1 confined.locals
  have again : Scope.putAll ([] ++ globals) bound = Scope.putAll [] bound :=
    Scope.putAll_append confined.globals.names_eq
  subst noLocals
  exact congrArg (FrameStack.mk · []) again

end FrameStack

theorem NativeDelegate.find?_append (first second : List NativeDelegate) (type : String) :
    find? (first ++ second) type = (find? first type).or (find? second type) :=
  List.find?_append

namespace RunPlan

variable {σ ρ : Type}

/-- Hand the inputs of a plan over to a context. -/
def supply (plan : RunPlan σ ρ) (context : Context) : Context :=
  ((context.addModels plan.models).addParameters plan.parameters).addDelegates plan.delegates

/-- Once it has the inputs of a plan, a context offers a program what a new one would. -/
structure Suits (plan : RunPlan σ ρ) (context : Context) : Prop where
  models : (plan.supply context).models = (plan.supply .initial).models
  frames : (plan.supply context).frames = (plan.supply .initial).frames
  delegates : ∀ type,
    (plan.supply context).delegateFor? type = (plan.supply .initial).delegateFor? type

theorem suits_initial (plan : RunPlan σ ρ) : plan.Suits .initial :=
  ⟨rfl, rfl, fun _ => rfl⟩

variable {plan : RunPlan σ ρ} {context : Context}

/-- Streams are no part of what programs are offered. -/
theorem Suits.congr {other : Context} (suits : plan.Suits context)
    (models : other.models = context.models) (frames : other.frames = context.frames)
    (delegates : other.delegates = context.delegates) : plan.Suits other where
  models := by
    rw [← suits.models]
    exact congrArg (Repository.addAll · plan.models) models
  frames := by
    rw [← suits.frames]
    exact congrArg (FrameStack.putGlobals · plan.parameters.toVariables) frames
  delegates type := by
    rw [← suits.delegates]
    exact congrArg (fun held => NativeDelegate.find? (held ++ plan.delegates) type) delegates

/-- What a program does with a context that suits leaves one that suits. -/
theorem Suits.supply {frames : FrameStack} (suits : plan.Suits context)
    (confined : (plan.supply context).frames.Confined frames) :
    plan.Suits { plan.supply context with frames := frames } where
  models := by
    have again : ((plan.supply context).models).addAll plan.models =
        (plan.supply context).models :=
      Repository.addAll_addAll context.models plan.models
    exact again.trans suits.models
  frames := by
    rw [suits.frames] at confined
    exact FrameStack.putGlobals_of_confined confined
  delegates type := by
    have twice : NativeDelegate.find? ((plan.supply context).delegates ++ plan.delegates) type =
        (plan.supply context).delegateFor? type := by
      change NativeDelegate.find? ((context.delegates ++ plan.delegates) ++ plan.delegates) type =
        NativeDelegate.find? (context.delegates ++ plan.delegates) type
      rw [NativeDelegate.find?_append _ plan.delegates, NativeDelegate.find?_append]
      cases NativeDelegate.find? context.delegates type <;>
        cases NativeDelegate.find? plan.delegates type <;> rfl
    exact twice.trans (suits.delegates type)

end RunPlan

namespace ScriptEngine

/-- An evaluation that is determined takes its course on every engine that is like a given one. -/
theorem exists_course {body : Script.Setting → Script.Eval Value} {base : Script.Setting}
    (determined : Script.Eval.Determined base body) (frames : FrameStack) :
    ∃ course : Script.Course Value, ∀ (engine : ScriptEngine) (resources : Resources),
      engine.program = some base.program →
      (engine.setting base.program resources.models).Like base →
      engine.context.frames = frames →
      resources.sinks.Unlimited engine.context.stream →
      ∃ made, Act.apply (evaluate body) (engine, resources) =
        (course.result,
          { engine with context := { engine.context with frames := course.frames } },
          { resources with
            sinks := resources.sinks.print engine.context.stream course.transcript,
            objectsMade := made }) := by
  obtain ⟨course, takes⟩ := determined frames
  refine ⟨course, fun engine resources program like same unlimited => ?_⟩
  have taken := takes _ like resources.sinks resources.objectsMade
  rw [stream_setting] at taken
  obtain ⟨made, ran⟩ := taken unlimited
  refine ⟨made, ?_⟩
  have start : engine.scratch resources = ⟨frames, resources.sinks, resources.objectsMade⟩ := by
    rw [scratch, same]
  rw [apply_evaluate_some program, start, ran]

end ScriptEngine

namespace RunPlan

open Script.Eval

variable (plan : RunPlan (ScriptRunner ScriptEngine) Value)

/-- A runner that can make the run of a plan. -/
structure Ready (runner : ScriptRunner ScriptEngine) : Prop where
  mode : runner.mode = plan.engine.mode
  turns : runner.module.turns = plan.engine.module.turns
  context : plan.Suits runner.module.context

/-- A runner that has a program and the inputs of a plan, and the models of a store. -/
structure Supplied (program : Script.Program) (store : ModelStore)
    (state : ScriptRunner ScriptEngine × Resources) : Prop where
  mode : state.1.mode = plan.engine.mode
  turns : state.1.module.turns = plan.engine.module.turns
  program : state.1.module.program = some program
  context : ∃ context, plan.Suits context ∧ state.1.module.context = plan.supply context
  store : state.2.models = store

/-- What calls of a run leave that print a transcript: a runner that can make the run again, and
nothing that another run could see. -/
structure Leaves (transcript : Transcript) (before after : ScriptRunner ScriptEngine × Resources) :
    Prop where
  ready : plan.Ready after.1
  sinks : after.2.sinks = before.2.sinks.print before.1.module.context.stream transcript
  models : after.2.models = before.2.models
  files : after.2.files = before.2.files

variable {plan} {program : Script.Program} {store : ModelStore}

theorem Supplied.suits {state : ScriptRunner ScriptEngine × Resources}
    (supplied : plan.Supplied program store state) {frames : FrameStack}
    (confined : state.1.module.context.frames.Confined frames) :
    plan.Suits { state.1.module.context with frames := frames } := by
  obtain ⟨context, suits, same⟩ := supplied.context
  rw [same] at confined ⊢
  exact suits.supply confined

/-- What a program of a new engine with the inputs of a plan runs against. -/
def setting (plan : RunPlan (ScriptRunner ScriptEngine) Value) (program : Script.Program)
    (store : ModelStore) : Script.Setting :=
  { plan.engine.module with context := plan.supply .initial }.setting program store

theorem Supplied.like {state : ScriptRunner ScriptEngine × Resources}
    (supplied : plan.Supplied program store state) :
    (state.1.module.setting program state.2.models).Like (plan.setting program store) := by
  obtain ⟨context, suits, same⟩ := supplied.context
  constructor
  · rfl
  · change state.1.module.context.models = _
    rw [same]
    exact suits.models
  · exact supplied.store
  · change ∀ type, NativeDelegate.find? state.1.module.context.delegates type = _
    rw [same]
    exact suits.delegates
  · exact supplied.turns

theorem Supplied.frames {state : ScriptRunner ScriptEngine × Resources}
    (supplied : plan.Supplied program store state) :
    state.1.module.context.frames = (plan.supply .initial).frames := by
  obtain ⟨context, suits, same⟩ := supplied.context
  rw [same]
  exact suits.frames

/-- An evaluation that is determined comes to the same and prints the same on every runner that has
the inputs of the plan. -/
theorem exists_evaluates {body : Script.Setting → Script.Eval Value}
    (determined : Determined (plan.setting program store) body)
    (leaves : ∀ setting, (body setting).Leaves FrameStack.Confined) :
    ∃ answer transcript, ∀ state, plan.Supplied program store state →
      state.2.sinks.Unlimited state.1.module.context.stream →
      ∃ after, Act.apply (EngineResult.toScript <$>
          ScriptRunner.onModule (ScriptEngine.evaluate body)) state = (answer, after) ∧
        plan.Leaves transcript state after := by
  obtain ⟨course, ran⟩ := ScriptEngine.exists_course determined (plan.supply .initial).frames
  refine ⟨EngineResult.toScript course.result, course.transcript, ?_⟩
  rintro ⟨runner, resources⟩ supplied unlimited
  obtain ⟨made, ran⟩ := ran runner.module resources supplied.program supplied.like supplied.frames
    unlimited
  have confined := ScriptEngine.confined_evaluate leaves runner.module resources
  refine ⟨_, Prod.ext ?_ rfl, ?_⟩
  · change EngineResult.toScript
      (Act.apply (ScriptEngine.evaluate body) (runner.module, resources)).1 = _
    rw [ran]
  · change plan.Leaves course.transcript (runner, resources)
      ({ runner with
          module := (Act.apply (ScriptEngine.evaluate body) (runner.module, resources)).2.1 },
        (Act.apply (ScriptEngine.evaluate body) (runner.module, resources)).2.2)
    rw [ran] at confined ⊢
    exact ⟨⟨supplied.mode, supplied.turns, supplied.suits confined.frames⟩, rfl, rfl, rfl⟩

/-- An execution that ends before it evaluates anything. -/
theorem Supplied.leaves {state : ScriptRunner ScriptEngine × Resources}
    (supplied : plan.Supplied program store state) : plan.Leaves [] state state where
  ready := ⟨supplied.mode, supplied.turns, supplied.suits (.refl _)⟩
  sinks := rfl
  models := rfl
  files := rfl

theorem repeats_setting (repeatable : ∀ delegate ∈ plan.delegates, delegate.Repeatable) :
    Repeats (plan.setting program store) :=
  fun _ delegate found => repeatable delegate (List.mem_of_find?_eq_some found)

/-- Whatever the mode, the execution comes to the same on every runner that has the inputs. -/
theorem exists_executes (repeatable : ∀ delegate ∈ plan.delegates, delegate.Repeatable)
    (program : Script.Program) (store : ModelStore) :
    ∃ answer transcript, ∀ state, plan.Supplied program store state →
      state.2.sinks.Unlimited state.1.module.context.stream →
      ∃ after, Act.apply ScriptRunner.execute state = (answer, after) ∧
        plan.Leaves transcript state after := by
  have repeats : Repeats (plan.setting program store) := repeats_setting repeatable
  cases mode : plan.engine.mode with
  | script =>
      obtain ⟨answer, transcript, evaluates⟩ :=
        exists_evaluates (determined_script repeats) leaves_script
      refine ⟨answer, transcript, fun state supplied unlimited => ?_⟩
      rw [ScriptRunner.apply_execute_script (supplied.mode.trans mode)]
      exact evaluates state supplied unlimited
  | operation name? arguments =>
      cases name? with
      | none =>
          refine ⟨.error (.invalidMode .noOperationName), [], fun state supplied _ =>
            ⟨state, ?_, supplied.leaves⟩⟩
          exact ScriptRunner.apply_execute_unnamed (supplied.mode.trans mode)
      | some name =>
          have declared : ∀ state, plan.Supplied program store state →
              ScriptModule.hasOperation state.1.module name =
                (program.operation? name).isSome := by
            intro state supplied
            change ScriptEngine.hasOperation state.1.module name = _
            unfold ScriptEngine.hasOperation
            rw [supplied.program]
          cases known : (program.operation? name).isSome with
          | true =>
              obtain ⟨answer, transcript, evaluates⟩ :=
                exists_evaluates (determined_operation repeats name arguments)
                  fun setting => leaves_operation setting name arguments
              refine ⟨answer, transcript, fun state supplied unlimited => ?_⟩
              rw [ScriptRunner.apply_execute_operation (supplied.mode.trans mode),
                if_pos ((declared state supplied).trans known)]
              exact evaluates state supplied unlimited
          | false =>
              refine ⟨.error (.invalidMode (.undeclaredOperation name)), [],
                fun state supplied _ => ⟨state, ?_, supplied.leaves⟩⟩
              rw [ScriptRunner.apply_execute_operation (supplied.mode.trans mode),
                declared state supplied, known]
              rfl

/-- The calls of a run from the parse on come to an outcome and print a transcript. -/
def ComesTo (plan : RunPlan (ScriptRunner ScriptEngine) Value) (source : ResolvedSource)
    (outcome : Except ScriptError (Option Value)) (transcript : Transcript)
    (state : ScriptRunner ScriptEngine × Resources) : Prop :=
  ∃ made after, Makes LanguageExecutor.script
      [.parse source, .addModels plan.models, .addParameters plan.parameters,
        .addDelegates plan.delegates, .preProcess, .execute, .postProcess]
      none state made outcome after ∧
    plan.Leaves transcript state after

variable {source : ResolvedSource} {state : ScriptRunner ScriptEngine × Resources}

theorem comesTo_unread (ready : plan.Ready state.1) {fault : EngineError}
    (unread : source.read state.2.files = .error fault) :
    plan.ComesTo source (.error (Pass.faultError source.kind fault)) [] state :=
  ⟨_, state, ScriptRunner.makes_unread state unread, ready, rfl, rfl, rfl⟩

theorem comesTo_refused (ready : plan.Ready state.1) {text : String} {problems : List Problem}
    (read : source.read state.2.files = .ok text) (refused : Script.parse text = .error problems) :
    plan.ComesTo source (.error (ScriptRunner.refusal source.kind problems)) [] state := by
  obtain ⟨origin, makes⟩ := ScriptRunner.exists_makes_refused state read refused
  exact ⟨_, _, makes, ⟨ready.mode, ready.turns, ready.context⟩, rfl, rfl, rfl⟩

theorem comesTo_executed (ready : plan.Ready state.1) {text : String}
    (read : source.read state.2.files = .ok text) (accepted : Script.parse text = .ok program)
    {answer : Except ScriptError Value} {transcript : Transcript}
    (executes : ∀ supplied, plan.Supplied program state.2.models supplied →
      supplied.2.sinks.Unlimited supplied.1.module.context.stream →
      ∃ after, Act.apply ScriptRunner.execute supplied = (answer, after) ∧
        plan.Leaves transcript supplied after)
    (unlimited : state.2.sinks.Unlimited state.1.module.context.stream) :
    plan.ComesTo source ((answer.map some).mapError Pass.executionError) transcript state := by
  obtain ⟨origin, makes⟩ := ScriptRunner.exists_makes_executed state read accepted
    plan.models plan.parameters plan.delegates
  have stream := state.1.stream_loaded origin program plan.models plan.parameters plan.delegates
  have supplied : plan.Supplied program state.2.models
      (state.1.loaded origin program plan.models plan.parameters plan.delegates, state.2) :=
    ⟨ready.mode, ready.turns, rfl, ⟨_, ready.context, rfl⟩, rfl⟩
  obtain ⟨after, execute, left⟩ := executes _ supplied (stream ▸ unlimited)
  obtain ⟨made, makes⟩ := makes execute
  exact ⟨made, after, makes, left.ready, stream ▸ left.sinks, left.models, left.files⟩

/-- The calls of a run from the parse on come to the same, and print the same, on every runner that
is ready for the run. -/
theorem exists_comesTo (repeatable : ∀ delegate ∈ plan.delegates, delegate.Repeatable)
    (source : ResolvedSource) (read : EngineResult String) (store : ModelStore) :
    ∃ outcome transcript, ∀ state : ScriptRunner ScriptEngine × Resources,
      plan.Ready state.1 → source.read state.2.files = read → state.2.models = store →
      state.2.sinks.Unlimited state.1.module.context.stream →
      plan.ComesTo source outcome transcript state := by
  cases read with
  | error fault =>
      exact ⟨_, [], fun state ready unread _ _ => comesTo_unread ready unread⟩
  | ok text =>
      cases parsed : Script.parse text with
      | error problems =>
          exact ⟨_, [], fun state ready read _ _ => comesTo_refused ready read parsed⟩
      | ok program =>
          obtain ⟨answer, transcript, executes⟩ := exists_executes repeatable program store
          refine ⟨(answer.map some).mapError Pass.executionError, transcript, ?_⟩
          rintro state ready read rfl unlimited
          exact comesTo_executed ready read parsed executes unlimited

end RunPlan

namespace Controller

open InWorld

variable {plan : RunPlan (ScriptRunner ScriptEngine) Value}
  {controller : Controller (ScriptRunner ScriptEngine) Value}

/-- A controller of the inputs of a plan whose engine can make the run. -/
structure Serves (controller : Controller (ScriptRunner ScriptEngine) Value)
    (plan : RunPlan (ScriptRunner ScriptEngine) Value) : Prop where
  executor : controller.executor = .script
  source : controller.source = plan.source
  models : controller.models = plan.models
  parameters : controller.parameters = plan.parameters
  delegates : controller.delegates = plan.delegates
  ready : plan.Ready controller.engine

theorem Serves.redirected (serves : controller.Serves plan) :
    plan.Ready controller.redirectedEngine :=
  ⟨serves.ready.mode, serves.ready.turns, serves.ready.context.congr rfl rfl rfl⟩

/-- What a run comes to and leaves: an answer, and a transcript where its channels lead to. -/
structure RunsTo (controller : Controller (ScriptRunner ScriptEngine) Value)
    (plan : RunPlan (ScriptRunner ScriptEngine) Value) (answer : Except ScriptError Value)
    (transcript : Transcript) (resources : Resources)
    (run : Except ScriptError Value × Controller (ScriptRunner ScriptEngine) Value)
    (left : Resources) : Prop where
  answer : run.1 = answer
  sinks : left.sinks = resources.sinks.print controller.destination transcript
  models : left.models = resources.models
  files : left.files = resources.files
  serves : run.2.Serves plan

theorem Serves.kept {next : Controller (ScriptRunner ScriptEngine) Value}
    (serves : controller.Serves plan)
    (inputs : ∃ engine profile state,
      next = { controller with engine := engine, profile := profile, state := state })
    (ready : plan.Ready next.engine) : next.Serves plan := by
  obtain ⟨engine, profile, state, rfl⟩ := inputs
  exact ⟨serves.executor, serves.source, serves.models, serves.parameters, serves.delegates, ready⟩

/-- A run with refused inputs. -/
theorem Serves.runsTo_refused {resources left : Resources}
    {run : Except ScriptError Value × Controller (ScriptRunner ScriptEngine) Value}
    (serves : controller.Serves plan)
    (refused : (validateInputs plan.source plan.parameters).errors ≠ [])
    (reports : controller.Reports resources run left)
    (inputs : ∃ engine profile state,
      run.2 = { controller with engine := engine, profile := profile, state := state }) :
    controller.RunsTo plan (.error (.config (.inputs
      (validateInputs plan.source plan.parameters).errors))) [] resources run left := by
  unfold Reports at reports
  rw [serves.source, serves.parameters] at reports
  rcases reports with ⟨-, answer, -, engine, rfl⟩ | ⟨valid, -⟩
  · exact ⟨answer, rfl, rfl, rfl, serves.kept inputs (engine ▸ serves.ready)⟩
  · exact absurd valid refused

/-- A run that makes its calls. -/
theorem Serves.runsTo_made {source : ResolvedSource} {resources left : Resources}
    {outcome : Except ScriptError (Option Value)} {transcript : Transcript}
    {run : Except ScriptError Value × Controller (ScriptRunner ScriptEngine) Value}
    (serves : controller.Serves plan)
    (valid : (validateInputs plan.source plan.parameters).errors = [])
    (resolved : plan.source.resolve? = some source)
    (comes : plan.ComesTo source outcome transcript (controller.redirectedEngine, resources))
    (reports : controller.Reports resources run left)
    (inputs : ∃ engine profile state,
      run.2 = { controller with engine := engine, profile := profile, state := state }) :
    controller.RunsTo plan (outcome.map fun output => output.getD .null) transcript resources run
      left := by
  unfold Reports at reports
  rw [serves.source, serves.parameters] at reports
  rcases reports with ⟨refused, -⟩ | ⟨-, source', resolved', made, outcome', makes, ends⟩
  · exact absurd valid refused
  obtain rfl : source = source' := Option.some.inj (resolved.symm.trans resolved')
  obtain ⟨_, after, makes', leaves⟩ := comes
  have redirected := apply_redirectAll controller serves.executor resources
  rw [← serves.executor, ← serves.models, ← serves.parameters, ← serves.delegates] at makes'
  obtain ⟨_, whole⟩ := makes_redirects controller channels (by rwa [redirected])
  obtain ⟨-, rfl, rfl⟩ := makes.unique whole
  refine ⟨?_, ?_, leaves.models, leaves.files, serves.kept inputs leaves.ready⟩
  · rcases ends with ⟨output, rfl, answer, -⟩ | ⟨error, rfl, answer, -⟩
    · exact answer
    · exact answer
  · rw [← stream_redirectedEngine]
    exact leaves.sinks

/-- Every run of a plan has the same answer and the same transcript. -/
theorem exists_runsTo (repeatable : ∀ delegate ∈ plan.delegates, delegate.Repeatable)
    (read : Option (EngineResult String)) (store : ModelStore) :
    ∃ answer transcript, ∀ (controller : Controller (ScriptRunner ScriptEngine) Value)
      (resources : Resources), controller.Serves plan → controller.state = .constructed →
      plan.source.read? resources.files = read → resources.models = store →
      resources.sinks.Unlimited controller.destination →
      controller.run.Ensures resources
        (controller.RunsTo plan answer transcript resources) := by
  by_cases valid : (validateInputs plan.source plan.parameters).errors = []
  · obtain ⟨source, resolved⟩ := exists_resolve_of_valid valid
    have readable : ∀ files, plan.source.read? files = some (source.read files) := by
      intro files
      rw [ExecutionSource.read?, resolved]
      rfl
    obtain ⟨outcome, transcript, comes⟩ :=
      RunPlan.exists_comesTo repeatable source (read.getD (.ok "")) store
    refine ⟨outcome.map fun output => output.getD .null, transcript, ?_⟩
    intro controller resources serves fresh same stored unlimited
    have comes := comes (controller.redirectedEngine, resources) serves.redirected
      (by rw [← same, readable]; rfl) stored (by rwa [stream_redirectedEngine])
    exact ((ensures_run controller fresh resources).and
      (ensures_run_inputs controller resources)).mono fun run left both =>
        serves.runsTo_made valid resolved comes both.1 both.2
  · refine ⟨.error (.config (.inputs (validateInputs plan.source plan.parameters).errors)), [],
      fun controller resources serves fresh _ _ _ => ?_⟩
    exact ((ensures_run controller fresh resources).and
      (ensures_run_inputs controller resources)).mono fun run left both =>
        serves.runsTo_refused valid both.1 both.2

section Renewal

variable {σ ρ : Type}

/-- Redirect channels one after the other. -/
def redirectedAll (controller : Controller σ ρ) :
    List (Channel × Stream) → InWorld (Controller σ ρ)
  | [] => return controller
  | (channel, stream) :: rest => do
      let next ← controller.redirected channel stream
      redirectedAll next rest

/-- A redirection keeps the engine and the inputs. -/
theorem ensures_redirected (serves : controller.Serves plan) (channel : Channel) (stream : Stream)
    (resources : Resources) :
    (controller.redirected channel stream).Ensures resources fun next left =>
      (next.Serves plan ∧ next.state = .constructed) ∧ left = resources := by
  obtain ⟨executor, source, models, parameters, delegates, ready⟩ := serves
  refine (ensures_redirected_inputs controller channel stream resources).mono ?_
  rintro next left ⟨rfl, runId, profile, rfl⟩
  refine ⟨⟨?_, rfl⟩, rfl⟩
  cases channel <;> exact ⟨executor, source, models, parameters, delegates, ready⟩

theorem ensures_redirectedAll (redirections : List (Channel × Stream)) (resources : Resources) :
    ∀ {controller : Controller (ScriptRunner ScriptEngine) Value},
      controller.Serves plan → controller.state = .constructed →
      (controller.redirectedAll redirections).Ensures resources fun next left =>
        (next.Serves plan ∧ next.state = .constructed) ∧ left = resources := by
  induction redirections with
  | nil => exact fun serves fresh => ensures_pure ⟨⟨serves, fresh⟩, rfl⟩
  | cons redirection rest ih =>
      intro controller serves fresh
      refine (ensures_redirected serves redirection.1 redirection.2 resources).bind ?_
      rintro next _ ⟨⟨serves, fresh⟩, rfl⟩
      exact ih serves fresh

end Renewal

end Controller

namespace RunPlan

open InWorld

/-- A plan whose channels are first sent to the given streams. -/
def sending {σ ρ : Type} (plan : RunPlan σ ρ) (streams : Channel → Option Stream) :
    RunPlan σ ρ :=
  { plan with output := streams .output, warning := streams .warning, error := streams .error }

theorem ensures_build {plan : RunPlan (ScriptRunner ScriptEngine) Value} {turns : Nat}
    (script : plan.executor = .script) (fresh : plan.engine.module = .new turns)
    (streams : Channel → Option Stream) (resources : Resources) :
    (plan.sending streams).build.Ensures resources fun controller left =>
      (controller.Serves plan ∧ controller.state = .constructed) ∧ left = resources := by
  refine (Controller.ensures_build_inputs (plan.sending streams) resources).mono ?_
  rintro controller left ⟨rfl, runId, profile, rfl⟩
  refine ⟨⟨⟨script, rfl, rfl, rfl, rfl, rfl, rfl, ?_⟩, rfl⟩, rfl⟩
  change plan.Suits plan.engine.module.context
  rw [fresh]
  exact plan.suits_initial

/-- What a program of the script language comes to on a new engine, and what it prints to the
channels, depends on the source, the models and the inputs alone, and not on where the channels lead
to. A run after any redirections comes to the same and prints the same as the run before them, as
long as the source and the models are the same and the sinks take everything. -/
theorem run_again (plan : RunPlan (ScriptRunner ScriptEngine) Value) (turns : Nat)
    (script : plan.executor = .script) (fresh : plan.engine.module = .new turns)
    (repeatable : ∀ delegate ∈ plan.delegates, delegate.Repeatable)
    (read : Option (EngineResult String)) (store : ModelStore) :
    ∃ answer transcript, ∀ (streams : Channel → Option Stream)
      (redirections : List (Channel × Stream)) (world between : World),
      let built := (plan.sending streams).build.run world
      let first := built.1.run.run built.2
      let renewed := (first.1.2.redirectedAll redirections).run between
      let second := renewed.1.run.run renewed.2
      redirections ≠ [] →
      plan.source.read? world.resources.files = read → world.resources.models = store →
      plan.source.read? between.resources.files = read → between.resources.models = store →
      world.resources.sinks.Unlimited built.1.destination →
      between.resources.sinks.Unlimited renewed.1.destination →
      (first.1.1 = answer ∧
        first.2.resources.sinks = world.resources.sinks.print built.1.destination transcript ∧
        first.2.resources.files = world.resources.files ∧ first.2.resources.models = store) ∧
      second.1.1 = answer ∧
        second.2.resources.sinks =
          between.resources.sinks.print renewed.1.destination transcript := by
  obtain ⟨answer, transcript, runs⟩ := Controller.exists_runsTo repeatable read store
  refine ⟨answer, transcript, fun streams redirections world between => ?_⟩
  intro built first renewed second some read₁ store₁ read₂ store₂ unlimited₁ unlimited₂
  obtain ⟨⟨serves, constructed⟩, left⟩ := ensures_build script fresh streams _ world rfl
  have one := runs built.1 world.resources serves constructed read₁ store₁ unlimited₁ built.2 left
  refine ⟨⟨one.answer, one.sinks, one.files, one.models.trans store₁⟩, ?_⟩
  obtain ⟨redirection, rest, rfl⟩ := List.exists_cons_of_ne_nil some
  have renews : (first.1.2.redirectedAll (redirection :: rest)).Ensures between.resources
      fun next left => (next.Serves plan ∧ next.state = .constructed) ∧
        left = between.resources := by
    refine (Controller.ensures_redirected one.serves _ _ _).bind ?_
    rintro next _ ⟨⟨serves, constructed⟩, rfl⟩
    exact Controller.ensures_redirectedAll rest _ serves constructed
  obtain ⟨⟨serves, constructed⟩, left⟩ := renews between rfl
  have two := runs renewed.1 between.resources serves constructed read₂ store₂ unlimited₂
    renewed.2 left
  exact ⟨two.answer, two.sinks⟩

/-- A program that counts up a global: what the first run made of it does not show in the second,
which writes to another channel's stream. -/
theorem run_again_counting :
    let world := World.initial ⟨⟨"", "", "", 0⟩, fun _ => 0, fun _ => "", fun _ => ""⟩
    let plan := ((RunPlan.new LanguageExecutor.script (ScriptRunner.new (.new 8))).code
      "println(count); count = count + 1; return count;").parameter "count"
        (.binding (.mutable "count" (.integer 1)))
    let built := (plan.sending fun _ => none).build.run world
    let first := built.1.run.run built.2
    let renewed := (first.1.2.redirectedAll [(.output, .stderr)]).run first.2
    let second := renewed.1.run.run renewed.2
    second.1.1 = first.1.1 ∧ ∃ transcript,
      first.2.resources.sinks = world.resources.sinks.print built.1.destination transcript ∧
      second.2.resources.sinks =
        first.2.resources.sinks.print renewed.1.destination transcript := by
  intro world plan built first renewed second
  have repeatable : ∀ delegate ∈ plan.delegates, delegate.Repeatable := nofun
  have standard : ∀ streams, world.resources.sinks.Unlimited streams := by
    intro streams channel
    rw [Sinks.capacity_get]
    rcases (streams channel).sink with _ | _ | _ <;> rfl
  -- What the first run leaves is read off from any second run.
  obtain ⟨answer, transcript, runs⟩ :=
    run_again plan 8 rfl rfl repeatable (plan.source.read? .empty) .empty
  obtain ⟨⟨-, sinks, files, models⟩, -⟩ := runs (fun _ => none) [(.output, .stderr)] world world
    (List.cons_ne_nil _ _) rfl rfl rfl rfl (standard _) (standard _)
  have unlimited : first.2.resources.sinks.Unlimited renewed.1.destination := by
    rw [sinks]
    exact (standard _).of_capacities (Sinks.capacities_print _ _ _)
  obtain ⟨⟨answered, -⟩, again, printed⟩ := runs (fun _ => none) [(.output, .stderr)] world first.2
    (List.cons_ne_nil _ _) rfl rfl (congrArg plan.source.read? files) models (standard _) unlimited
  exact ⟨again.trans answered.symm, transcript, sinks, printed⟩

end RunPlan
end StagedScript
