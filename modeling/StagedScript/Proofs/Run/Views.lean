import StagedScript.Proofs.Run.Calls
import StagedScript.Proofs.Run.History

/-!
# Executors that keep more

An executor may keep more in its state than another one and do the same besides: there is a view of
the state such that, seen through it, every operation is the one of the other executor. Controllers
over two such executors take the same calls to the same answers and leave the same world, since they
only ever ask their executors to do something.

**Results.** Whatever calls they take, controllers answer the same and go on as each other, seen
through the view (`Controller.agrees_takeAll`). Writing down the calls of an executor is such a case
(`LanguageExecutor.shows_recorded`).
-/

namespace StagedScript

section Views

variable {σ τ ρ α β : Type} {view : τ → σ}

/-- What came of an action, with a view of the state. -/
def Act.seen (view : τ → σ) (result : (α × τ) × Resources) : (α × σ) × Resources :=
  ((result.1.1, view result.1.2), result.2)

/-- Seen through a view of the state, an action is another one. -/
def Act.Shows (view : τ → σ) (action : Act τ α) (plain : Act σ α) : Prop :=
  ∀ state resources, (plain.run (view state)).run resources =
    Act.seen view <$> (action.run state).run resources

theorem Act.shows_pure (view : τ → σ) (a : α) : Shows view (pure a) (pure a) :=
  fun _ _ => rfl

theorem Act.Shows.bind {action : Act τ α} {plain : Act σ α} {next : α → Act τ β}
    {more : α → Act σ β} (first : action.Shows view plain)
    (rest : ∀ a, (next a).Shows view (more a)) : (action >>= next).Shows view (plain >>= more) := by
  intro state resources
  have left : ((plain >>= more).run (view state)).run resources =
      (plain.run (view state)).run resources >>= fun r => ((more r.1.1).run r.1.2).run r.2 := rfl
  have right : ((action >>= next).run state).run resources =
      (action.run state).run resources >>= fun r => ((next r.1.1).run r.1.2).run r.2 := rfl
  rw [left, right, first state resources, bind_map_left, map_bind]
  exact congrArg _ (funext fun r => rest r.1.1 r.1.2 r.2)

theorem Act.shows_recorded (call : ExecutorCall) (action : Act σ α) :
    (Act.recorded call action).Shows Prod.fst action := by
  intro state resources
  have taken : ((Act.recorded call action).run state).run resources =
      (action.run state.1).run resources >>= fun r =>
        pure ((r.1.1, (r.1.2, state.2 ++ [call])), r.2) := rfl
  rw [taken, map_bind]
  simp only [map_pure]
  exact (bind_pure _).symm

/-- Seen through a view of the state, an executor is another one. -/
structure LanguageExecutor.Shows (view : τ → σ) (executor : LanguageExecutor τ ρ)
    (plain : LanguageExecutor σ ρ) : Prop where
  language : ∀ state, plain.language (view state) = executor.language state
  parse : ∀ source, (executor.parse source).Shows view (plain.parse source)
  problems : ∀ state, plain.problems (view state) = executor.problems state
  addModels : ∀ models, (executor.addModels models).Shows view (plain.addModels models)
  addParameters : ∀ parameters,
    (executor.addParameters parameters).Shows view (plain.addParameters parameters)
  addDelegates : ∀ delegates,
    (executor.addDelegates delegates).Shows view (plain.addDelegates delegates)
  ruleTimings : ∀ state, plain.ruleTimings (view state) = executor.ruleTimings state
  disposeModels : executor.disposeModels.Shows view plain.disposeModels
  clearModels : executor.clearModels.Shows view plain.clearModels
  dispose : executor.dispose.Shows view plain.dispose
  redirect : ∀ channel stream,
    (executor.redirect channel stream).Shows view (plain.redirect channel stream)
  preProcess : executor.preProcess.Shows view plain.preProcess
  execute : executor.execute.Shows view plain.execute
  postProcess : executor.postProcess.Shows view plain.postProcess

theorem LanguageExecutor.shows_recorded (executor : LanguageExecutor σ ρ) :
    executor.recorded.Shows Prod.fst executor where
  language _ := rfl
  parse source := by
    rw [recorded_parse]
    exact Act.shows_recorded _ _
  problems _ := rfl
  addModels _ := Act.shows_recorded _ _
  addParameters _ := Act.shows_recorded _ _
  addDelegates _ := Act.shows_recorded _ _
  ruleTimings _ := rfl
  disposeModels := Act.shows_recorded _ _
  clearModels := Act.shows_recorded _ _
  dispose := Act.shows_recorded _ _
  redirect _ _ := Act.shows_recorded _ _
  preProcess := Act.shows_recorded _ _
  execute := Act.shows_recorded _ _
  postProcess := Act.shows_recorded _ _

end Views

namespace InWorld

variable {σ τ α β α' β' : Type} {view : τ → σ}

/-- In every world, two computations have related values and leave the same world. -/
def Agrees (m : InWorld α) (n : InWorld β) (both : α → β → Prop) : Prop :=
  ∀ world, both (m.run world).1 (n.run world).1 ∧ (m.run world).2 = (n.run world).2

theorem agrees_pure {a : α} {b : β} {both : α → β → Prop} (related : both a b) :
    Agrees (pure a) (pure b) both :=
  fun _ => ⟨related, rfl⟩

theorem agrees_self (m : InWorld α) : Agrees m m Eq :=
  fun _ => ⟨rfl, rfl⟩

theorem Agrees.bind {m : InWorld α} {n : InWorld β} {f : α → InWorld α'} {g : β → InWorld β'}
    {mid : α → β → Prop} {both : α' → β' → Prop} (first : Agrees m n mid)
    (next : ∀ a b, mid a b → Agrees (f a) (g b) both) : Agrees (m >>= f) (n >>= g) both := by
  intro world
  obtain ⟨related, same⟩ := first world
  have rest := next _ _ related (m.run world).2
  have left : (m >>= f).run world = (f (m.run world).1).run (m.run world).2 := rfl
  have right : (n >>= g).run world = (g (n.run world).1).run (n.run world).2 := rfl
  rw [left, right, ← same]
  exact rest

/-- What is done on both sides goes on with the same value. -/
theorem agrees_bind {m : InWorld α} {f : α → InWorld α'} {g : α → InWorld β'}
    {both : α' → β' → Prop} (next : ∀ a, Agrees (f a) (g a) both) :
    Agrees (m >>= f) (m >>= g) both := by
  refine (agrees_self m).bind ?_
  rintro a _ rfl
  exact next a

theorem run_perform (action : Act σ α) (state : σ) (world : World) :
    (perform action state).run world =
      let came := (action.run state).run world.resources
      (came.value.1,
        { world with log := world.log ++ came.records, resources := came.value.2 }) :=
  rfl

theorem agrees_perform {action : Act τ α} {plain : Act σ α} (shown : action.Shows view plain)
    (state : τ) : Agrees (perform action state) (perform plain (view state))
      fun full seen => seen = (full.1, view full.2) := by
  intro world
  have same := shown state world.resources
  have mapped : Act.seen view <$> (action.run state).run world.resources =
      ⟨Act.seen view ((action.run state).run world.resources).value,
        ((action.run state).run world.resources).records⟩ := by
    apply Logged.ext
    · rfl
    · exact List.append_nil _
  rw [run_perform, run_perform, same, mapped]
  exact ⟨rfl, rfl⟩

end InWorld

section Attempts

variable {σ τ ρ α β α' β' : Type} {view : τ → σ}

/-- What is left of a failed pass, with a view of the state. -/
def FailedPass.seen (view : τ → σ) (failed : FailedPass τ) : FailedPass σ :=
  ⟨failed.error, view failed.state, failed.profile⟩

/-- Related values, or the same failure. -/
inductive SeenEnds (view : τ → σ) (both : α → β → Prop) :
    Except (FailedPass τ) α → Except (FailedPass σ) β → Prop
  | ok {a : α} {b : β} : both a b → SeenEnds view both (.ok a) (.ok b)
  | error (failed : FailedPass τ) : SeenEnds view both (.error failed) (.error (failed.seen view))

namespace Attempt

/-- In every world, two attempts end in the same way and leave the same world. -/
def Agrees (view : τ → σ) (m : Attempt τ α) (n : Attempt σ β) (both : α → β → Prop) : Prop :=
  InWorld.Agrees m.run n.run (SeenEnds view both)

theorem agrees_pure {a : α} {b : β} {both : α → β → Prop} (related : both a b) :
    Agrees view (pure a : Attempt τ α) (pure b) both :=
  InWorld.agrees_pure (.ok related)

theorem Agrees.bind {m : Attempt τ α} {n : Attempt σ β} {f : α → Attempt τ α'}
    {g : β → Attempt σ β'} {mid : α → β → Prop} {both : α' → β' → Prop}
    (first : Agrees view m n mid) (next : ∀ a b, mid a b → Agrees view (f a) (g b) both) :
    Agrees view (m >>= f) (n >>= g) both := by
  unfold Agrees at first ⊢
  refine first.bind (f := ExceptT.bindCont f) (g := ExceptT.bindCont g) fun left right ends => ?_
  cases ends with
  | ok related => exact next _ _ related
  | error failed => exact InWorld.agrees_pure (.error failed)

theorem agrees_lift {m : InWorld α} {n : InWorld β} {both : α → β → Prop}
    (same : m.Agrees n both) : Agrees view (liftM m : Attempt τ α) (liftM n) both :=
  same.bind fun _ _ related => InWorld.agrees_pure (.ok related)

end Attempt
end Attempts

namespace Pass

open InWorld

variable {σ τ ρ α β : Type} {reached : LifecycleState} {view : τ → σ}
  {plain : LanguageExecutor σ ρ} {pass : Pass τ ρ reached} {other : Pass σ ρ reached}

/-- Seen through a view of the state, a pass is another one. -/
def Shows (view : τ → σ) (pass : Pass τ ρ reached) (other : Pass σ ρ reached) : Prop :=
  pass.executor.Shows view other.executor ∧ other.state = view pass.state ∧
    other.profile = pass.profile

theorem Shows.advance (shown : pass.Shows view other) (next : LifecycleState) :
    (pass.advance next).Shows view (other.advance next) :=
  shown

theorem agrees_fail {both : α → β → Prop} (shown : pass.Shows view other) (error : ScriptError) :
    Attempt.Agrees view (pass.fail error : Attempt τ α) (other.fail error) both := by
  obtain ⟨executor, state, profile⟩ := other
  obtain ⟨_, rfl, rfl⟩ := shown
  exact InWorld.agrees_pure (.error ⟨error, pass.state, pass.profile⟩)

/-- What is logged before a failure is the same. -/
theorem agrees_fail_after {both : α → β → Prop} (shown : pass.Shows view other)
    (note : InWorld Unit) (error : ScriptError) :
    Attempt.Agrees view (do note; pass.fail error : Attempt τ α) (do note; other.fail error)
      both :=
  (Attempt.agrees_lift (agrees_self note)).bind fun _ _ _ => agrees_fail shown error

theorem agrees_onProfile (shown : pass.Shows view other)
    {change change' : Profile → InWorld Profile} (same : change' = change) :
    (pass.onProfile change).Agrees (other.onProfile change') (Shows view) := by
  obtain ⟨executor, state, profile⟩ := other
  obtain ⟨isShown, rfl, rfl⟩ := shown
  subst same
  unfold onProfile
  dsimp only
  split
  · exact InWorld.agrees_pure ⟨isShown, rfl, rfl⟩
  · exact agrees_bind fun _ => InWorld.agrees_pure ⟨isShown, rfl, rfl⟩

theorem agrees_perform (shown : pass.Shows view other) {action : Act τ α} {action' : Act σ α}
    (same : action.Shows view action') : (pass.perform action).Agrees (other.perform action')
      fun left right => left.1 = right.1 ∧ left.2.Shows view right.2 := by
  obtain ⟨executor, state, profile⟩ := other
  obtain ⟨isShown, rfl, rfl⟩ := shown
  refine (InWorld.agrees_perform same pass.state).bind ?_
  rintro ⟨result, state⟩ _ rfl
  exact InWorld.agrees_pure ⟨rfl, isShown, rfl, rfl⟩

theorem agrees_span (shown : pass.Shows view other) (stage : Stage) {action : Act τ α}
    {action' : Act σ α} (same : action.Shows view action') :
    (pass.span stage action).Agrees (other.span stage action')
      fun left right => left.1 = right.1 ∧ left.2.Shows view right.2 := by
  unfold span
  refine agrees_bind fun started => (agrees_onProfile shown rfl).bind fun opened opened' shown => ?_
  refine (agrees_perform shown same).bind ?_
  rintro ⟨result, acted⟩ ⟨_, acted'⟩ ⟨rfl, shown⟩
  refine (agrees_onProfile shown rfl).bind fun closed closed' shown => ?_
  refine agrees_bind fun elapsed => agrees_bind fun _ => ?_
  exact InWorld.agrees_pure ⟨rfl, shown⟩

theorem agrees_parse {pass : Pass τ ρ .constructed} {other : Pass σ ρ .constructed}
    (shown : pass.Shows view other) (source : ResolvedSource) :
    Attempt.Agrees view (pass.parse source) (other.parse source) (Shows view) := by
  unfold parse
  refine (Attempt.agrees_lift (agrees_perform shown (shown.1.parse source))).bind ?_
  rintro ⟨parsed, pass⟩ ⟨_, other⟩ ⟨rfl, shown⟩
  have problems : other.executor.problems other.state = pass.executor.problems pass.state := by
    rw [shown.2.1, shown.1.problems]
  dsimp only
  rw [problems]
  split
  · exact agrees_fail_after shown _ _
  · split
    · exact agrees_fail_after shown _ _
    · split
      · exact agrees_fail_after shown _ _
      · exact Attempt.agrees_pure (shown.advance _)

theorem agrees_prepare {pass : Pass τ ρ .parsed} {other : Pass σ ρ .parsed}
    (shown : pass.Shows view other) (models : List ModelHandle) (parameters : Parameters)
    (delegates : List NativeDelegate) :
    (pass.prepare models parameters delegates).Agrees (other.prepare models parameters delegates)
      (Shows view) := by
  unfold prepare
  refine (agrees_span shown _ ?_).bind ?_
  · exact (shown.1.addModels models).bind fun _ => (shown.1.addParameters parameters).bind
      fun _ => shown.1.addDelegates delegates
  · rintro ⟨_, prepared⟩ ⟨_, prepared'⟩ ⟨-, shown⟩
    exact InWorld.agrees_pure (shown.advance _)

theorem agrees_hook (shown : pass.Shows view other) (stage : Stage)
    {action : Act τ (Except ScriptError Unit)} {action' : Act σ (Except ScriptError Unit)}
    (same : action.Shows view action') (next : LifecycleState) :
    Attempt.Agrees view (pass.hook stage action next) (other.hook stage action' next)
      (Shows view) := by
  unfold hook
  refine (Attempt.agrees_lift (agrees_span shown stage same)).bind ?_
  rintro ⟨result, pass⟩ ⟨_, other⟩ ⟨rfl, shown⟩
  dsimp only
  split
  · exact Attempt.agrees_pure (shown.advance next)
  · exact agrees_fail_after shown _ _

theorem agrees_execute {pass : Pass τ ρ .preProcessed} {other : Pass σ ρ .preProcessed}
    (shown : pass.Shows view other) :
    Attempt.Agrees view pass.execute other.execute
      fun left right => left.1 = right.1 ∧ left.2.Shows view right.2 := by
  unfold execute
  refine (Attempt.agrees_lift (agrees_span shown _ shown.1.execute)).bind ?_
  rintro ⟨result, pass⟩ ⟨_, other⟩ ⟨rfl, shown⟩
  dsimp only
  split
  · exact Attempt.agrees_pure ⟨rfl, shown.advance _⟩
  · exact agrees_fail_after shown _ _

theorem agrees_finish {pass : Pass τ ρ .postProcessed} {other : Pass σ ρ .postProcessed}
    (shown : pass.Shows view other) : pass.finish.Agrees other.finish (Shows view) := by
  refine agrees_onProfile shown ?_
  rw [shown.2.1, shown.1.ruleTimings]

end Pass

namespace Controller

open InWorld

variable {σ τ ρ : Type} {view : τ → σ} {controller : Controller τ ρ} {other : Controller σ ρ}

/-- The controller of another executor with the same inputs, with a view of the state. -/
def seen (view : τ → σ) (plain : LanguageExecutor σ ρ) (controller : Controller τ ρ) :
    Controller σ ρ where
  runId := controller.runId
  executor := plain
  engine := view controller.engine
  source := controller.source
  models := controller.models
  parameters := controller.parameters
  delegates := controller.delegates
  options := controller.options
  probe := controller.probe
  output := controller.output
  warning := controller.warning
  error := controller.error
  profile := controller.profile
  state := controller.state

/-- Seen through a view of the executor's state, a controller is another one. -/
def Shows (view : τ → σ) (controller : Controller τ ρ) (other : Controller σ ρ) : Prop :=
  controller.executor.Shows view other.executor ∧ other = controller.seen view other.executor

theorem shows_redirectAll (shown : controller.Shows view other) :
    controller.redirectAll.Shows view other.redirectAll := by
  obtain ⟨isShown, same⟩ := shown
  have each (channel : Channel) :
      (controller.redirectChannel channel).Shows view (other.redirectChannel channel) := by
    have stream : other.stream? channel = controller.stream? channel := by
      rw [same]
      cases channel <;> rfl
    unfold redirectChannel
    rw [stream]
    split
    · exact isShown.redirect _ _
    · exact Act.shows_pure view ()
  exact (each .output).bind fun _ => (each .warning).bind fun _ => (each .error).bind fun _ =>
    Act.shows_pure view ()

theorem agrees_lead (shown : controller.Shows view other) {pass : Pass τ ρ .constructed}
    {pass' : Pass σ ρ .constructed} (start : pass.Shows view pass') (source : ResolvedSource) :
    Attempt.Agrees view (controller.lead pass source) (other.lead pass' source)
      fun left right => left.1 = right.1 ∧ left.2.Shows view right.2 := by
  rw [shown.2]
  unfold lead
  refine (Pass.agrees_parse start source).bind fun parsed parsed' shown => ?_
  refine (Attempt.agrees_lift (Pass.agrees_prepare shown _ _ _)).bind
    fun prepared prepared' shown => ?_
  refine (Pass.agrees_hook shown _ shown.1.preProcess _).bind
    fun preProcessed preProcessed' shown => ?_
  refine (Pass.agrees_execute shown).bind ?_
  rintro ⟨output, executed⟩ ⟨_, executed'⟩ ⟨rfl, shown⟩
  refine (Pass.agrees_hook shown _ shown.1.postProcess _).bind
    fun postProcessed postProcessed' shown => ?_
  refine (Attempt.agrees_lift (Pass.agrees_finish shown)).bind fun finished finished' shown => ?_
  exact Attempt.agrees_pure ⟨rfl, shown⟩

theorem agrees_openPass (shown : controller.Shows view other) :
    controller.openPass.Agrees other.openPass (Pass.Shows view) := by
  have begins : (Pass.start controller.executor controller.engine controller.profile).Shows view
      (Pass.start other.executor other.engine other.profile) := by
    refine ⟨shown.1, ?_, ?_⟩
    · exact congrArg Controller.engine shown.2
    · exact congrArg Controller.profile shown.2
  unfold openPass
  refine (Pass.agrees_onProfile begins rfl).bind fun started started' shown' => ?_
  refine (Pass.agrees_perform shown' (shows_redirectAll shown)).bind ?_
  rintro ⟨_, redirected⟩ ⟨_, redirected'⟩ ⟨-, shown⟩
  exact agrees_pure shown

theorem agrees_validate (shown : controller.Shows view other) :
    Attempt.Agrees view controller.validate other.validate fun _ _ => True := by
  rw [shown.2]
  unfold validate
  refine (Attempt.agrees_lift (agrees_self _)).bind ?_
  rintro result _ rfl
  cases result with
  | ok warnings => exact Attempt.agrees_pure trivial
  | error error =>
      exact InWorld.agrees_pure (.error ⟨error, controller.engine, controller.profile⟩)

theorem agrees_attempt (shown : controller.Shows view other) :
    Attempt.Agrees view controller.attempt other.attempt
      fun left right => left.1 = right.1 ∧ left.2.Shows view right.2 := by
  have source : other.source = controller.source := congrArg Controller.source shown.2
  unfold attempt
  refine (agrees_validate shown).bind fun _ _ _ => ?_
  refine (Attempt.agrees_lift (agrees_openPass shown)).bind fun pass pass' start => ?_
  rw [source]
  split
  · exact agrees_lead shown start _
  · exact Pass.agrees_fail start _

theorem agrees_run (shown : controller.Shows view other) :
    controller.run.Agrees other.run
      fun left right => left.1 = right.1 ∧ left.2.Shows view right.2 := by
  have attempted : InWorld.Agrees controller.attempt.run other.attempt.run _ :=
    agrees_attempt shown
  have language : other.executor.language other.engine =
      controller.executor.language controller.engine := by
    rw [shown.2]
    exact shown.1.language controller.engine
  have runId : other.runId = controller.runId := congrArg Controller.runId shown.2
  have state : other.state = controller.state := congrArg Controller.state shown.2
  unfold run
  rw [language, runId, state]
  split
  · exact agrees_pure ⟨rfl, shown⟩
  · refine agrees_bind fun _ => agrees_bind fun _ => agrees_bind fun _ => ?_
    refine agrees_bind fun started => attempted.bind fun outcome outcome' ends => ?_
    refine agrees_bind fun elapsed => ?_
    cases ends with
    | @ok left right related =>
        obtain ⟨output, pass⟩ := left
        obtain ⟨_, executor, engine, profile⟩ := right
        obtain ⟨rfl, isShown, rfl, rfl⟩ := related
        refine agrees_bind fun _ => agrees_pure ⟨rfl, shown.1, ?_⟩
        rw [shown.2]
        rfl
    | error failed =>
        refine agrees_bind fun _ => agrees_pure ⟨rfl, shown.1, ?_⟩
        rw [shown.2]
        rfl

theorem agrees_dispose (shown : controller.Shows view other) :
    controller.dispose.Agrees other.dispose (Shows view) := by
  have releases : controller.release.Shows view other.release ∧
      other.releaseNote = controller.releaseNote := by
    rw [shown.2]
    unfold release releaseNote
    refine ⟨?_, rfl⟩
    change (if controller.options.disposeModels then _ else _ : Act τ Unit).Shows view
      (if controller.options.disposeModels then other.executor.disposeModels else
        other.executor.clearModels)
    split
    · exact shown.1.disposeModels
    · exact shown.1.clearModels
  have engine : other.engine = view controller.engine := congrArg Controller.engine shown.2
  rw [dispose_eq, dispose_eq, releases.2, engine]
  refine agrees_bind fun _ => (agrees_perform releases.1 controller.engine).bind ?_
  rintro ⟨_, engine⟩ _ rfl
  refine agrees_bind fun _ => (agrees_perform shown.1.dispose engine).bind ?_
  rintro ⟨_, left⟩ _ rfl
  refine agrees_bind fun _ => agrees_pure ⟨shown.1, ?_⟩
  rw [shown.2]
  rfl

theorem agrees_redirected (shown : controller.Shows view other) (channel : Channel)
    (stream : Stream) :
    (controller.redirected channel stream).Agrees (other.redirected channel stream)
      (Shows view) := by
  rw [shown.2]
  unfold redirected renewed
  cases channel <;>
    exact agrees_bind fun _ => agrees_bind fun _ => agrees_pure ⟨shown.1, rfl⟩

theorem agrees_take (shown : controller.Shows view other) (call : ControllerCall) :
    (controller.take call).Agrees (other.take call)
      fun left right => left.1 = right.1 ∧ left.2.Shows view right.2 := by
  cases call with
  | run =>
      refine (agrees_run shown).bind fun left right ⟨answer, shown⟩ => ?_
      exact agrees_pure ⟨congrArg some answer, shown⟩
  | redirect channel stream =>
      exact (agrees_redirected shown channel stream).bind
        fun _ _ shown => agrees_pure ⟨rfl, shown⟩
  | dispose => exact (agrees_dispose shown).bind fun _ _ shown => agrees_pure ⟨rfl, shown⟩

theorem agrees_takeAll (calls : List ControllerCall) :
    ∀ {controller : Controller τ ρ} {other : Controller σ ρ}, controller.Shows view other →
      (controller.takeAll calls).Agrees (other.takeAll calls)
        fun left right => left.1 = right.1 ∧ left.2.Shows view right.2 := by
  induction calls with
  | nil => exact fun shown => agrees_pure ⟨rfl, shown⟩
  | cons call rest ih =>
      intro controller other shown
      refine (agrees_take shown call).bind ?_
      rintro ⟨answer, next⟩ ⟨_, next'⟩ ⟨rfl, shown⟩
      refine (ih shown).bind ?_
      rintro ⟨answers, last⟩ ⟨_, last'⟩ ⟨rfl, shown⟩
      exact agrees_pure ⟨rfl, shown⟩

end Controller
end StagedScript
