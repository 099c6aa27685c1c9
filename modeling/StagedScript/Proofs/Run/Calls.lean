import StagedScript.Engine.Canned
import StagedScript.Executor.Rules
import StagedScript.Run.Plan
import StagedScript.Proofs.Run.Effects

/-!
# The calls that a run makes

A run asks its executor to do one thing after the other and stops at the first that fails. What a
call comes to is a relation with one rule for each way in which it can end; the rules say which
error the run reports. `Makes` carries out a list of calls by these rules.

The executor stands for itself in all of this: it is any record of operations. To see which calls
a run makes, the same executor is made to write down each call that it takes.

**Results.** A run of a newly made controller makes a front of one fixed list of calls, up to the
first that fails, and reports what that call came to (`run_recorded`).
-/

namespace StagedScript

/-- A call that an executor takes. -/
inductive ExecutorCall where
  | redirect (channel : Channel) (stream : Stream)
  | parse (source : ResolvedSource)
  | addModels (models : List ModelHandle)
  | addParameters (parameters : Parameters)
  | addDelegates (delegates : List NativeDelegate)
  | preProcess
  | execute
  | postProcess
  | disposeModels
  | clearModels
  | dispose

section Answers

variable {σ ρ : Type} (executor : LanguageExecutor σ ρ)

/-- What a call comes to, in the state of the executor and with the resources that it finds: the
result of the program if it is the execution, nothing if it is another that went well, or the error
that the run is to report. -/
inductive Answers : ExecutorCall → σ × Resources → Except ScriptError (Option ρ) →
    σ × Resources → Prop
  | redirect {state : σ × Resources} {channel : Channel} {stream : Stream} :
      Answers (.redirect channel stream) state (.ok none)
        (Act.apply (executor.redirect channel stream) state).2
  | parsed {state after : σ × Resources} {source : ResolvedSource} :
      Act.apply (executor.parse source) state = (.ok true, after) →
      executor.problems after.1 = [] →
      Answers (.parse source) state (.ok none) after
  | parseFault {state after : σ × Resources} {source : ResolvedSource} {fault : EngineError} :
      Act.apply (executor.parse source) state = (.error fault, after) →
      Answers (.parse source) state
        (.error (.parse source.kind fault.message [] (some fault))) after
  | parseProblems {state after : σ × Resources} {source : ResolvedSource} {accepted : Bool} :
      Act.apply (executor.parse source) state = (.ok accepted, after) →
      executor.problems after.1 ≠ [] →
      Answers (.parse source) state
        (.error (.parse source.kind
          ("; ".intercalate ((executor.problems after.1).map Problem.render))
          (executor.problems after.1) none)) after
  | parseRejected {state after : σ × Resources} {source : ResolvedSource} :
      Act.apply (executor.parse source) state = (.ok false, after) →
      executor.problems after.1 = [] →
      Answers (.parse source) state
        (.error (.parse source.kind ("the engine rejected the " ++ source.kind.name) [] none)) after
  | addModels {state : σ × Resources} {models : List ModelHandle} :
      Answers (.addModels models) state (.ok none)
        (Act.apply (executor.addModels models) state).2
  | addParameters {state : σ × Resources} {parameters : Parameters} :
      Answers (.addParameters parameters) state (.ok none)
        (Act.apply (executor.addParameters parameters) state).2
  | addDelegates {state : σ × Resources} {delegates : List NativeDelegate} :
      Answers (.addDelegates delegates) state (.ok none)
        (Act.apply (executor.addDelegates delegates) state).2
  | preProcess {state after : σ × Resources} :
      Act.apply executor.preProcess state = (.ok (), after) →
      Answers .preProcess state (.ok none) after
  | preProcessFault {state after : σ × Resources} {fault : EngineError} :
      Act.apply executor.preProcess state = (.error (.engine fault), after) →
      Answers .preProcess state (.error (.stage .preProcess fault)) after
  | preProcessError {state after : σ × Resources} {error : ScriptError} :
      Act.apply executor.preProcess state = (.error error, after) →
      (∀ fault, error ≠ .engine fault) →
      Answers .preProcess state (.error error) after
  | execute {state after : σ × Resources} {output : ρ} :
      Act.apply executor.execute state = (.ok output, after) →
      Answers .execute state (.ok (some output)) after
  | executeFault {state after : σ × Resources} {fault : EngineError} :
      Act.apply executor.execute state = (.error (.engine fault), after) →
      Answers .execute state (.error (.execution Pass.executionFailed fault)) after
  | executeError {state after : σ × Resources} {error : ScriptError} :
      Act.apply executor.execute state = (.error error, after) →
      (∀ fault, error ≠ .engine fault) →
      Answers .execute state (.error error) after
  | postProcess {state after : σ × Resources} :
      Act.apply executor.postProcess state = (.ok (), after) →
      Answers .postProcess state (.ok none) after
  | postProcessFault {state after : σ × Resources} {fault : EngineError} :
      Act.apply executor.postProcess state = (.error (.engine fault), after) →
      Answers .postProcess state (.error (.stage .postProcess fault)) after
  | postProcessError {state after : σ × Resources} {error : ScriptError} :
      Act.apply executor.postProcess state = (.error error, after) →
      (∀ fault, error ≠ .engine fault) →
      Answers .postProcess state (.error error) after

/-- Make calls in order up to the first that fails: the calls that were made, and what they came to
together. -/
inductive Makes : List ExecutorCall → Option ρ → σ × Resources → List ExecutorCall →
    Except ScriptError (Option ρ) → σ × Resources → Prop
  | done {output : Option ρ} {state : σ × Resources} :
      Makes [] output state [] (.ok output) state
  | pass {call : ExecutorCall} {rest made : List ExecutorCall} {answer output : Option ρ}
      {state mid after : σ × Resources} {outcome : Except ScriptError (Option ρ)} :
      Answers executor call state (.ok answer) mid →
      Makes rest (answer.or output) mid made outcome after →
      Makes (call :: rest) output state (call :: made) outcome after
  | fail {call : ExecutorCall} {rest : List ExecutorCall} {output : Option ρ}
      {state after : σ × Resources} {error : ScriptError} :
      Answers executor call state (.error error) after →
      Makes (call :: rest) output state [call] (.error error) after

end Answers

section Makes

variable {σ ρ : Type} {executor : LanguageExecutor σ ρ} {call : ExecutorCall}
  {calls made : List ExecutorCall} {output : Option ρ} {state after : σ × Resources}
  {outcome : Except ScriptError (Option ρ)}

/-- A call comes to one thing only. -/
theorem Answers.unique {answer other : Except ScriptError (Option ρ)} {left : σ × Resources}
    (first : Answers executor call state answer after)
    (second : Answers executor call state other left) : answer = other ∧ after = left := by
  cases first <;> cases second <;> grind

theorem Makes.made_prefix (makes : Makes executor calls output state made outcome after) :
    made <+: calls := by
  induction makes with
  | done => exact List.prefix_rfl
  | pass _ _ ih => exact List.cons_prefix_cons.2 ⟨rfl, ih⟩
  | fail _ => exact List.cons_prefix_cons.2 ⟨rfl, List.nil_prefix⟩

/-- Executors whose operations in a run keep to a relation between what they find and what they
leave. -/
structure LanguageExecutor.Relates (R : σ × Resources → σ × Resources → Prop)
    (executor : LanguageExecutor σ ρ) : Prop where
  redirect : ∀ channel stream state, R state (Act.apply (executor.redirect channel stream) state).2
  parse : ∀ source state, R state (Act.apply (executor.parse source) state).2
  addModels : ∀ models state, R state (Act.apply (executor.addModels models) state).2
  addParameters : ∀ parameters state,
    R state (Act.apply (executor.addParameters parameters) state).2
  addDelegates : ∀ delegates state, R state (Act.apply (executor.addDelegates delegates) state).2
  preProcess : ∀ state, R state (Act.apply executor.preProcess state).2
  execute : ∀ state, R state (Act.apply executor.execute state).2
  postProcess : ∀ state, R state (Act.apply executor.postProcess state).2

variable {R : σ × Resources → σ × Resources → Prop}

theorem Act.related_of_apply {α : Type} {action : Act σ α} {a : α}
    (relates : ∀ state, R state (Act.apply action state).2)
    (answer : Act.apply action state = (a, after)) : R state after := by
  have related := relates state
  rwa [answer] at related

/-- A call keeps to what the operations keep to, whatever it comes to. -/
theorem LanguageExecutor.Relates.of_answers (relates : executor.Relates R)
    {answer : Except ScriptError (Option ρ)} (answers : Answers executor call state answer after) :
    R state after := by
  cases answers with
  | redirect => exact relates.redirect _ _ _
  | addModels => exact relates.addModels _ _
  | addParameters => exact relates.addParameters _ _
  | addDelegates => exact relates.addDelegates _ _
  | parsed answer | parseProblems answer | parseFault answer | parseRejected answer =>
      exact Act.related_of_apply (relates.parse _) answer
  | preProcess answer | preProcessFault answer | preProcessError answer =>
      exact Act.related_of_apply relates.preProcess answer
  | execute answer | executeFault answer | executeError answer =>
      exact Act.related_of_apply relates.execute answer
  | postProcess answer | postProcessFault answer | postProcessError answer =>
      exact Act.related_of_apply relates.postProcess answer

/-- What every operation keeps to, calls in order keep to, if it can be chained. -/
theorem LanguageExecutor.Relates.of_makes (relates : executor.Relates R)
    (refl : ∀ state, R state state)
    (trans : ∀ {first second third}, R first second → R second third → R first third)
    (makes : Makes executor calls output state made outcome after) : R state after := by
  induction makes with
  | done => exact refl _
  | pass answers _ ih => exact trans (relates.of_answers answers) ih
  | fail answers => exact relates.of_answers answers

theorem Makes.unique {others : List ExecutorCall} {result : Except ScriptError (Option ρ)}
    {left : σ × Resources} (first : Makes executor calls output state made outcome after)
    (second : Makes executor calls output state others result left) :
    made = others ∧ outcome = result ∧ after = left := by
  induction first generalizing others result left with
  | done =>
      cases second
      exact ⟨rfl, rfl, rfl⟩
  | pass answers _ ih =>
      cases second with
      | pass same makes =>
          obtain ⟨⟨⟩, rfl⟩ := answers.unique same
          obtain ⟨rfl, rfl, rfl⟩ := ih makes
          exact ⟨rfl, rfl, rfl⟩
      | fail same => cases (answers.unique same).1
  | fail answers =>
      cases second with
      | pass same _ => cases (answers.unique same).1
      | fail same =>
          obtain ⟨⟨⟩, rfl⟩ := answers.unique same
          exact ⟨rfl, rfl, rfl⟩

/-- What calls come to, as the end of an attempt. -/
def Follows (executor : LanguageExecutor σ ρ) (calls : List ExecutorCall) (output : Option ρ)
    (state : σ × Resources) :
    Except (FailedPass σ) (ρ × Pass σ ρ .postProcessed) → Resources → Prop
  | .ok (result, pass), left =>
      ∃ made, Makes executor calls output state made (.ok (some result)) (pass.state, left)
  | .error failed, left =>
      ∃ made, Makes executor calls output state made (.error failed.error) (failed.state, left)

theorem Follows.pass {answer : Option ρ} {mid : σ × Resources}
    {attempt : Except (FailedPass σ) (ρ × Pass σ ρ .postProcessed)} {left : Resources}
    (answers : Answers executor call state (.ok answer) mid)
    (follows : Follows executor calls (answer.or output) mid attempt left) :
    Follows executor (call :: calls) output state attempt left := by
  cases attempt with
  | ok value =>
      obtain ⟨made, makes⟩ := follows
      exact ⟨call :: made, .pass answers makes⟩
  | error failed =>
      obtain ⟨made, makes⟩ := follows
      exact ⟨call :: made, .pass answers makes⟩

theorem Follows.fail {failed : FailedPass σ} {left : Resources}
    (answers : Answers executor call state (.error failed.error) (failed.state, left)) :
    Follows executor (call :: calls) output state (.error failed) left :=
  ⟨[call], .fail answers⟩

end Makes

section Errors

variable {σ ρ : Type} {executor : LanguageExecutor σ ρ} {state after : σ × Resources}
  {error : ScriptError}

/-! An engine fault is told with its stage, any other error as it is. -/

theorem answers_preProcess_error
    (answer : Act.apply executor.preProcess state = (.error error, after)) :
    Answers executor .preProcess state (.error (Pass.stageError .preProcess error)) after := by
  cases error with
  | engine fault => exact .preProcessFault answer
  | _ => exact .preProcessError answer nofun

theorem answers_execute_error
    (answer : Act.apply executor.execute state = (.error error, after)) :
    Answers executor .execute state (.error (Pass.executionError error)) after := by
  cases error with
  | engine fault => exact .executeFault answer
  | _ => exact .executeError answer nofun

theorem answers_postProcess_error
    (answer : Act.apply executor.postProcess state = (.error error, after)) :
    Answers executor .postProcess state (.error (Pass.stageError .postProcess error)) after := by
  cases error with
  | engine fault => exact .postProcessFault answer
  | _ => exact .postProcessError answer nofun

end Errors

namespace Controller

open InWorld Pass

variable {σ ρ : Type}

/-- The calls of a run with a source, if none fails. -/
def calls (controller : Controller σ ρ) (source : ResolvedSource) : List ExecutorCall :=
  (channels.filterMap fun channel =>
    (controller.stream? channel).map fun stream => .redirect channel stream) ++
  [.parse source, .addModels controller.models, .addParameters controller.parameters,
    .addDelegates controller.delegates, .preProcess, .execute, .postProcess]

/-- The redirections that a run asks for are made before the other calls. -/
theorem follows_redirects (controller : Controller σ ρ) (channels : List Channel) :
    ∀ {state after : σ × Resources} {calls : List ExecutorCall} {output : Option ρ}
      {attempt : Except (FailedPass σ) (ρ × Pass σ ρ .postProcessed)} {left : Resources},
      Act.apply (channels.forM controller.redirectChannel) state = ((), after) →
      Follows controller.executor calls output after attempt left →
      Follows controller.executor
        ((channels.filterMap fun channel =>
          (controller.stream? channel).map fun stream => .redirect channel stream) ++ calls)
        output state attempt left := by
  induction channels with
  | nil =>
      rintro state after calls output attempt left ⟨⟩ follows
      exact follows
  | cons channel channels ih =>
      intro state after calls output attempt left answer follows
      change Act.apply (controller.redirectChannel channel >>=
        fun _ => channels.forM controller.redirectChannel) state = ((), after) at answer
      rw [Act.apply_bind, redirectChannel] at answer
      cases found : controller.stream? channel with
      | none =>
          rw [found] at answer
          simpa [found] using ih answer follows
      | some stream =>
          rw [found] at answer
          have later := ih answer follows
          simpa [found] using Follows.pass .redirect later

/-- A pass that is led from a source follows the calls of a run from the parse on. -/
theorem ensures_lead (controller : Controller σ ρ) (pass : Pass σ ρ .constructed)
    (source : ResolvedSource) (resources : Resources) :
    (controller.lead pass source).run.Ensures resources
      (Follows pass.executor
        [.parse source, .addModels controller.models, .addParameters controller.parameters,
          .addDelegates controller.delegates, .preProcess, .execute, .postProcess]
        none (pass.state, resources)) := by
  unfold lead
  refine ensures_parse_bind ?_ ?_ ?_ ?_
  · exact fun fault after answer => .fail (.parseFault answer)
  · exact fun accepted after answer found => .fail (.parseProblems answer found)
  · exact fun after answer clean => .fail (.parseRejected answer clean)
  intro after answer clean
  rw [run_lift_bind]
  refine ensures_prepare_bind fun prepared profile handed => ?_
  -- Each step below is made from what the steps before it left, and a failure is the end.
  refine Ensures.mono ?_ fun attempt left
    (follows : Follows pass.executor [.preProcess, .execute, .postProcess] none prepared attempt
      left) =>
    .pass (.parsed answer clean) (.pass .addModels (.pass .addParameters (.pass .addDelegates
      (handed ▸ follows))))
  refine ensures_hook_bind (fun error _ _ fails => .fail (answers_preProcess_error fails)) ?_
  intro preProcessed profile passed
  refine Ensures.mono ?_ fun attempt left
    (follows : Follows pass.executor [.execute, .postProcess] none preProcessed attempt left) =>
    .pass (.preProcess passed) follows
  refine ensures_execute_bind (fun error _ _ fails => .fail (answers_execute_error fails)) ?_
  intro output executed profile done
  refine Ensures.mono ?_ fun attempt left
    (follows : Follows pass.executor [.postProcess] (some output) executed attempt left) =>
    .pass (.execute done) follows
  refine ensures_hook_bind (fun error _ _ fails => .fail (answers_postProcess_error fails)) ?_
  intro postProcessed profile passed
  rw [run_lift_bind]
  refine ensures_finish_bind fun profile => ensures_pure ?_
  exact .pass (.postProcess passed) ⟨[], .done⟩

/-- Inputs that are accepted have a source. -/
theorem exists_resolve_of_valid {source : ExecutionSource} {parameters : Parameters}
    (valid : (validateInputs source parameters).errors = []) :
    ∃ resolved, source.resolve? = some resolved := by
  obtain ⟨script, code⟩ := source
  rcases script with _ | path
  · rcases code with _ | text
    · simp [validateInputs, validateSource, ValidationReport.append] at valid
    · exact ⟨.code text, rfl⟩
  · exact ⟨.script path, rfl⟩

/-- A pass begins where its channels are redirected. -/
theorem ensures_openPass_bind {controller : Controller σ ρ} {resources : Resources}
    {f : Pass σ ρ .constructed → InWorld β} {post : β → Resources → Prop}
    (next : ∀ after profile,
      Act.apply controller.redirectAll (controller.engine, resources) = ((), after) →
      (f ⟨controller.executor, after.1, profile⟩).Ensures after.2 post) :
    (controller.openPass >>= f).Ensures resources post := by
  unfold openPass
  rw [bind_assoc]
  refine ensures_onProfile_bind (fun profile => profile.aside_logStart) fun profile => ?_
  rw [bind_assoc]
  refine Pass.ensures_perform_bind ?_
  exact next _ profile rfl

/-- What an attempt comes to: it is refused, or it follows the calls of a run. -/
def Attempts (controller : Controller σ ρ) (resources : Resources)
    (attempt : Except (FailedPass σ) (ρ × Pass σ ρ .postProcessed)) (left : Resources) : Prop :=
  let errors := (validateInputs controller.source controller.parameters).errors
  (errors ≠ [] ∧ attempt =
      .error ⟨.config (.inputs errors), controller.engine, controller.profile⟩ ∧ left = resources) ∨
    (errors = [] ∧ ∃ source, controller.source.resolve? = some source ∧
      Follows controller.executor (controller.calls source) none (controller.engine, resources)
        attempt left)

theorem ensures_attempt (controller : Controller σ ρ) (resources : Resources) :
    controller.attempt.run.Ensures resources (controller.Attempts resources) := by
  unfold attempt validate
  rw [bind_assoc, run_lift_bind]
  refine ensures_ofLogged_bind ?_
  by_cases valid : (validateInputs controller.source controller.parameters).errors = []
  · obtain ⟨source, resolved⟩ := exists_resolve_of_valid valid
    simp only [ValidationReport.toResult, ValidationReport.isValid, valid, List.isEmpty_nil,
      if_true]
    rw [pure_bind, run_lift_bind, resolved]
    refine ensures_openPass_bind fun after profile redirected => ?_
    refine (ensures_lead controller _ source after.2).mono fun attempt left follows => ?_
    exact .inr ⟨valid, source, resolved, follows_redirects controller channels redirected follows⟩
  · simp only [ValidationReport.toResult, ValidationReport.isValid, valid, List.isEmpty_iff,
      if_false]
    exact ensures_pure (.inl ⟨valid, rfl, rfl⟩)

/-- What a run of a newly made controller comes to: it is refused, or it reports what the calls that
it made came to. -/
def Reports (controller : Controller σ ρ) (resources : Resources)
    (run : Except ScriptError ρ × Controller σ ρ) (left : Resources) : Prop :=
  let errors := (validateInputs controller.source controller.parameters).errors
  (errors ≠ [] ∧ run.1 = .error (.config (.inputs errors)) ∧ run.2.state = .failed ∧
      run.2.engine = controller.engine ∧ left = resources) ∨
    (errors = [] ∧ ∃ source, controller.source.resolve? = some source ∧ ∃ made outcome,
      Makes controller.executor (controller.calls source) none (controller.engine, resources) made
        outcome (run.2.engine, left) ∧
      ((∃ output, outcome = .ok (some output) ∧ run.1 = .ok output ∧
          run.2.state = .postProcessed) ∨
        ∃ error, outcome = .error error ∧ run.1 = .error error ∧ run.2.state = .failed))

theorem ensures_run (controller : Controller σ ρ) (fresh : controller.state = .constructed)
    (resources : Resources) : controller.run.Ensures resources (controller.Reports resources) := by
  unfold run
  rw [if_neg (by simp [fresh])]
  refine (aside_log _ _).ensures_bind fun _ => (aside_log _ _).ensures_bind fun _ => ?_
  refine (aside_meter _).ensures_bind fun _ => aside_instant.ensures_bind fun started => ?_
  refine (ensures_attempt controller resources).bind fun attempt left attempted => ?_
  refine (aside_elapsedSince started).ensures_bind fun elapsed => ?_
  rcases attempted with ⟨refused, rfl, rfl⟩ | ⟨valid, source, resolved, follows⟩
  · exact (aside_meter _).ensures_bind fun _ =>
      ensures_pure (.inl ⟨refused, rfl, rfl, rfl, rfl⟩)
  · rcases attempt with failed | ⟨output, pass⟩
    · obtain ⟨made, makes⟩ := follows
      refine (aside_meter _).ensures_bind fun _ => ensures_pure (.inr ⟨valid, source, resolved, ?_⟩)
      exact ⟨made, _, makes, .inr ⟨_, rfl, rfl, rfl⟩⟩
    · obtain ⟨made, makes⟩ := follows
      refine (aside_meter _).ensures_bind fun _ => ensures_pure (.inr ⟨valid, source, resolved, ?_⟩)
      exact ⟨made, _, makes, .inl ⟨_, rfl, rfl, rfl⟩⟩

/-- A controller that cannot run refuses, and nothing happens. -/
theorem run_refused (controller : Controller σ ρ) (stale : controller.state ≠ .constructed)
    (world : World) : controller.run.run world =
      ((.error (.config (.cannotRun controller.runId.text controller.state)), controller),
        world) := by
  unfold run
  rw [if_pos stale]
  rfl

/-- A run changes the engine, the profile and the state of its controller, and nothing else. -/
theorem ensures_run_inputs (controller : Controller σ ρ) (resources : Resources) :
    controller.run.Ensures resources fun run _ => ∃ engine profile state,
      run.2 = { controller with engine := engine, profile := profile, state := state } := by
  unfold run
  split
  next => exact ensures_pure ⟨_, _, _, rfl⟩
  next =>
    refine (aside_log _ _).ensures_bind fun _ => (aside_log _ _).ensures_bind fun _ => ?_
    refine (aside_meter _).ensures_bind fun _ => aside_instant.ensures_bind fun started => ?_
    have attempted : controller.attempt.run.Ensures resources fun _ _ => True :=
      fun _ _ => trivial
    refine attempted.bind fun attempt left _ => ?_
    refine (aside_elapsedSince started).ensures_bind fun elapsed => ?_
    cases attempt with
    | ok value => exact (aside_meter _).ensures_bind fun _ => ensures_pure ⟨_, _, _, rfl⟩
    | error failed => exact (aside_meter _).ensures_bind fun _ => ensures_pure ⟨_, _, _, rfl⟩

theorem aside_freshProfile (options : ExecutionOptions) (probe : HostProbe) :
    (freshProfile options probe).Aside := by
  unfold freshProfile
  split
  · cases probe <;> exact fun world => rfl
  · exact aside_pure none

/-- A redirection renews the controller, and keeps its engine and its inputs. -/
theorem ensures_redirected_inputs (controller : Controller σ ρ) (channel : Channel)
    (stream : Stream) (resources : Resources) :
    (controller.redirected channel stream).Ensures resources fun next left =>
      left = resources ∧ ∃ runId profile, next =
        { controller.setStream channel stream with
          runId := runId, profile := profile, state := .constructed } := by
  unfold redirected renewed
  refine aside_newRunId.ensures_bind fun runId => ?_
  refine (aside_freshProfile _ _).ensures_bind fun profile => ?_
  exact ensures_pure ⟨rfl, runId, profile, rfl⟩

/-- A controller is built from what its plan has. -/
theorem ensures_build_inputs (plan : RunPlan σ ρ) (resources : Resources) :
    plan.build.Ensures resources fun controller left =>
      left = resources ∧ ∃ runId profile, controller =
        { runId := runId, executor := plan.executor, engine := plan.engine, source := plan.source,
          models := plan.models, parameters := plan.parameters, delegates := plan.delegates,
          options := plan.options, probe := plan.probe, output := plan.output,
          warning := plan.warning, error := plan.error, profile := profile,
          state := .constructed } := by
  unfold RunPlan.build
  refine (aside_freshProfile _ _).ensures_bind fun profile => ?_
  refine aside_newRunId.ensures_bind fun runId => ?_
  exact ensures_pure ⟨rfl, runId, profile, rfl⟩

/-- The redirections of a run are made, and the other calls after them. -/
theorem makes_redirects (controller : Controller σ ρ) (channels : List Channel) :
    ∀ {state : σ × Resources} {calls made : List ExecutorCall} {output : Option ρ}
      {outcome : Except ScriptError (Option ρ)} {after : σ × Resources},
      Makes controller.executor calls output
        (Act.apply (channels.forM controller.redirectChannel) state).2 made outcome after →
      ∃ made, Makes controller.executor
        ((channels.filterMap fun channel =>
          (controller.stream? channel).map fun stream => .redirect channel stream) ++ calls)
        output state made outcome after := by
  induction channels with
  | nil => exact fun makes => ⟨_, makes⟩
  | cons channel channels ih =>
      intro state calls made output outcome after makes
      change Makes _ _ _ (Act.apply (controller.redirectChannel channel >>=
        fun _ => channels.forM controller.redirectChannel) state).2 _ _ _ at makes
      rw [Act.apply_bind, redirectChannel] at makes
      cases found : controller.stream? channel with
      | none =>
          rw [found] at makes
          obtain ⟨made, later⟩ := ih makes
          exact ⟨made, by simpa [found] using later⟩
      | some stream =>
          rw [found] at makes
          obtain ⟨made, later⟩ := ih makes
          exact ⟨.redirect channel stream :: made, by
            simpa [found] using Makes.pass .redirect later⟩

end Controller

section Recorded

variable {σ ρ α : Type}

/-- Write a call down and take it. -/
def Act.recorded (call : ExecutorCall) (action : Act σ α) : Act (σ × List ExecutorCall) α :=
  fun state => do
    let (result, inner) ← action.run state.1
    return (result, (inner, state.2 ++ [call]))

/-- The executor that writes down every call that it takes. -/
def LanguageExecutor.recorded (executor : LanguageExecutor σ ρ) :
    LanguageExecutor (σ × List ExecutorCall) ρ where
  language state := executor.language state.1
  parseFile path := Act.recorded (.parse (.script path)) (executor.parseFile path)
  parseCode text := Act.recorded (.parse (.code text)) (executor.parseCode text)
  problems state := executor.problems state.1
  addModels models := Act.recorded (.addModels models) (executor.addModels models)
  addParameters parameters :=
    Act.recorded (.addParameters parameters) (executor.addParameters parameters)
  addDelegates delegates := Act.recorded (.addDelegates delegates) (executor.addDelegates delegates)
  ruleTimings state := executor.ruleTimings state.1
  disposeModels := Act.recorded .disposeModels executor.disposeModels
  clearModels := Act.recorded .clearModels executor.clearModels
  dispose := Act.recorded .dispose executor.dispose
  redirect channel stream :=
    Act.recorded (.redirect channel stream) (executor.redirect channel stream)
  preProcess := Act.recorded .preProcess executor.preProcess
  execute := Act.recorded .execute executor.execute
  postProcess := Act.recorded .postProcess executor.postProcess

/-- A state without what was written down. -/
def unrecorded (state : (σ × List ExecutorCall) × Resources) : σ × Resources :=
  (state.1.1, state.2)

/-- An action that is written down is the action itself and one more call. -/
theorem apply_of_recorded {call : ExecutorCall} {action : Act σ α} {a : α}
    {state after : (σ × List ExecutorCall) × Resources}
    (answer : Act.apply (Act.recorded call action) state = (a, after)) :
    Act.apply action (unrecorded state) = (a, unrecorded after) ∧
      after.1.2 = state.1.2 ++ [call] := by
  cases answer
  exact ⟨rfl, rfl⟩

theorem recorded_parse (executor : LanguageExecutor σ ρ) (source : ResolvedSource) :
    executor.recorded.parse source = Act.recorded (.parse source) (executor.parse source) := by
  cases source <;> rfl

theorem Answers.of_recorded {executor : LanguageExecutor σ ρ} {call : ExecutorCall}
    {state after : (σ × List ExecutorCall) × Resources} {answer : Except ScriptError (Option ρ)}
    (answers : Answers executor.recorded call state answer after) :
    Answers executor call (unrecorded state) answer (unrecorded after) ∧
      after.1.2 = state.1.2 ++ [call] := by
  cases answers with
  | redirect => exact ⟨.redirect, rfl⟩
  | addModels => exact ⟨.addModels, rfl⟩
  | addParameters => exact ⟨.addParameters, rfl⟩
  | addDelegates => exact ⟨.addDelegates, rfl⟩
  | parsed answer clean =>
      rw [recorded_parse] at answer
      obtain ⟨answer, written⟩ := apply_of_recorded answer
      exact ⟨.parsed answer clean, written⟩
  | parseFault answer =>
      rw [recorded_parse] at answer
      obtain ⟨answer, written⟩ := apply_of_recorded answer
      exact ⟨.parseFault answer, written⟩
  | parseProblems answer found =>
      rw [recorded_parse] at answer
      obtain ⟨answer, written⟩ := apply_of_recorded answer
      exact ⟨.parseProblems answer found, written⟩
  | parseRejected answer clean =>
      rw [recorded_parse] at answer
      obtain ⟨answer, written⟩ := apply_of_recorded answer
      exact ⟨.parseRejected answer clean, written⟩
  | preProcess answer =>
      obtain ⟨answer, written⟩ := apply_of_recorded answer
      exact ⟨.preProcess answer, written⟩
  | preProcessFault answer =>
      obtain ⟨answer, written⟩ := apply_of_recorded answer
      exact ⟨.preProcessFault answer, written⟩
  | preProcessError answer other =>
      obtain ⟨answer, written⟩ := apply_of_recorded answer
      exact ⟨.preProcessError answer other, written⟩
  | execute answer =>
      obtain ⟨answer, written⟩ := apply_of_recorded answer
      exact ⟨.execute answer, written⟩
  | executeFault answer =>
      obtain ⟨answer, written⟩ := apply_of_recorded answer
      exact ⟨.executeFault answer, written⟩
  | executeError answer other =>
      obtain ⟨answer, written⟩ := apply_of_recorded answer
      exact ⟨.executeError answer other, written⟩
  | postProcess answer =>
      obtain ⟨answer, written⟩ := apply_of_recorded answer
      exact ⟨.postProcess answer, written⟩
  | postProcessFault answer =>
      obtain ⟨answer, written⟩ := apply_of_recorded answer
      exact ⟨.postProcessFault answer, written⟩
  | postProcessError answer other =>
      obtain ⟨answer, written⟩ := apply_of_recorded answer
      exact ⟨.postProcessError answer other, written⟩

/-- What the recorded executor writes down is what was made. -/
theorem Makes.of_recorded {executor : LanguageExecutor σ ρ} {calls made : List ExecutorCall}
    {output : Option ρ} {state after : (σ × List ExecutorCall) × Resources}
    {outcome : Except ScriptError (Option ρ)}
    (makes : Makes executor.recorded calls output state made outcome after) :
    Makes executor calls output (unrecorded state) made outcome (unrecorded after) ∧
      after.1.2 = state.1.2 ++ made := by
  induction makes with
  | done => exact ⟨.done, by simp⟩
  | pass answers _ ih =>
      obtain ⟨answers, written⟩ := answers.of_recorded
      obtain ⟨makes, rest⟩ := ih
      exact ⟨.pass answers makes, by rw [rest, written, List.append_assoc, List.singleton_append]⟩
  | fail answers =>
      obtain ⟨answers, written⟩ := answers.of_recorded
      exact ⟨.fail answers, written⟩

end Recorded

namespace Controller

open InWorld

variable {σ ρ : Type}

/-- The controller over the executor that writes down its calls. -/
def recorded (controller : Controller σ ρ) : Controller (σ × List ExecutorCall) ρ where
  runId := controller.runId
  executor := controller.executor.recorded
  engine := (controller.engine, [])
  source := controller.source
  models := controller.models
  parameters := controller.parameters
  delegates := controller.delegates
  options := controller.options
  probe := controller.probe
  output := controller.output
  warning := controller.warning
  error := controller.error
  profile := controller.profile
  state := controller.state

/-- What a run reports and leaves does not depend on whether its calls are written down. -/
theorem Reports.agree {controller : Controller σ ρ} {resources left left' : Resources}
    {run : Except ScriptError ρ × Controller (σ × List ExecutorCall) ρ}
    {run' : Except ScriptError ρ × Controller σ ρ}
    (reported : controller.recorded.Reports resources run left)
    (plain : controller.Reports resources run' left') :
    run.1 = run'.1 ∧ run.2.engine.1 = run'.2.engine ∧ left = left' := by
  rcases reported with ⟨refused, error, -, engine, same⟩ | ⟨valid, source, resolved, report⟩
  · rcases plain with ⟨-, error', -, engine', same'⟩ | ⟨valid, -⟩
    · exact ⟨error.trans error'.symm, by rw [engine, engine']; rfl, same.trans same'.symm⟩
    · exact absurd valid refused
  · rcases plain with ⟨refused, -⟩ | ⟨-, source', resolved', report'⟩
    · exact absurd valid refused
    obtain rfl : source = source' := Option.some.inj (resolved.symm.trans resolved')
    obtain ⟨made, outcome, makes, ends⟩ := report
    obtain ⟨made', outcome', makes', ends'⟩ := report'
    obtain ⟨-, rfl, after⟩ := makes.of_recorded.1.unique makes'
    refine ⟨?_, congrArg Prod.fst after, congrArg Prod.snd after⟩
    rcases ends with ⟨output, rfl, result, -⟩ | ⟨error, rfl, result, -⟩
    · rcases ends' with ⟨_, ⟨⟩, result', -⟩ | ⟨_, ⟨⟩, -⟩
      exact result.trans result'.symm
    · rcases ends' with ⟨_, ⟨⟩, -⟩ | ⟨_, ⟨⟩, result', -⟩
      exact result.trans result'.symm

/-- A run of a newly made controller with refused inputs makes no call and reports the errors.
With other inputs it makes a front of the calls of a run with the source, up to the first that
fails; what it reports, the state of the executor and the resources are what these calls came
to. -/
theorem run_recorded (controller : Controller σ ρ) (world : World)
    (fresh : controller.state = .constructed) :
    let run := (controller.recorded.run.run world).1
    let left := (controller.recorded.run.run world).2.resources
    let errors := (validateInputs controller.source controller.parameters).errors
    (errors ≠ [] → run.1 = .error (.config (.inputs errors)) ∧ run.2.state = .failed ∧
      run.2.engine = (controller.engine, []) ∧ left = world.resources) ∧
    (errors = [] → ∃ source, controller.source.resolve? = some source ∧ ∃ outcome,
      run.2.engine.2 <+: controller.calls source ∧
      Makes controller.executor (controller.calls source) none
        (controller.engine, world.resources) run.2.engine.2 outcome (run.2.engine.1, left) ∧
      ((∃ output, outcome = .ok (some output) ∧ run.1 = .ok output ∧
          run.2.state = .postProcessed) ∨
        ∃ error, outcome = .error error ∧ run.1 = .error error ∧ run.2.state = .failed)) ∧
    run.1 = (controller.run.run world).1.1 ∧
      run.2.engine.1 = (controller.run.run world).1.2.engine ∧
      left = (controller.run.run world).2.resources := by
  intro run left errors
  have reported : controller.recorded.Reports world.resources run left :=
    ensures_run controller.recorded fresh world.resources world rfl
  have plain : controller.Reports world.resources (controller.run.run world).1
      (controller.run.run world).2.resources :=
    ensures_run controller fresh world.resources world rfl
  have agree := reported.agree plain
  rcases reported with ⟨refused, error, failed, engine, same⟩ | ⟨valid, source, resolved, report⟩
  · exact ⟨fun _ => ⟨error, failed, engine, same⟩, fun valid => absurd valid refused, agree⟩
  · obtain ⟨made, outcome, makes, ends⟩ := report
    obtain ⟨makes, written⟩ := makes.of_recorded
    obtain rfl : run.2.engine.2 = made := written
    refine ⟨fun refused => absurd valid refused, fun _ => ?_, agree⟩
    exact ⟨source, resolved, outcome, makes.made_prefix, makes, ends⟩

/-- A comparison whose module fails before its main pass. -/
theorem run_recorded_failingAt :
    let world := World.initial ⟨⟨"", "", "", 0⟩, fun _ => 0, fun _ => "", fun _ => ""⟩
    let plan := (RunPlan.new LanguageExecutor.comparison
      (CannedModule.new.failingAt .preProcess "no rules")).code ""
    let controller := (plan.build.run world).1
    let run := (controller.recorded.run.run world).1
    controller.state = .constructed ∧
      run.1 = .error (.stage .preProcess (.runtime (.other "no rules"))) ∧
      run.2.state = .failed ∧
      run.2.engine.2 =
        [.parse (.code ""), .addModels [], .addParameters [], .addDelegates [], .preProcess] := by
  intro world plan controller run
  have fresh : controller.state = .constructed := rfl
  have valid : (validateInputs controller.source controller.parameters).errors = [] := by
    change (validateInputs (.ofCode "") []).errors = []
    simp [validateInputs, validateParameters, Parameters.names]
    rfl
  obtain ⟨source, resolved, outcome, -, makes, ends⟩ :=
    (run_recorded controller world fresh).2.1 valid
  obtain rfl : .code "" = source := Option.some.inj resolved
  -- The calls that the module answers, made by hand.
  obtain ⟨made, rfl, -⟩ := makes.unique (.pass (.parsed rfl rfl) (.pass .addModels
    (.pass .addParameters (.pass .addDelegates (.fail (.preProcessFault rfl))))))
  rcases ends with ⟨_, ⟨⟩, -⟩ | ⟨_, ⟨⟩, reported, failed⟩
  exact ⟨fresh, reported, failed, made⟩

end Controller
end StagedScript
