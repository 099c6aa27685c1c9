import StagedScript.Proofs.Run.Release
import StagedScript.Proofs.Run.ScriptRuns
import StagedScript.Proofs.Script.Utterances

/-!
# Redirections

A redirection tells the controller where a channel is to be sent to; the engine learns of it in the
next run, and keeps the stream after that. A disposal forgets streams neither here nor there. So
what a run prints goes to the streams that were supplied last, by the plan or by a redirection,
whatever else was done before the run.

**Results.** After any calls, a run does to the sinks what its utterances do, written to the streams
supplied last for their channels, in the order in which the program is evaluated, and a disposal
does nothing to them and changes no stream (`RunPlan.prints_to_latest`).
-/

namespace StagedScript

namespace ScriptEngine

/-- What an evaluation of the program says, if there is a program. -/
def said (engine : ScriptEngine) (saying : Script.Setting → Script.Saying)
    (resources : Resources) : List Script.Utterance :=
  match engine.program with
  | none => []
  | some program =>
      saying (engine.setting program resources.models) (engine.scratch resources)

theorem sinks_evaluate {body : Script.Setting → Script.Eval Value}
    {saying : Script.Setting → Script.Saying}
    (utters : ∀ setting : Script.Setting, (body setting).Utters setting.stream (saying setting))
    (engine : ScriptEngine) (resources : Resources) :
    (Act.apply (evaluate body) (engine, resources)).2.2.sinks =
      resources.sinks.print engine.context.stream
        ((engine.said saying resources).map Script.Utterance.entry) := by
  cases found : engine.program with
  | none =>
      rw [apply_evaluate_none found, said, found]
      rfl
  | some program =>
      rw [apply_evaluate_some found, said, found, ← engine.stream_setting program resources.models]
      exact utters _ (engine.scratch resources)

end ScriptEngine

namespace ScriptRunner

/-- What an execution says. -/
def said (runner : ScriptRunner ScriptEngine) (resources : Resources) : List Script.Utterance :=
  match runner.mode with
  | .script => runner.module.said Script.Eval.scriptSaid resources
  | .operation none _ => []
  | .operation (some name) arguments =>
      runner.module.said (fun setting => Script.Eval.operationSaid setting name arguments) resources

/-- An execution does to the sinks what its utterances do, and leaves the streams. -/
structure Speaks (state after : ScriptRunner ScriptEngine × Resources)
    (said : List Script.Utterance) : Prop where
  sinks : after.2.sinks =
    state.2.sinks.print state.1.module.context.stream (said.map Script.Utterance.entry)
  streams : after.1.module.context.stream = state.1.module.context.stream

theorem speaks_evaluate {body : Script.Setting → Script.Eval Value}
    {saying : Script.Setting → Script.Saying}
    (utters : ∀ setting : Script.Setting, (body setting).Utters setting.stream (saying setting))
    (leaves : ∀ setting, (body setting).Leaves FrameStack.Confined)
    (state : ScriptRunner ScriptEngine × Resources) :
    Speaks state
      (Act.apply (EngineResult.toScript <$> onModule (ScriptEngine.evaluate body)) state).2
      (state.1.module.said saying state.2) := by
  obtain ⟨runner, resources⟩ := state
  refine ⟨ScriptEngine.sinks_evaluate utters runner.module resources, ?_⟩
  have confined := ScriptEngine.confined_evaluate leaves runner.module resources
  have engine := congrArg (fun engine => engine.context.stream) confined.engine
  refine Eq.trans engine ?_
  funext channel
  cases channel <;> rfl

theorem Speaks.refl (state : ScriptRunner ScriptEngine × Resources) : Speaks state state [] :=
  ⟨rfl, rfl⟩

/-- An operation that the program does not declare says nothing. -/
theorem said_of_undeclared {engine : ScriptEngine} {name : String}
    (undeclared : engine.hasOperation name = false) (arguments : List Value)
    (resources : Resources) :
    engine.said (fun setting => Script.Eval.operationSaid setting name arguments) resources =
      [] := by
  rw [ScriptEngine.hasOperation] at undeclared
  rw [ScriptEngine.said]
  cases found : engine.program with
  | none => rfl
  | some program =>
      rw [found] at undeclared
      have missing : program.operation? name = none :=
        Option.not_isSome_iff_eq_none.1 (Bool.not_eq_true _ ▸ undeclared)
      dsimp only
      rw [Script.Eval.operationSaid_of_undeclared missing]
      rfl

theorem speaks_execute (state : ScriptRunner ScriptEngine × Resources) :
    Speaks state (Act.apply execute state).2 (state.1.said state.2) := by
  cases mode : state.1.mode with
  | script =>
      rw [apply_execute_script mode, said, mode]
      exact speaks_evaluate Script.Eval.utters_script Script.Eval.leaves_script state
  | operation name? arguments =>
      cases name? with
      | none =>
          rw [apply_execute_unnamed mode, said, mode]
          exact .refl state
      | some name =>
          rw [apply_execute_operation mode, said, mode]
          split
          next =>
            exact speaks_evaluate
              (fun setting => Script.Eval.utters_operation setting name arguments)
              (fun setting => Script.Eval.leaves_operation setting name arguments) state
          next undeclared =>
            dsimp only
            rw [said_of_undeclared (Bool.eq_false_iff.2 undeclared)]
            exact .refl state

end ScriptRunner

namespace Controller

open InWorld

section Runs

variable (controller : Controller (ScriptRunner ScriptEngine) Value)

/-- The program that a run executes, if it comes so far. -/
def program? (files : FileTree) : Option Script.Program :=
  if controller.state = .constructed ∧
      (validateInputs controller.source controller.parameters).errors = [] then
    match controller.source.read? files with
    | some (.ok text) => (Script.parse text).toOption
    | _ => none
  else
    none

/-- What a run says: what its program says with the inputs of the run. -/
def said (resources : Resources) : List Script.Utterance :=
  match controller.program? resources.files with
  | none => []
  | some program =>
      (controller.redirectedEngine.loaded none program controller.models controller.parameters
        controller.delegates).said resources

/-- A run that is refused at once says nothing. -/
theorem said_of_not {resources : Resources}
    (refused : ¬(controller.state = .constructed ∧
      (validateInputs controller.source controller.parameters).errors = [])) :
    controller.said resources = [] := by
  rw [said, program?, if_neg refused]

variable {controller}

/-- The calls of a run from the parse on say what the run says. -/
theorem exists_makes_speaking (fresh : controller.state = .constructed)
    (valid : (validateInputs controller.source controller.parameters).errors = [])
    {source : ResolvedSource} (resolved : controller.source.resolve? = some source)
    (resources : Resources) :
    ∃ made outcome after, Makes LanguageExecutor.script
        [.parse source, .addModels controller.models, .addParameters controller.parameters,
          .addDelegates controller.delegates, .preProcess, .execute, .postProcess]
        none (controller.redirectedEngine, resources) made outcome after ∧
      ScriptRunner.Speaks (controller.redirectedEngine, resources) after
        (controller.said resources) := by
  have readable : controller.source.read? resources.files = some (source.read resources.files) := by
    rw [ExecutionSource.read?, resolved]
    rfl
  rw [said, program?, if_pos ⟨fresh, valid⟩, readable]
  cases read : source.read resources.files with
  | error fault =>
      exact ⟨_, _, _, ScriptRunner.makes_unread _ read, .refl _⟩
  | ok text =>
      dsimp only
      cases parsed : Script.parse text with
      | error problems =>
          obtain ⟨origin, makes⟩ := ScriptRunner.exists_makes_refused
            (controller.redirectedEngine, resources) read parsed
          exact ⟨_, _, _, makes, rfl, rfl⟩
      | ok program =>
          obtain ⟨origin, makes⟩ := ScriptRunner.exists_makes_executed
            (controller.redirectedEngine, resources) read parsed controller.models
            controller.parameters controller.delegates
          have streams := controller.redirectedEngine.stream_loaded origin program
            controller.models controller.parameters controller.delegates
          have speaks := ScriptRunner.speaks_execute (controller.redirectedEngine.loaded origin
            program controller.models controller.parameters controller.delegates, resources)
          rcases executed : Act.apply ScriptRunner.execute (controller.redirectedEngine.loaded
            origin program controller.models controller.parameters controller.delegates, resources)
            with ⟨answer, after⟩
          rw [executed] at speaks
          obtain ⟨made, makes⟩ := makes executed
          exact ⟨_, _, _, makes, streams ▸ speaks.sinks, speaks.streams.trans streams⟩

end Runs

variable {controller : Controller (ScriptRunner ScriptEngine) Value}

/-- What a call leaves that says something where channels lead to: the channels lead to the given
streams after it, and nothing else was written. -/
structure Spoken (controller : Controller (ScriptRunner ScriptEngine) Value)
    (resources : Resources) (said : List Script.Utterance) (streams : Channel → Stream)
    (next : Controller (ScriptRunner ScriptEngine) Value) (left : Resources) : Prop where
  executor : next.executor = .script
  streams : next.destination = streams
  sinks : left.sinks =
    resources.sinks.print controller.destination (said.map Script.Utterance.entry)

theorem destination_of_stream {next : Controller (ScriptRunner ScriptEngine) Value}
    (same : next.stream? = controller.stream?)
    (kept : next.engine.module.context.stream = controller.destination) :
    next.destination = controller.destination := by
  funext channel
  rw [destination, same, kept, destination]
  cases controller.stream? channel <;> rfl

/-- A run says what it says where its channels lead to, and they lead there after it. -/
theorem ensures_run_spoken (script : controller.executor = .script) (resources : Resources) :
    controller.run.Ensures resources fun run left =>
      controller.Spoken resources (controller.said resources) controller.destination run.2
        left := by
  by_cases fresh : controller.state = .constructed
  · refine ((ensures_run controller fresh resources).and
      (ensures_run_inputs controller resources)).mono ?_
    rintro ⟨answer, next⟩ left ⟨reports, inputs⟩
    have kept : next.executor = controller.executor ∧ next.stream? = controller.stream? := by
      obtain ⟨engine, profile, state, rfl⟩ := inputs
      refine ⟨rfl, funext fun channel => ?_⟩
      cases channel <;> rfl
    rcases reports with ⟨refused, -, -, engine, rfl⟩ | ⟨valid, source, resolved, made, _, makes, -⟩
    · rw [said_of_not controller (fun both => refused both.2)]
      refine ⟨kept.1.trans script, funext fun channel => ?_, rfl⟩
      simp only at engine
      rw [destination, kept.2, engine, destination]
    · obtain ⟨_, _, after, makes', speaks⟩ :=
        exists_makes_speaking fresh valid resolved resources
      have redirected := apply_redirectAll controller script resources
      rw [← script] at makes'
      obtain ⟨_, whole⟩ := makes_redirects controller channels (by rwa [redirected])
      obtain ⟨-, -, rfl⟩ := makes.unique whole
      have streams := controller.stream_redirectedEngine
      refine ⟨kept.1.trans script, destination_of_stream kept.2 (speaks.streams.trans streams), ?_⟩
      rw [← streams]
      exact speaks.sinks
  · intro world same
    subst same
    rw [controller.run_refused fresh world, said_of_not controller (fun both => fresh both.1)]
    exact ⟨script, rfl, rfl⟩

/-- A disposal forgets no stream. -/
theorem ensures_dispose_streams (script : controller.executor = .script) (resources : Resources) :
    controller.dispose.Ensures resources fun next _ =>
      next.destination = controller.destination := by
  obtain ⟨runId, executor, engine, source, models, parameters, delegates, options, probe, output,
    warning, error, profile, state⟩ := controller
  cases script
  rw [dispose_eq]
  refine (aside_log _ _).ensures_bind fun _ => ensures_perform_bind ?_
  refine (aside_log _ _).ensures_bind fun _ => ensures_perform_bind ?_
  refine (aside_meter _).ensures_bind fun _ => ensures_pure (funext fun channel => ?_)
  rw [release]
  split
  · cases channel <;> rfl
  · cases channel <;> rfl

/-- A disposal says nothing and changes no stream. -/
theorem ensures_dispose_spoken (script : controller.executor = .script) (resources : Resources) :
    controller.dispose.Ensures resources fun next left =>
      controller.Spoken resources [] controller.destination next left := by
  have careful : controller.executor.Careful := by
    rw [script]
    exact LanguageExecutor.careful_script
  refine ((ensures_dispose_left controller careful resources).and
    (ensures_dispose_streams script resources)).mono ?_
  rintro next left ⟨⟨same, rfl⟩, streams⟩
  refine ⟨same.trans script, streams, ?_⟩
  split
  · exact Repository.sinks_disposeAll _ resources
  · rfl

/-- A redirection says nothing and changes the stream of its channel. -/
theorem ensures_redirected_spoken (script : controller.executor = .script) (channel : Channel)
    (stream : Stream) (resources : Resources) :
    (controller.redirected channel stream).Ensures resources fun next left =>
      controller.Spoken resources []
        (fun other => if other = channel then stream else controller.destination other) next
        left := by
  refine (ensures_redirected_inputs controller channel stream resources).mono ?_
  rintro next left ⟨rfl, runId, profile, rfl⟩
  refine ⟨?_, funext fun other => ?_, rfl⟩
  · cases channel <;> exact script
  · cases channel <;> cases other <;> rfl

end Controller

/-- The stream that a call sends a channel to, if it does. -/
def ControllerCall.stream? (channel : Channel) : ControllerCall → Option Stream
  | .redirect other stream => if channel = other then some stream else none
  | _ => none

namespace Controller

open InWorld

variable {controller : Controller (ScriptRunner ScriptEngine) Value}

theorem ensures_take_destination (script : controller.executor = .script) (call : ControllerCall)
    (resources : Resources) :
    (controller.take call).Ensures resources fun taken _ =>
      taken.2.executor = .script ∧ taken.2.destination = fun channel =>
        (call.stream? channel).getD (controller.destination channel) := by
  cases call with
  | run =>
      unfold take
      exact (ensures_run_spoken script resources).bind fun _ _ spoken =>
        ensures_pure ⟨spoken.executor, spoken.streams⟩
  | redirect channel stream =>
      unfold take
      refine (ensures_redirected_spoken script channel stream resources).bind
        fun next _ spoken => ensures_pure ⟨spoken.executor, spoken.streams.trans ?_⟩
      funext other
      rw [ControllerCall.stream?]
      split <;> rfl
  | dispose =>
      unfold take
      exact (ensures_dispose_spoken script resources).bind fun _ _ spoken =>
        ensures_pure ⟨spoken.executor, spoken.streams⟩

end Controller

namespace RunPlan

open Controller InWorld

/-- The stream that a plan sends a channel to, if there is one. -/
def stream? {σ ρ : Type} (plan : RunPlan σ ρ) : Channel → Option Stream
  | .output => plan.output
  | .warning => plan.warning
  | .error => plan.error

/-- The stream that was supplied last for a channel, by the plan or by calls; before that the engine
has one of its own. -/
def latest (plan : RunPlan (ScriptRunner ScriptEngine) Value) (calls : List ControllerCall)
    (channel : Channel) : Stream :=
  ((plan.stream? channel).toList ++
    calls.filterMap (ControllerCall.stream? channel)).getLast?.getD
      (plan.engine.module.context.stream channel)

/-- A call supplies the last stream if it supplies any. -/
theorem latest_append (plan : RunPlan (ScriptRunner ScriptEngine) Value)
    (calls : List ControllerCall) (call : ControllerCall) (channel : Channel) :
    plan.latest (calls ++ [call]) channel =
      (call.stream? channel).getD (plan.latest calls channel) := by
  rw [latest, latest, List.filterMap_append, List.filterMap_cons, List.filterMap_nil,
    ← List.append_assoc]
  cases call.stream? channel with
  | none => rw [List.append_nil, Option.getD_none]
  | some stream => rw [List.getLast?_concat, Option.getD_some, Option.getD_some]

/-- After any calls, channels lead to the streams that were supplied last for them. -/
theorem ensures_build_takeAll {plan : RunPlan (ScriptRunner ScriptEngine) Value}
    (script : plan.executor = .script) (calls : List ControllerCall) (resources : Resources) :
    (plan.build >>= fun built => built.takeAll calls).Ensures resources fun taken _ =>
      taken.2.executor = .script ∧ taken.2.destination = plan.latest calls := by
  refine (ensures_build_inputs plan resources).bind fun built left inputs => ?_
  have start : built.executor = .script ∧ built.destination = plan.latest [] := by
    obtain ⟨-, runId, profile, rfl⟩ := inputs
    refine ⟨script, funext fun channel => ?_⟩
    have last (held : Option Stream) (own : Stream) :
        held.toList.getLast?.getD own = held.getD own := by
      cases held <;> rfl
    rw [latest, List.filterMap_nil, List.append_nil, last]
    cases channel <;> rfl
  refine ensures_takeAll (fun past (next : Controller (ScriptRunner ScriptEngine) Value) _ =>
    next.executor = .script ∧ next.destination = plan.latest past) ?_ start calls
  rintro past next left call ⟨script, leads⟩
  refine (ensures_take_destination script call left).mono fun taken after ends => ?_
  refine ⟨ends.1, ends.2.trans (funext fun channel => ?_)⟩
  rw [latest_append, leads]

/-- Whatever calls a controller of a script took, a run of it does to the sinks what its utterances
do, written in the order of evaluation to the streams that were supplied last for their channels: a
sink receives the texts whose channels lead there as one text, and other sinks are left alone. A
disposal writes nothing, and the next run goes to the same streams. -/
theorem prints_to_latest (plan : RunPlan (ScriptRunner ScriptEngine) Value)
    (script : plan.executor = .script) (calls : List ControllerCall) (world : World) :
    let built := plan.build.run world
    let taken := (built.1.takeAll calls).run built.2
    let last := taken.1.2
    let sinks := taken.2.resources.sinks
    let streams := plan.latest calls
    let said : Transcript := (last.said taken.2.resources).map Script.Utterance.entry
    let ran := (last.run.run taken.2).2.resources.sinks
    let disposed := last.dispose.run taken.2
    (ran = sinks.print streams said ∧
      (∀ id < sinks.all.length,
        ran.get id = ((sinks.get id).write (said.into streams id).toUTF8).2) ∧
      ∀ id, (∀ channel, (streams channel).sink ≠ id) → ran.get id = sinks.get id) ∧
    disposed.2.resources.sinks = sinks ∧ disposed.1.destination = streams := by
  intro built taken last sinks streams said ran disposed
  obtain ⟨executor, leads⟩ : last.executor = .script ∧ last.destination = streams :=
    ensures_build_takeAll script calls world.resources world rfl
  have spoken := ensures_run_spoken executor taken.2.resources taken.2 rfl
  have quiet := ensures_dispose_spoken executor taken.2.resources taken.2 rfl
  have printed : ran = sinks.print streams said := leads ▸ spoken.sinks
  refine ⟨⟨printed, fun id inUse => ?_, fun id elsewhere => ?_⟩, quiet.sinks,
    quiet.streams.trans leads⟩
  · rw [printed]
    exact Sinks.get_print streams said inUse
  · rw [printed]
    exact Sinks.get_print_of_ne elsewhere said sinks

/-- A program that printed to one stream is disposed and redirected: the next run prints to the
other, and its warnings go where they went. -/
theorem prints_to_latest_renewed :
    let world := World.initial ⟨⟨"", "", "", 0⟩, fun _ => 0, fun _ => "", fun _ => ""⟩
    let plan := (RunPlan.new LanguageExecutor.script (ScriptRunner.new (ScriptEngine.new 8))).code
      "warn(1); println(2);"
    let calls := [.redirect .output .stderr, .run, .dispose, .redirect .output .stdout]
    let built := plan.build.run world
    let taken := (built.1.takeAll calls).run built.2
    let sinks := taken.2.resources.sinks
    let ran := (taken.1.2.run.run taken.2).2.resources.sinks
    plan.executor = .script ∧ ran.get 0 = ((sinks.get 0).write "2\n".toUTF8).2 ∧
      ran.get 1 = ((sinks.get 1).write "1\n".toUTF8).2 := by
  refine ⟨rfl, ?_, ?_⟩
  · refine ((prints_to_latest _ rfl _ _).1.2.1 0 ?_).trans
      (congrArg (fun text : String => (Sink.write _ text.toUTF8).2) ?_)
    · decide +kernel
    · decide +kernel
  · refine ((prints_to_latest _ rfl _ _).1.2.1 1 ?_).trans
      (congrArg (fun text : String => (Sink.write _ text.toUTF8).2) ?_)
    · decide +kernel
    · decide +kernel

end RunPlan
end StagedScript
