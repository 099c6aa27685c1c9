import StagedScript.Run.Controller

/-!
# Effects of computations in a world

What a computation does to the shared resources does not depend on the log, the metrics or the
clock. `InWorld.Ensures` says what holds of its value and of the resources afterwards, and one rule
for each way to build a computation keeps the rest of the world out of the proofs.

`Act.apply` is what an action of a component does to the component and to the resources.
-/

namespace StagedScript

namespace Act

variable {σ α β : Type}

/-- What an action does to the state of its component and to the resources. -/
def apply (action : Act σ α) (state : σ × Resources) : α × (σ × Resources) :=
  let result := ((action.run state.1).run state.2).value
  (result.1.1, (result.1.2, result.2))

@[simp] theorem apply_pure (a : α) (state : σ × Resources) :
    apply (pure a) state = (a, state) :=
  rfl

@[simp] theorem apply_bind (action : Act σ α) (next : α → Act σ β) (state : σ × Resources) :
    apply (action >>= next) state =
      apply (next (apply action state).1) (apply action state).2 :=
  rfl

end Act

namespace InWorld

variable {σ α β : Type} {resources : Resources}

/-- In every world with these resources, a computation has a value and leaves resources as the
postcondition says. -/
def Ensures (m : InWorld α) (resources : Resources) (post : α → Resources → Prop) : Prop :=
  ∀ world, world.resources = resources → post (m.run world).1 (m.run world).2.resources

theorem ensures_pure {a : α} {post : α → Resources → Prop} (holds : post a resources) :
    (pure a : InWorld α).Ensures resources post := by
  rintro world rfl
  exact holds

theorem Ensures.bind {m : InWorld α} {f : α → InWorld β} {mid : α → Resources → Prop}
    {post : β → Resources → Prop} (first : m.Ensures resources mid)
    (next : ∀ a left, mid a left → (f a).Ensures left post) :
    (m >>= f).Ensures resources post :=
  fun world same => next _ _ (first world same) _ rfl

theorem Ensures.mono {m : InWorld α} {weak strong : α → Resources → Prop}
    (ensures : m.Ensures resources strong) (weaken : ∀ a left, strong a left → weak a left) :
    m.Ensures resources weak :=
  fun world same => weaken _ _ (ensures world same)

theorem Ensures.and {m : InWorld α} {first second : α → Resources → Prop}
    (one : m.Ensures resources first) (two : m.Ensures resources second) :
    m.Ensures resources fun a left => first a left ∧ second a left :=
  fun world same => ⟨one world same, two world same⟩

/-- A computation that leaves the resources alone, whatever else it does. -/
def Aside (m : InWorld α) : Prop :=
  ∀ world, (m.run world).2.resources = world.resources

theorem Aside.bind {m : InWorld α} {f : α → InWorld β} (first : m.Aside)
    (next : ∀ a, (f a).Aside) : (m >>= f).Aside :=
  fun world => (next _ _).trans (first world)

theorem aside_pure (a : α) : (pure a : InWorld α).Aside :=
  fun _ => rfl

theorem aside_log (level : LogLevel) (message : String) : (log level message).Aside :=
  fun _ => rfl

theorem aside_logAll (records : List LogRecord) : (logAll records).Aside :=
  fun _ => rfl

theorem aside_instant : instant.Aside :=
  fun _ => rfl

theorem aside_date : date.Aside :=
  fun _ => rfl

theorem aside_newRunId : newRunId.Aside :=
  fun _ => rfl

theorem aside_meter (change : MetricsRegistry → MetricsRegistry) : (meter change).Aside :=
  fun _ => rfl

theorem aside_elapsedSince (started : Nanoseconds) : (elapsedSince started).Aside :=
  fun _ => rfl

/-- What is done aside comes to nothing here. -/
theorem Aside.ensures_bind {m : InWorld α} {f : α → InWorld β} {post : β → Resources → Prop}
    (aside : m.Aside) (next : ∀ a, (f a).Ensures resources post) :
    (m >>= f).Ensures resources post :=
  fun world same => next _ _ ((aside world).trans same)

/-- An action is carried out on the resources, and its records are logged. -/
theorem ensures_perform_bind {action : Act σ α} {state : σ} {f : α × σ → InWorld β}
    {post : β → Resources → Prop}
    (next : (f ((Act.apply action (state, resources)).1,
      (Act.apply action (state, resources)).2.1)).Ensures
        (Act.apply action (state, resources)).2.2 post) :
    (perform action state >>= f).Ensures resources post := by
  rintro world rfl
  exact next _ rfl

theorem ensures_ofLogged_bind {logged : Logged α} {f : α → InWorld β}
    {post : β → Resources → Prop} (next : (f logged.value).Ensures resources post) :
    (ofLogged logged >>= f).Ensures resources post := by
  rintro world rfl
  exact next _ rfl

end InWorld

namespace Profile

open InWorld

/-! Recording touches the clock, the log and the metrics, and nothing else. -/

theorem aside_logStart (profile : Profile) : profile.logStart.Aside :=
  fun _ => rfl

theorem aside_recordStart (profile : Profile) (name : String) : (profile.recordStart name).Aside :=
  fun _ => rfl

theorem aside_recordEnd (profile : Profile) (name : String) : (profile.recordEnd name).Aside :=
  fun _ => rfl

theorem aside_logEnd (profile : Profile) : profile.logEnd.Aside :=
  fun _ => rfl

theorem aside_harvest (timings : List RuleTiming) :
    ∀ profile : Profile, (profile.harvest timings).Aside := by
  induction timings with
  | nil => exact fun profile => aside_pure profile
  | cons timing rest ih =>
      intro profile
      unfold harvest
      split
      · exact Aside.bind (aside_log _ _) fun _ => Aside.bind (aside_meter _) fun _ => ih _
      · exact ih _

theorem aside_endModule (profile : Profile) (timings : Option (List RuleTiming)) :
    (profile.endModule timings).Aside := by
  cases timings with
  | none => exact aside_pure profile
  | some timings => exact aside_harvest timings profile

end Profile

namespace Pass

open InWorld

variable {σ ρ α β : Type} {reached : LifecycleState} {pass : Pass σ ρ reached}
  {resources : Resources} {post : β → Resources → Prop}

/-- Recording changes the profile of a pass and nothing else. -/
theorem ensures_onProfile_bind {change : Profile → InWorld Profile}
    {f : Pass σ ρ reached → InWorld β} (aside : ∀ profile, (change profile).Aside)
    (next : ∀ profile, (f { pass with profile := profile }).Ensures resources post) :
    (pass.onProfile change >>= f).Ensures resources post := by
  unfold onProfile
  split
  next => exact next pass.profile
  next profile _ =>
    rw [bind_assoc]
    exact (aside profile).ensures_bind fun recorded => next (some recorded)

/-- An action of the executor changes the state and the resources. -/
theorem ensures_perform_bind {action : Act σ α} {f : α × Pass σ ρ reached → InWorld β}
    (next : (f ((Act.apply action (pass.state, resources)).1,
      { pass with state := (Act.apply action (pass.state, resources)).2.1 })).Ensures
        (Act.apply action (pass.state, resources)).2.2 post) :
    (pass.perform action >>= f).Ensures resources post := by
  rintro world rfl
  exact next _ rfl

/-- A stage does what its action does, whether it is recorded or not. -/
theorem ensures_span_bind {stage : Stage} {action : Act σ α}
    {f : α × Pass σ ρ reached → InWorld β}
    (next : ∀ profile, (f ((Act.apply action (pass.state, resources)).1,
      ⟨pass.executor, (Act.apply action (pass.state, resources)).2.1, profile⟩)).Ensures
        (Act.apply action (pass.state, resources)).2.2 post) :
    (pass.span stage action >>= f).Ensures resources post := by
  unfold span
  simp only [bind_assoc, pure_bind]
  refine aside_instant.ensures_bind fun started => ?_
  refine ensures_onProfile_bind (fun profile => profile.aside_recordStart _) fun opened => ?_
  refine ensures_perform_bind ?_
  refine ensures_onProfile_bind (fun profile => profile.aside_recordEnd _) fun closed => ?_
  refine (aside_elapsedSince started).ensures_bind fun elapsed => ?_
  exact (aside_meter _).ensures_bind fun _ => next closed

/-- In an attempt, what may not fail is carried out and the attempt goes on. -/
theorem run_lift_bind (m : InWorld α) (f : α → Attempt σ β) :
    ((liftM m : Attempt σ α) >>= f).run = m >>= fun a => (f a).run :=
  rfl

theorem aside_logFault (lead : String) (error : ScriptError) : (logFault lead error).Aside := by
  unfold logFault
  split
  · exact aside_log _ _
  · exact aside_pure _

/-- A stage of hooks fails with its stage, or goes on. -/
theorem ensures_hook_bind {stage : Stage} {action : Act σ (Except ScriptError Unit)}
    {next : LifecycleState} {f : Pass σ ρ next → Attempt σ α}
    {post : Except (FailedPass σ) α → Resources → Prop}
    (fails : ∀ error after profile,
      Act.apply action (pass.state, resources) = (.error error, after) →
      post (.error ⟨stageError stage error, after.1, profile⟩) after.2)
    (passes : ∀ after profile,
      Act.apply action (pass.state, resources) = (.ok (), after) →
      (f ⟨pass.executor, after.1, profile⟩).run.Ensures after.2 post) :
    (pass.hook stage action next >>= f).run.Ensures resources post := by
  unfold hook
  rw [bind_assoc, run_lift_bind]
  refine ensures_span_bind fun profile => ?_
  rcases answer : Act.apply action (pass.state, resources) with ⟨error | _, after⟩
  · dsimp only
    rw [bind_assoc, run_lift_bind]
    exact (aside_logFault _ _).ensures_bind fun _ => ensures_pure (fails error after profile answer)
  · dsimp only
    rw [pure_bind]
    exact passes after profile answer

/-- The execution fails as one, or goes on with the result. -/
theorem ensures_execute_bind {pass : Pass σ ρ .preProcessed}
    {f : ρ × Pass σ ρ .executed → Attempt σ α}
    {post : Except (FailedPass σ) α → Resources → Prop}
    (fails : ∀ error after profile,
      Act.apply pass.executor.execute (pass.state, resources) = (.error error, after) →
      post (.error ⟨executionError error, after.1, profile⟩) after.2)
    (passes : ∀ output after profile,
      Act.apply pass.executor.execute (pass.state, resources) = (.ok output, after) →
      (f (output, ⟨pass.executor, after.1, profile⟩)).run.Ensures after.2 post) :
    (pass.execute >>= f).run.Ensures resources post := by
  unfold execute
  rw [bind_assoc, run_lift_bind]
  refine ensures_span_bind fun profile => ?_
  rcases answer : Act.apply pass.executor.execute (pass.state, resources)
    with ⟨error | output, after⟩
  · dsimp only
    rw [bind_assoc, run_lift_bind]
    exact (aside_logFault _ _).ensures_bind fun _ => ensures_pure (fails error after profile answer)
  · dsimp only
    rw [pure_bind]
    exact passes output after profile answer

/-- Models, parameters and delegates are handed over one after the other. -/
theorem ensures_prepare_bind {pass : Pass σ ρ .parsed} {models : List ModelHandle}
    {parameters : Parameters} {delegates : List NativeDelegate}
    {f : Pass σ ρ .prepared → InWorld β}
    (next : ∀ after profile,
      after = (Act.apply (pass.executor.addDelegates delegates)
        (Act.apply (pass.executor.addParameters parameters)
          (Act.apply (pass.executor.addModels models) (pass.state, resources)).2).2).2 →
      (f ⟨pass.executor, after.1, profile⟩).Ensures after.2 post) :
    (pass.prepare models parameters delegates >>= f).Ensures resources post := by
  unfold prepare
  rw [bind_assoc]
  refine ensures_span_bind fun profile => ?_
  exact next _ profile rfl

/-- A parse fails in one of three ways, or goes on. -/
theorem ensures_parse_bind {pass : Pass σ ρ .constructed} {source : ResolvedSource}
    {f : Pass σ ρ .parsed → Attempt σ α} {post : Except (FailedPass σ) α → Resources → Prop}
    (faults : ∀ fault after,
      Act.apply (pass.executor.parse source) (pass.state, resources) = (.error fault, after) →
      post (.error ⟨faultError source.kind fault, after.1, pass.profile⟩) after.2)
    (finds : ∀ accepted after,
      Act.apply (pass.executor.parse source) (pass.state, resources) = (.ok accepted, after) →
      pass.executor.problems after.1 ≠ [] →
      post (.error ⟨problemsError source.kind (pass.executor.problems after.1), after.1,
        pass.profile⟩) after.2)
    (rejects : ∀ after,
      Act.apply (pass.executor.parse source) (pass.state, resources) = (.ok false, after) →
      pass.executor.problems after.1 = [] →
      post (.error ⟨rejectionError source.kind, after.1, pass.profile⟩) after.2)
    (passes : ∀ after,
      Act.apply (pass.executor.parse source) (pass.state, resources) = (.ok true, after) →
      pass.executor.problems after.1 = [] →
      (f ⟨pass.executor, after.1, pass.profile⟩).run.Ensures after.2 post) :
    (pass.parse source >>= f).run.Ensures resources post := by
  unfold parse
  rw [bind_assoc, run_lift_bind]
  refine ensures_perform_bind ?_
  rcases answer : Act.apply (pass.executor.parse source) (pass.state, resources)
    with ⟨fault | accepted, after⟩
  · dsimp only
    rw [bind_assoc, run_lift_bind]
    exact (aside_log _ _).ensures_bind fun _ => ensures_pure (faults fault after answer)
  · dsimp only
    by_cases none : pass.executor.problems after.1 = []
    · rw [none]
      cases accepted with
      | false =>
          exact (aside_log _ _).ensures_bind fun _ => ensures_pure (rejects after answer none)
      | true => exact passes after answer none
    · rw [if_pos (by simpa using none), bind_assoc, run_lift_bind]
      exact (aside_logAll _).ensures_bind fun _ => ensures_pure (finds accepted after answer none)

theorem ensures_finish_bind {pass : Pass σ ρ .postProcessed}
    {f : Pass σ ρ .postProcessed → InWorld β}
    (next : ∀ profile, (f { pass with profile := profile }).Ensures resources post) :
    (pass.finish >>= f).Ensures resources post := by
  unfold finish
  refine ensures_onProfile_bind (fun profile => ?_) next
  exact (profile.aside_endModule _).bind fun merged => merged.aside_logEnd

end Pass
end StagedScript
