import StagedScript.Proofs.Metrics.Likeness
import StagedScript.Run.Pass

/-!
# Likeness of computations

Two computations match if, in worlds that differ in their logs, in how often their clocks were read
and in what these showed, they have related values and leave such worlds again. There is one rule
for each way to build a computation, and one for what no other computation can see: it may be made
on one side only.

Passes are alike if they differ in their profiles only, and each step of a pass matches itself.
-/

namespace StagedScript

/-- A clock that always shows the same. -/
def Machine.Still (machine : Machine) : Prop :=
  ∀ reading, machine.instants reading = machine.instants 0

/-- Worlds of one machine that agree on all but the log, the readings of the clock, and what the
metrics say of these. -/
structure World.Alike (machine : Machine) (first second : World) : Prop where
  here : first.machine = machine
  there : second.machine = machine
  resources : first.resources = second.resources
  runsNamed : first.runsNamed = second.runsNamed
  metrics : first.metrics.Alike machine.Still second.metrics

namespace World.Alike

variable {machine : Machine} {first second third : World}

theorem refl (world : World) : World.Alike world.machine world world :=
  ⟨rfl, rfl, rfl, rfl, .refl _⟩

theorem symm (alike : Alike machine first second) : Alike machine second first :=
  ⟨alike.there, alike.here, alike.resources.symm, alike.runsNamed.symm, alike.metrics.symm⟩

theorem trans (left : Alike machine first second) (right : Alike machine second third) :
    Alike machine first third :=
  ⟨left.here, right.there, left.resources.trans right.resources,
    left.runsNamed.trans right.runsNamed, left.metrics.trans right.metrics⟩

end World.Alike

namespace InWorld

variable {α β α' β' σ : Type} {machine : Machine}

/-- In alike worlds, two computations have related values and leave alike worlds. -/
def Matches (machine : Machine) (m : InWorld α) (n : InWorld β) (both : α → β → Prop) : Prop :=
  ∀ first second, World.Alike machine first second →
    both (m.run first).1 (n.run second).1 ∧ World.Alike machine (m.run first).2 (n.run second).2

theorem matches_pure {a : α} {b : β} {both : α → β → Prop} (related : both a b) :
    Matches machine (pure a) (pure b) both :=
  fun _ _ alike => ⟨related, alike⟩

theorem Matches.bind {m : InWorld α} {n : InWorld β} {f : α → InWorld α'} {g : β → InWorld β'}
    {mid : α → β → Prop} {both : α' → β' → Prop} (start : Matches machine m n mid)
    (next : ∀ a b, mid a b → Matches machine (f a) (g b) both) :
    Matches machine (m >>= f) (n >>= g) both := by
  intro first second alike
  obtain ⟨related, left⟩ := start first second alike
  exact next _ _ related _ _ left

/-- A computation that leaves a world like the one that it finds. -/
def Unseen (machine : Machine) (m : InWorld α) : Prop :=
  ∀ world, world.machine = machine → World.Alike machine world (m.run world).2

theorem unseen_pure (a : α) : Unseen machine (pure a : InWorld α) := by
  rintro world rfl
  exact .refl world

theorem Unseen.bind {m : InWorld α} {f : α → InWorld β} (first : Unseen machine m)
    (next : ∀ a, Unseen machine (f a)) : Unseen machine (m >>= f) := by
  intro world same
  have start := first world same
  exact start.trans (next _ _ start.there)

theorem unseen_log (level : LogLevel) (message : String) : Unseen machine (log level message) := by
  rintro world rfl
  exact ⟨rfl, rfl, rfl, rfl, .refl _⟩

theorem unseen_logAll (records : List LogRecord) : Unseen machine (logAll records) := by
  rintro world rfl
  exact ⟨rfl, rfl, rfl, rfl, .refl _⟩

theorem unseen_instant : Unseen machine instant := by
  rintro world rfl
  exact ⟨rfl, rfl, rfl, rfl, .refl _⟩

theorem unseen_date : Unseen machine date := by
  rintro world rfl
  exact ⟨rfl, rfl, rfl, rfl, .refl _⟩

theorem unseen_overwrite :
    Unseen machine (meter fun metrics => metrics.count .ruleOverwrites) := by
  rintro world rfl
  exact ⟨rfl, rfl, rfl, rfl, .count_ruleOverwrites _⟩

/-- What is not seen may be made on both sides, whatever it is. -/
theorem Unseen.matches_bind {m : InWorld α} {n : InWorld β} {f : α → InWorld α'}
    {g : β → InWorld β'} {both : α' → β' → Prop} (here : Unseen machine m)
    (there : Unseen machine n) (next : ∀ a b, Matches machine (f a) (g b) both) :
    Matches machine (m >>= f) (n >>= g) both := by
  intro first second alike
  have left := here first alike.here
  have right := there second alike.there
  exact next _ _ _ _ (left.symm.trans (alike.trans right))

theorem Unseen.matches_self {m : InWorld Unit} (unseen : Unseen machine m) :
    Matches machine m m Eq :=
  fun _ _ alike => ⟨rfl, (unseen _ alike.here).symm.trans (alike.trans (unseen _ alike.there))⟩

/-- Two readings of the clock are the same if it stands still. -/
theorem matches_instant :
    Matches machine instant instant fun now then_ => machine.Still → now = then_ := by
  intro first second alike
  refine ⟨fun still => ?_, alike.here, alike.there, alike.resources, alike.runsNamed,
    alike.metrics⟩
  change first.machine.instants _ = second.machine.instants _
  rw [alike.here, alike.there, still, ← still second.instantsRead]

theorem matches_elapsedSince {started other : Nanoseconds}
    (same : machine.Still → started = other) :
    Matches machine (elapsedSince started) (elapsedSince other)
      fun elapsed spent => machine.Still → elapsed = spent := by
  refine matches_instant.bind fun now then_ read => matches_pure fun still => ?_
  rw [same still, read still]

theorem matches_meter {change other : MetricsRegistry → MetricsRegistry}
    (keeps : ∀ metrics metrics', metrics.Alike machine.Still metrics' →
      (change metrics).Alike machine.Still (other metrics')) :
    Matches machine (meter change) (meter other) fun _ _ => True := by
  intro first second alike
  exact ⟨trivial, alike.here, alike.there, alike.resources, alike.runsNamed,
    keeps _ _ alike.metrics⟩

theorem matches_newRunId : Matches machine newRunId newRunId Eq := by
  intro first second alike
  refine ⟨?_, alike.here, alike.there, alike.resources, congrArg (· + 1) alike.runsNamed,
    alike.metrics⟩
  change RunId.mk _ _ = RunId.mk _ _
  rw [alike.here, alike.there, alike.runsNamed]

theorem matches_ofLogged (logged : Logged α) :
    Matches machine (ofLogged logged) (ofLogged logged) Eq :=
  (unseen_logAll _).matches_bind (unseen_logAll _) fun _ _ => matches_pure rfl

/-- An action does the same to the same state and the same resources. -/
theorem matches_perform (action : Act σ α) (state : σ) :
    Matches machine (perform action state) (perform action state) Eq := by
  intro first second alike
  obtain ⟨resources, log, metrics, machine, instantsRead, datesRead, runsNamed⟩ := first
  obtain rfl : resources = second.resources := alike.resources
  exact ⟨rfl, alike.here, alike.there, rfl, alike.runsNamed, alike.metrics⟩

end InWorld

namespace Profile

open InWorld

variable {machine : Machine}

/-! Nobody sees whether a profile is recorded. -/

theorem unseen_logStart (profile : Profile) : Unseen machine profile.logStart :=
  unseen_instant.bind fun _ => unseen_date.bind fun _ => (unseen_logAll _).bind fun _ =>
    unseen_pure _

theorem unseen_recordStart (profile : Profile) (name : String) :
    Unseen machine (profile.recordStart name) :=
  unseen_instant.bind fun _ => unseen_pure _

theorem unseen_recordEnd (profile : Profile) (name : String) :
    Unseen machine (profile.recordEnd name) :=
  unseen_instant.bind fun _ => unseen_pure _

theorem unseen_logEnd (profile : Profile) : Unseen machine profile.logEnd :=
  unseen_instant.bind fun _ => unseen_date.bind fun _ => (unseen_logAll _).bind fun _ =>
    unseen_pure _

theorem unseen_harvest (timings : List RuleTiming) :
    ∀ profile : Profile, Unseen machine (profile.harvest timings) := by
  induction timings with
  | nil => exact fun profile => unseen_pure profile
  | cons timing rest ih =>
      intro profile
      unfold harvest
      split
      · exact (unseen_log _ _).bind fun _ => unseen_overwrite.bind fun _ => ih _
      · exact ih _

theorem unseen_endModule (profile : Profile) (timings : Option (List RuleTiming)) :
    Unseen machine (profile.endModule timings) := by
  cases timings with
  | none => exact unseen_pure profile
  | some timings => exact unseen_harvest timings profile

end Profile

section Attempts

variable {σ α β α' β' : Type} {machine : Machine}

/-- Related values, or the same error and the same state of the executor. -/
inductive AlikeEnds (both : α → β → Prop) :
    Except (FailedPass σ) α → Except (FailedPass σ) β → Prop
  | ok {a : α} {b : β} : both a b → AlikeEnds both (.ok a) (.ok b)
  | error {failed : FailedPass σ} {profile : Option Profile} :
      AlikeEnds both (.error failed) (.error { failed with profile := profile })

namespace Attempt

/-- In alike worlds, two attempts end alike and leave alike worlds. -/
def Matches (machine : Machine) (m : Attempt σ α) (n : Attempt σ β) (both : α → β → Prop) : Prop :=
  InWorld.Matches machine m.run n.run (AlikeEnds both)

theorem matches_pure {a : α} {b : β} {both : α → β → Prop} (related : both a b) :
    Matches machine (pure a : Attempt σ α) (pure b) both :=
  InWorld.matches_pure (.ok related)

theorem Matches.bind {m : Attempt σ α} {n : Attempt σ β} {f : α → Attempt σ α'}
    {g : β → Attempt σ β'} {mid : α → β → Prop} {both : α' → β' → Prop}
    (start : Matches machine m n mid) (next : ∀ a b, mid a b → Matches machine (f a) (g b) both) :
    Matches machine (m >>= f) (n >>= g) both := by
  unfold Matches at start ⊢
  refine start.bind (f := ExceptT.bindCont f) (g := ExceptT.bindCont g) fun left right ends => ?_
  cases ends with
  | ok related => exact next _ _ related
  | error => exact InWorld.matches_pure .error

theorem matches_lift {m : InWorld α} {n : InWorld β} {both : α → β → Prop}
    (same : m.Matches machine n both) :
    Matches machine (liftM m : Attempt σ α) (liftM n) both :=
  same.bind fun _ _ related => InWorld.matches_pure (.ok related)

end Attempt
end Attempts

namespace Pass

open InWorld

variable {σ ρ α : Type} {reached : LifecycleState} {machine : Machine}
  {pass other : Pass σ ρ reached}

/-- Passes that differ in their profiles only. -/
def Alike (pass other : Pass σ ρ reached) : Prop :=
  ∃ profile, other = { pass with profile := profile }

theorem Alike.advance (alike : pass.Alike other) (next : LifecycleState) :
    (pass.advance next).Alike (other.advance next) := by
  obtain ⟨profile, rfl⟩ := alike
  exact ⟨profile, rfl⟩

theorem matches_fail {β : Type} {both : α → β → Prop} (alike : pass.Alike other)
    (error : ScriptError) :
    Attempt.Matches machine (pass.fail error : Attempt σ α) (other.fail error) both := by
  obtain ⟨profile, rfl⟩ := alike
  exact InWorld.matches_pure .error

theorem Alike.executor_eq (alike : pass.Alike other) : other.executor = pass.executor := by
  obtain ⟨profile, rfl⟩ := alike
  rfl

theorem Alike.symm (alike : pass.Alike other) : other.Alike pass := by
  obtain ⟨profile, rfl⟩ := alike
  exact ⟨pass.profile, rfl⟩

theorem Alike.trans {third : Pass σ ρ reached} (left : pass.Alike other)
    (right : other.Alike third) : pass.Alike third := by
  obtain ⟨profile, rfl⟩ := left
  obtain ⟨profile', rfl⟩ := right
  exact ⟨profile', rfl⟩

theorem alike_onProfile (pass : Pass σ ρ reached) (change : Profile → InWorld Profile)
    (world : World) : pass.Alike ((pass.onProfile change).run world).1 := by
  unfold onProfile
  split
  next => exact ⟨pass.profile, rfl⟩
  next => exact ⟨_, rfl⟩

theorem unseen_onProfile (pass : Pass σ ρ reached) {change : Profile → InWorld Profile}
    (unseen : ∀ profile, Unseen machine (change profile)) :
    Unseen machine (pass.onProfile change) := by
  unfold onProfile
  split
  next => exact unseen_pure _
  next profile _ => exact (unseen profile).bind fun _ => unseen_pure _

/-- Recording, or not recording, leaves passes alike. -/
theorem matches_onProfile (alike : pass.Alike other) {change : Profile → InWorld Profile}
    (unseen : ∀ profile, Unseen machine (change profile)) :
    Matches machine (pass.onProfile change) (other.onProfile change) Alike := by
  intro first second worlds
  have left := pass.unseen_onProfile unseen first worlds.here
  have right := other.unseen_onProfile unseen second worlds.there
  refine ⟨?_, left.symm.trans (worlds.trans right)⟩
  exact (pass.alike_onProfile change first).symm.trans
    (alike.trans (other.alike_onProfile change second))

/-- An action of alike passes has one result. -/
theorem matches_perform (alike : pass.Alike other) (action : Act σ α) :
    Matches machine (pass.perform action) (other.perform action)
      fun left right => left.1 = right.1 ∧ left.2.Alike right.2 := by
  obtain ⟨profile, rfl⟩ := alike
  refine (InWorld.matches_perform action pass.state).bind ?_
  rintro ⟨result, state⟩ _ rfl
  exact InWorld.matches_pure ⟨rfl, profile, rfl⟩

theorem matches_span (alike : pass.Alike other) (stage : Stage) (action : Act σ α) :
    Matches machine (pass.span stage action) (other.span stage action)
      fun left right => left.1 = right.1 ∧ left.2.Alike right.2 := by
  unfold span
  refine matches_instant.bind fun started started' read => ?_
  refine (matches_onProfile alike fun profile => profile.unseen_recordStart _).bind
    fun opened opened' alike => ?_
  refine (matches_perform alike action).bind ?_
  rintro ⟨result, acted⟩ ⟨_, acted'⟩ ⟨rfl, alike⟩
  refine (matches_onProfile alike fun profile => profile.unseen_recordEnd _).bind
    fun closed closed' alike => ?_
  refine (matches_elapsedSince read).bind fun elapsed elapsed' same => ?_
  refine (matches_meter fun _ _ metrics => metrics.observe (.stage stage) same).bind fun _ _ _ => ?_
  exact InWorld.matches_pure ⟨rfl, alike⟩

theorem unseen_logFault (lead : String) (error : ScriptError) :
    Unseen machine (logFault lead error) := by
  unfold logFault
  split
  · exact unseen_log _ _
  · exact unseen_pure _

/-- What is logged before a failure is not seen. -/
theorem matches_fail_after {β : Type} {both : α → β → Prop} (alike : pass.Alike other)
    {note : InWorld Unit} (unseen : Unseen machine note) (error : ScriptError) :
    Attempt.Matches machine (do note; pass.fail error : Attempt σ α)
      (do note; other.fail error) both :=
  (Attempt.matches_lift (unseen.matches_self)).bind fun _ _ _ => matches_fail alike error

theorem matches_parse {pass other : Pass σ ρ .constructed} (alike : pass.Alike other)
    (source : ResolvedSource) :
    Attempt.Matches machine (pass.parse source) (other.parse source) Alike := by
  unfold parse
  rw [alike.executor_eq]
  refine (Attempt.matches_lift (matches_perform alike _)).bind ?_
  rintro ⟨parsed, pass⟩ ⟨_, other⟩ ⟨rfl, profile, rfl⟩
  dsimp only
  have alike : pass.Alike { pass with profile := profile } := ⟨profile, rfl⟩
  split
  · exact matches_fail_after alike (unseen_log _ _) _
  · split
    · exact matches_fail_after alike (unseen_logAll _) _
    · split
      · exact matches_fail_after alike (unseen_log _ _) _
      · exact Attempt.matches_pure (alike.advance _)

theorem matches_prepare {pass other : Pass σ ρ .parsed} (alike : pass.Alike other)
    (models : List ModelHandle) (parameters : Parameters) (delegates : List NativeDelegate) :
    Matches machine (pass.prepare models parameters delegates)
      (other.prepare models parameters delegates) Alike := by
  unfold prepare
  rw [alike.executor_eq]
  refine (matches_span alike _ _).bind ?_
  rintro ⟨_, prepared⟩ ⟨_, prepared'⟩ ⟨-, alike⟩
  exact InWorld.matches_pure (alike.advance _)

theorem matches_hook (alike : pass.Alike other) (stage : Stage)
    (action : Act σ (Except ScriptError Unit)) (next : LifecycleState) :
    Attempt.Matches machine (pass.hook stage action next) (other.hook stage action next) Alike := by
  unfold hook
  refine (Attempt.matches_lift (matches_span alike stage action)).bind ?_
  rintro ⟨result, pass⟩ ⟨_, other⟩ ⟨rfl, alike⟩
  dsimp only
  split
  · exact Attempt.matches_pure (alike.advance next)
  · exact matches_fail_after alike (unseen_logFault _ _) _

theorem matches_execute {pass other : Pass σ ρ .preProcessed} (alike : pass.Alike other) :
    Attempt.Matches machine pass.execute other.execute
      fun left right => left.1 = right.1 ∧ left.2.Alike right.2 := by
  unfold execute
  rw [alike.executor_eq]
  refine (Attempt.matches_lift (matches_span alike _ _)).bind ?_
  rintro ⟨result, pass⟩ ⟨_, other⟩ ⟨rfl, alike⟩
  dsimp only
  split
  · exact Attempt.matches_pure ⟨rfl, alike.advance _⟩
  · exact matches_fail_after alike (unseen_logFault _ _) _

theorem matches_preProcess {pass other : Pass σ ρ .prepared} (alike : pass.Alike other) :
    Attempt.Matches machine pass.preProcess other.preProcess Alike := by
  unfold preProcess
  rw [alike.executor_eq]
  exact matches_hook alike _ _ _

theorem matches_postProcess {pass other : Pass σ ρ .executed} (alike : pass.Alike other) :
    Attempt.Matches machine pass.postProcess other.postProcess Alike := by
  unfold postProcess
  rw [alike.executor_eq]
  exact matches_hook alike _ _ _

theorem matches_finish {pass other : Pass σ ρ .postProcessed} (alike : pass.Alike other) :
    Matches machine pass.finish other.finish Alike := by
  obtain ⟨profile, rfl⟩ := alike
  exact matches_onProfile ⟨profile, rfl⟩ fun recorded =>
    (recorded.unseen_endModule _).bind fun merged => merged.unseen_logEnd

end Pass
end StagedScript
