import StagedScript.Proofs.Run.Effects
import StagedScript.Proofs.Run.Likeness
import StagedScript.Run.Plan

/-!
# Histories of controllers

A controller takes calls one after the other: runs, redirections and disposals. Its history is what
each call came to, and what could be observed after it.

**Results.** Nothing but the log and the times depends on whether runs are recorded
(`history_profileExecution`): controllers that differ in that alone stay alike call by call.
-/

namespace StagedScript

/-- A call that a controller takes. -/
inductive ControllerCall where
  | run
  | redirect (channel : Channel) (stream : Stream)
  | dispose

/-- What a call to a controller answered, what the controller and the resources are after it, and
what it changed in the metrics. -/
structure Observation (σ ρ : Type) where
  answer : Option (Except ScriptError ρ)
  controller : Controller σ ρ
  resources : Resources
  changes : List (String × Nat)

namespace Controller

open InWorld

variable {σ ρ : Type}

/-- Take a call. Only a run has an answer. -/
def take (controller : Controller σ ρ) :
    ControllerCall → InWorld (Option (Except ScriptError ρ) × Controller σ ρ)
  | .run => do
      let (answer, next) ← controller.run
      return (some answer, next)
  | .redirect channel stream => return (none, ← controller.redirected channel stream)
  | .dispose => return (none, ← controller.dispose)

/-- Take calls one after the other: the answers, and the controller in the end. -/
def takeAll (controller : Controller σ ρ) :
    List ControllerCall → InWorld (List (Option (Except ScriptError ρ)) × Controller σ ρ)
  | [] => return ([], controller)
  | call :: rest => do
      let (answer, next) ← controller.take call
      let (answers, last) ← takeAll next rest
      return (answer :: answers, last)

/-- If every call carries on what the calls before it brought about, then calls bring it about
together. -/
theorem ensures_takeAll (holds : List ControllerCall → Controller σ ρ → Resources → Prop)
    (carries : ∀ past controller resources call, holds past controller resources →
      (controller.take call).Ensures resources fun taken left =>
        holds (past ++ [call]) taken.2 left)
    {controller : Controller σ ρ} {resources : Resources} (start : holds [] controller resources)
    (calls : List ControllerCall) :
    (controller.takeAll calls).Ensures resources fun taken left => holds calls taken.2 left := by
  -- The calls so far vary in the induction.
  suffices general : ∀ past controller resources, holds past controller resources →
      (controller.takeAll calls).Ensures resources fun taken left =>
        holds (past ++ calls) taken.2 left from general [] controller resources start
  clear start
  induction calls with
  | nil =>
      intro past controller resources sofar
      refine ensures_pure ?_
      rwa [List.append_nil]
  | cons call rest ih =>
      intro past controller resources sofar
      refine (carries past controller resources call sofar).bind fun taken left next => ?_
      refine (ih _ _ _ next).bind fun all final last => ensures_pure ?_
      rwa [List.append_assoc] at last

/-- The controller without its profile and without the switch that asks for one. -/
def unprofiled (controller : Controller σ ρ) : Controller σ ρ :=
  { controller with
    options := { controller.options with profileExecution := false }, profile := none }

/-- What is observed of a call that led from one world to another. -/
def observation (before after : World) (taken : Option (Except ScriptError ρ) × Controller σ ρ) :
    Observation σ ρ :=
  ⟨taken.1, taken.2.unprofiled, after.resources, before.metrics.unprofiledChanges after.metrics⟩

/-- Take a call, and observe everything but profiles. -/
def observe (controller : Controller σ ρ) (call : ControllerCall) :
    InWorld (Observation σ ρ × Controller σ ρ) := do
  let before ← get
  let taken ← controller.take call
  return (observation before (← get) taken, taken.2)

/-- Take calls one after the other, and observe each. -/
def history (controller : Controller σ ρ) :
    List ControllerCall → InWorld (List (Observation σ ρ))
  | [] => return []
  | call :: rest => do
      let (observation, next) ← controller.observe call
      return observation :: (← history next rest)

/-- The action by which a disposal lets go of the models. -/
def release (controller : Controller σ ρ) : Act σ Unit :=
  if controller.options.disposeModels then
    controller.executor.disposeModels
  else
    controller.executor.clearModels

/-- What a disposal logs first. -/
def releaseNote (controller : Controller σ ρ) : String :=
  if controller.options.disposeModels then
    "Disposing models"
  else
    "Removing models from context models"

/-- A disposal goes the same way, whatever it does with the models. -/
theorem dispose_eq (controller : Controller σ ρ) :
    controller.dispose = (do
      InWorld.log .info controller.releaseNote
      let ((), engine) ← InWorld.perform controller.release controller.engine
      InWorld.log .info "Dispose context"
      let ((), engine) ← InWorld.perform controller.executor.dispose engine
      InWorld.meter fun metrics => metrics.count .disposals
      return { controller with
        engine := engine, models := [], parameters := [], state := .disposed }) := by
  unfold dispose release releaseNote
  split <;> rfl

section Likeness

variable {machine : Machine} {controller other : Controller σ ρ}

/-- Controllers that differ only in whether and what they record. -/
def Alike (controller other : Controller σ ρ) : Prop :=
  ∃ profiled profile, other =
    { controller with
      options := { controller.options with profileExecution := profiled }, profile := profile }

theorem Alike.unprofiled_eq (alike : controller.Alike other) :
    controller.unprofiled = other.unprofiled := by
  obtain ⟨profiled, profile, rfl⟩ := alike
  rfl

theorem matches_lead (alike : controller.Alike other) {pass pass' : Pass σ ρ .constructed}
    (start : pass.Alike pass') (source : ResolvedSource) :
    Attempt.Matches machine (controller.lead pass source) (other.lead pass' source)
      fun left right => left.1 = right.1 ∧ left.2.Alike right.2 := by
  obtain ⟨profiled, profile, rfl⟩ := alike
  unfold lead
  refine (Pass.matches_parse start source).bind fun parsed parsed' alike => ?_
  refine (Attempt.matches_lift (Pass.matches_prepare alike _ _ _)).bind
    fun prepared prepared' alike => ?_
  refine (Pass.matches_preProcess alike).bind fun preProcessed preProcessed' alike => ?_
  refine (Pass.matches_execute alike).bind ?_
  rintro ⟨output, executed⟩ ⟨_, executed'⟩ ⟨rfl, alike⟩
  refine (Pass.matches_postProcess alike).bind fun postProcessed postProcessed' alike => ?_
  refine (Attempt.matches_lift (Pass.matches_finish alike)).bind fun finished finished' alike => ?_
  exact Attempt.matches_pure ⟨rfl, alike⟩

theorem matches_openPass (alike : controller.Alike other) :
    Matches machine controller.openPass other.openPass Pass.Alike := by
  obtain ⟨profiled, profile, rfl⟩ := alike
  unfold openPass
  refine (Pass.matches_onProfile ⟨profile, rfl⟩ fun recorded => recorded.unseen_logStart).bind
    fun started started' alike => ?_
  refine (Pass.matches_perform alike _).bind ?_
  rintro ⟨_, redirected⟩ ⟨_, redirected'⟩ ⟨-, alike⟩
  exact matches_pure alike

theorem matches_validate (alike : controller.Alike other) :
    Attempt.Matches machine controller.validate other.validate fun _ _ => True := by
  obtain ⟨profiled, profile, rfl⟩ := alike
  unfold validate
  refine (Attempt.matches_lift (matches_ofLogged _)).bind ?_
  rintro result _ rfl
  cases result with
  | ok => exact Attempt.matches_pure trivial
  | error error => exact InWorld.matches_pure .error

theorem matches_attempt (alike : controller.Alike other) :
    Attempt.Matches machine controller.attempt other.attempt
      fun left right => left.1 = right.1 ∧ left.2.Alike right.2 := by
  unfold attempt
  refine (matches_validate alike).bind fun _ _ _ => ?_
  refine (Attempt.matches_lift (matches_openPass alike)).bind fun pass pass' start => ?_
  have same : other.source = controller.source := by
    obtain ⟨profiled, profile, rfl⟩ := alike
    rfl
  rw [same]
  split
  · exact matches_lead alike start _
  · exact Pass.matches_fail start _

/-- A run answers the same, whether it is recorded or not. -/
theorem matches_run (alike : controller.Alike other) :
    Matches machine controller.run other.run
      fun left right => left.1 = right.1 ∧ left.2.Alike right.2 := by
  have attempted : Attempt.Matches machine controller.attempt other.attempt _ :=
    matches_attempt alike
  obtain ⟨profiled, profile, rfl⟩ := alike
  unfold run
  by_cases fresh : controller.state = .constructed
  · rw [if_neg (by simp [fresh]), if_neg (by simp [fresh])]
    refine (unseen_log _ _).matches_bind (unseen_log _ _) fun _ _ => ?_
    refine (unseen_log _ _).matches_bind (unseen_log _ _) fun _ _ => ?_
    refine (matches_meter fun _ _ metrics => metrics.recordRunStart).bind fun _ _ _ => ?_
    refine matches_instant.bind fun started started' read => ?_
    refine InWorld.Matches.bind attempted fun outcome outcome' ends => ?_
    refine (matches_elapsedSince read).bind fun elapsed elapsed' same => ?_
    cases ends with
    | ok related =>
        refine (matches_meter fun _ _ metrics => metrics.recordSuccess same).bind fun _ _ _ => ?_
        obtain ⟨answer, recorded, alike⟩ := related
        refine matches_pure ⟨congrArg Except.ok answer, profiled, recorded, ?_⟩
        rw [alike]
    | error =>
        refine (matches_meter fun _ _ metrics => metrics.recordFailure _ same).bind fun _ _ _ => ?_
        exact matches_pure ⟨rfl, profiled, _, rfl⟩
  · rw [if_pos fresh, if_pos fresh]
    exact matches_pure ⟨rfl, profiled, profile, rfl⟩

theorem matches_dispose (alike : controller.Alike other) :
    Matches machine controller.dispose other.dispose Alike := by
  obtain ⟨profiled, profile, rfl⟩ := alike
  rw [dispose_eq, dispose_eq]
  refine (unseen_log _ _).matches_bind (unseen_log _ _) fun _ _ => ?_
  refine (matches_perform controller.release controller.engine).bind ?_
  rintro ⟨_, engine⟩ _ rfl
  refine (unseen_log _ _).matches_bind (unseen_log _ _) fun _ _ => ?_
  refine (matches_perform controller.executor.dispose engine).bind ?_
  rintro ⟨_, left⟩ _ rfl
  refine (matches_meter fun _ _ metrics => metrics.count .disposals).bind fun _ _ _ => ?_
  exact matches_pure ⟨profiled, profile, rfl⟩

/-- Making a profile, or none, is not seen. -/
theorem unseen_freshProfile (options : ExecutionOptions) (probe : HostProbe) :
    Unseen machine (freshProfile options probe) := by
  rintro world rfl
  unfold freshProfile
  cases options.profileExecution <;> cases probe <;> exact .refl world

theorem matches_redirected (alike : controller.Alike other) (channel : Channel)
    (stream : Stream) :
    Matches machine (controller.redirected channel stream) (other.redirected channel stream)
      Alike := by
  obtain ⟨profiled, profile, rfl⟩ := alike
  unfold redirected renewed
  refine matches_newRunId.bind ?_
  rintro runId _ rfl
  refine (unseen_freshProfile _ _).matches_bind (unseen_freshProfile _ _) fun fresh fresh' => ?_
  refine matches_pure ⟨profiled, fresh', ?_⟩
  cases channel <;> rfl

theorem matches_take (alike : controller.Alike other) (call : ControllerCall) :
    Matches machine (controller.take call) (other.take call)
      fun left right => left.1 = right.1 ∧ left.2.Alike right.2 := by
  cases call with
  | run =>
      refine (matches_run alike).bind fun left right ⟨answer, alike⟩ => ?_
      exact matches_pure ⟨congrArg some answer, alike⟩
  | redirect channel stream =>
      exact (matches_redirected alike channel stream).bind
        fun _ _ alike => matches_pure ⟨rfl, alike⟩
  | dispose => exact (matches_dispose alike).bind fun _ _ alike => matches_pure ⟨rfl, alike⟩

theorem observation_eq {before after before' after' : World}
    {taken taken' : Option (Except ScriptError ρ) × Controller σ ρ}
    (start : before.Alike machine before') (stop : after.Alike machine after')
    (answer : taken.1 = taken'.1) (next : taken.2.Alike taken'.2) :
    observation before after taken = observation before' after' taken' := by
  unfold observation
  rw [answer, next.unprofiled_eq, stop.resources,
    MetricsRegistry.unprofiledChanges_eq start.metrics stop.metrics]

/-- Each call is observed alike, and leaves controllers alike. -/
theorem matches_observe (alike : controller.Alike other) (call : ControllerCall) :
    Matches machine (controller.observe call) (other.observe call)
      fun left right => left.1 = right.1 ∧ left.2.Alike right.2 := by
  intro first second worlds
  obtain ⟨⟨answer, next⟩, left⟩ := matches_take alike call first second worlds
  exact ⟨⟨observation_eq worlds left answer next, next⟩, left⟩

theorem matches_history (calls : List ControllerCall) :
    ∀ {controller other : Controller σ ρ}, controller.Alike other →
      Matches machine (controller.history calls) (other.history calls) Eq := by
  induction calls with
  | nil => exact fun _ => matches_pure rfl
  | cons call rest ih =>
      intro controller other alike
      refine (matches_observe alike call).bind ?_
      rintro ⟨observation, next⟩ ⟨_, next'⟩ ⟨rfl, alike⟩
      refine (ih alike).bind ?_
      rintro observations _ rfl
      exact matches_pure rfl

end Likeness
end Controller

namespace RunPlan

open InWorld

variable {σ ρ : Type}

theorem matches_build {machine : Machine} (plan : RunPlan σ ρ) (profiled unprofiled : Bool) :
    (plan.profileExecution profiled).build.Matches machine
      (plan.profileExecution unprofiled).build Controller.Alike := by
  unfold build
  refine (Controller.unseen_freshProfile _ _).matches_bind (Controller.unseen_freshProfile _ _)
    fun recorded recorded' => ?_
  refine matches_newRunId.bind ?_
  rintro runId _ rfl
  exact matches_pure ⟨unprofiled, recorded', rfl⟩

/-- Make a controller, and observe the calls that it takes. -/
def history (plan : RunPlan σ ρ) (calls : List ControllerCall) :
    InWorld (List (Observation σ ρ)) := do
  (← plan.build).history calls

/-- Whatever calls a controller takes, nothing that is observed depends on whether its runs are
recorded. Afterwards the worlds differ in the log, the readings of the clock, the count of replaced
rule times and the latencies that were observed: these are as many, and the same if the clock stands
still. -/
theorem history_profileExecution (plan : RunPlan σ ρ) (calls : List ControllerCall)
    (world : World) :
    let recorded := ((plan.profileExecution true).history calls).run world
    let plain := ((plan.profileExecution false).history calls).run world
    recorded.1 = plain.1 ∧ recorded.2.Alike world.machine plain.2 :=
  ((plan.matches_build true false).bind fun _ _ alike => Controller.matches_history calls alike)
    world world (.refl world)

end RunPlan
end StagedScript
