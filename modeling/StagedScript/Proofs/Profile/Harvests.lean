import Mathlib.Data.Finset.Card
import Mathlib.Data.Finset.Dedup
import StagedScript.Profile.Recording
import StagedScript.Proofs.Profile.Timers

/-!
# Harvests

The timings of one harvest after the other are merged into a profile. A timing replaces the one
that its rule has, if it has one; that is counted twice, in the profile and in the metrics, and
leaves a warning. `RuleTimes.replaced` lists the rules of which a time is replaced, as often as it
is, so that the three of them are read off one list.

**Results.** What harvests make of a profile and of the world (`Profile.run_harvest`). A merged
profile has the last timing of each rule that was harvested, and as many replacements as there were
timings less rules; a timer has the totals of what it was told, and its harvest replaces nothing
(`Profile.harvests_merge`). The replacements are no more than the timings, so 64 bits count them
as long as they count the timings (`Profile.Merged.toNat_ruleOverwrites`).
-/

namespace StagedScript

/-- No later timing is of the same rule. -/
def RuleTiming.IsLastIn (timing : RuleTiming) (timings : List RuleTiming) : Prop :=
  ∃ before after, timings = before ++ timing :: after ∧ ∀ other ∈ after, other.rule ≠ timing.rule

namespace RuleTimes

/-- Set times one after the other. -/
def putAll (times : RuleTimes) (timings : List RuleTiming) : RuleTimes :=
  timings.foldl (fun times timing => times.put timing.rule timing.elapsed) times

/-- The rules that had a time when another one was set, in the order of the timings. -/
def replaced : RuleTimes → List RuleTiming → List String
  | _, [] => []
  | times, timing :: rest =>
      let later := replaced (times.put timing.rule timing.elapsed) rest
      if (times.get? timing.rule).isSome then timing.rule :: later else later

section Latest

variable {times : RuleTimes} {timings : List RuleTiming}

theorem Ascending.putAll (ascending : times.Ascending) (timings : List RuleTiming) :
    (times.putAll timings).Ascending := by
  induction timings generalizing times with
  | nil => exact ascending
  | cons timing rest ih => exact ih (ascending.put _ _)

/-- A rule has the last time that was set, or the one that it had before. -/
theorem get?_putAll (times : RuleTimes) (timings : List RuleTiming) (rule : String) :
    (times.putAll timings).get? rule =
      (RuleTimes.get? timings.reverse rule).or (times.get? rule) := by
  induction timings generalizing times with
  | nil => rfl
  | cons timing rest ih =>
      have first : (times.putAll (timing :: rest)) =
          (times.put timing.rule timing.elapsed).putAll rest := rfl
      rw [first, ih, get?_put, List.reverse_cons]
      simp only [get?, List.find?_append, List.find?_singleton]
      cases List.find? (fun held : RuleTiming => held.rule = rule) rest.reverse with
      | some held => rfl
      | none => by_cases same : timing.rule = rule <;> simp [same]

theorem get?_reverse_eq_some_iff (timing : RuleTiming) :
    RuleTimes.get? timings.reverse timing.rule = some timing.elapsed ↔
      timing.IsLastIn timings := by
  constructor
  · intro found
    obtain ⟨last, isFound, same⟩ := Option.map_eq_some_iff.1 found
    obtain ⟨rule, after, before, split, others⟩ := List.find?_eq_some_iff_append.1 isFound
    have lastIs : last = timing := by
      obtain ⟨lastRule, lastElapsed⟩ := last
      obtain ⟨rule', elapsed⟩ := timing
      simp_all
    subst lastIs
    refine ⟨before.reverse, after.reverse, ?_, fun other member => ?_⟩
    · rw [← List.reverse_reverse timings, split]
      simp
    · simpa using others other (List.mem_reverse.1 member)
  · rintro ⟨before, after, rfl, others⟩
    have later : after.reverse.find? (fun held => held.rule = timing.rule) = none := by
      simpa using others
    simp [get?, later]

/-- Entries and replacements together are as many as the timings that were set. -/
theorem Ascending.length_putAll (ascending : times.Ascending) (timings : List RuleTiming) :
    (times.replaced timings).length + (times.putAll timings).length =
      times.length + timings.length := by
  induction timings generalizing times with
  | nil => exact Nat.zero_add _
  | cons timing rest ih =>
      have later := ih (ascending.put timing.rule timing.elapsed)
      rw [ascending.length_put] at later
      change _ + ((times.put timing.rule timing.elapsed).putAll rest).length = _
      rw [replaced]
      split <;> simp_all <;> omega

/-- Of a rule that is set some times, all times but the first replace one. -/
theorem count_replaced (times : RuleTimes) (timings : List RuleTiming) (rule : String) :
    (times.replaced timings).count rule =
      (timings.map RuleTiming.rule).count rule - if (times.get? rule).isSome then 0 else 1 := by
  induction timings generalizing times with
  | nil => exact (Nat.zero_sub _).symm
  | cons timing rest ih =>
      have later := ih (times.put timing.rule timing.elapsed)
      rw [get?_put] at later
      rw [replaced, List.map_cons]
      by_cases same : timing.rule = rule
      · subst same
        by_cases held : (times.get? timing.rule).isSome
        · simp [held, later]
        · simp [held, later]
      · have kept : (if timing.rule = rule then some timing.elapsed else times.get? rule) =
            times.get? rule := if_neg same
        rw [kept] at later
        rw [List.count_cons_of_ne same]
        split
        · rw [List.count_cons_of_ne same, later]
        · exact later

/-- There are as many times as there are rules among the timings that were set. -/
theorem length_putAll_nil (timings : List RuleTiming) :
    (RuleTimes.putAll [] timings).length = (timings.map RuleTiming.rule).toFinset.card := by
  have ascending : (RuleTimes.putAll [] timings).Ascending := Ascending.nil.putAll timings
  have sameRules : ((RuleTimes.putAll [] timings).map RuleTiming.rule).toFinset =
      (timings.map RuleTiming.rule).toFinset := by
    ext rule
    have missing (held : RuleTimes) : rule ∈ (held.map RuleTiming.rule).toFinset ↔
        held.get? rule ≠ none := by
      simp [get?_eq_none_iff]
    rw [missing, get?_putAll, missing timings]
    simp [get?]
  rw [← sameRules, List.toFinset_card_of_nodup ascending.nodup, List.length_map]

/-- Of times that are set, those are left that are the last of their rules. -/
theorem mem_putAll_nil (timings : List RuleTiming) (timing : RuleTiming) :
    timing ∈ RuleTimes.putAll [] timings ↔ timing.IsLastIn timings := by
  rw [(Ascending.nil.putAll timings).mem_iff_get?, get?_putAll, ← get?_reverse_eq_some_iff]
  simp [get?]

/-- Times in order are set as they are. -/
theorem Ascending.putAll_nil (ascending : times.Ascending) : RuleTimes.putAll [] times = times := by
  refine (Ascending.nil.putAll times).eq_of_mem_iff ascending fun timing => ?_
  rw [mem_putAll_nil]
  constructor
  · rintro ⟨before, after, rfl, -⟩
    simp
  · intro member
    obtain ⟨before, after, rfl⟩ := List.append_of_mem member
    refine ⟨before, after, rfl, fun other later same => ?_⟩
    have larger := (List.pairwise_cons.1 (List.pairwise_append.1 ascending).2.1).1 other later
    rw [same] at larger
    exact String.lt_irrefl _ larger

/-- Setting times in order replaces none. -/
theorem Ascending.replaced_nil (ascending : times.Ascending) :
    RuleTimes.replaced [] times = [] := by
  have lengths := Ascending.nil.length_putAll times
  rw [ascending.putAll_nil] at lengths
  exact List.eq_nil_of_length_eq_zero (by simpa using lengths)

end Latest
end RuleTimes

namespace MetricsRegistry

theorem add_zero (metrics : MetricsRegistry) (counter : Counter) :
    metrics.add counter 0 = metrics := by
  cases counter <;> simp [add, set, get]

theorem add_add (metrics : MetricsRegistry) (counter : Counter) (first second : UInt64) :
    (metrics.add counter first).add counter second = metrics.add counter (first + second) := by
  cases counter <;> simp [add, set, get, UInt64.add_assoc]

end MetricsRegistry

namespace Profile

open InWorld

/-- A profile has merged timings in their order. -/
structure Merged (profile : Profile) (timings : List RuleTiming) : Prop where
  ascending : profile.rules.Ascending
  /-- Each rule that was harvested is listed once, with its last time. -/
  latest : ∀ timing, timing ∈ profile.rules ↔ timing.IsLastIn timings
  /-- Every timing is the first of its rule, or replaced one. -/
  overwrites : profile.ruleOverwrites + (timings.map RuleTiming.rule).toFinset.card = timings.length

/-- The profile after a harvest. -/
def merge (profile : Profile) (timings : List RuleTiming) : Profile :=
  { profile with
    rules := profile.rules.putAll timings
    ruleOverwrites := profile.ruleOverwrites + (profile.rules.replaced timings).length }

/-- The record that is left of a replaced time. -/
def replacement (rule : String) : LogRecord :=
  ⟨.warn, "Value for rule " ++ rule ++ " was replaced."⟩

/-- The world after times of some rules were replaced. -/
def noteReplaced (world : World) (rules : List String) : World :=
  { world with
    log := world.log ++ rules.map replacement
    metrics := world.metrics.add .ruleOverwrites (UInt64.ofNat rules.length) }

theorem noteReplaced_nil (world : World) : noteReplaced world [] = world := by
  have same : world.metrics.add .ruleOverwrites (UInt64.ofNat 0) = world.metrics :=
    world.metrics.add_zero _
  rw [noteReplaced, List.map_nil, List.append_nil, List.length_nil, same]

theorem noteReplaced_cons (world : World) (rule : String) (rules : List String) :
    noteReplaced world (rule :: rules) = noteReplaced (noteReplaced world [rule]) rules := by
  have counts : (world.metrics.add .ruleOverwrites 1).add .ruleOverwrites
      (UInt64.ofNat rules.length) =
        world.metrics.add .ruleOverwrites (UInt64.ofNat (rules.length + 1)) := by
    rw [MetricsRegistry.add_add, UInt64.ofNat_add, UInt64.add_comm]
    rfl
  simp only [noteReplaced, List.map_cons, List.map_nil, List.append_assoc, List.singleton_append,
    List.length_cons, ← counts]
  rfl

/-- What a harvest makes of a profile and of the world. -/
theorem run_harvest (timings : List RuleTiming) (profile : Profile) (world : World) :
    (profile.harvest timings).run world =
      (profile.merge timings, noteReplaced world (profile.rules.replaced timings)) := by
  induction timings generalizing profile world with
  | nil => exact Prod.ext rfl (noteReplaced_nil world).symm
  | cons timing rest ih =>
      unfold harvest
      by_cases held : (profile.rules.get? timing.rule).isSome
      · have noted : ((profile.takeTiming timing).harvest rest).run
            (noteReplaced world [timing.rule]) = _ := ih _ _
        have lists : profile.rules.replaced (timing :: rest) =
            timing.rule :: (profile.takeTiming timing).rules.replaced rest := by
          rw [RuleTimes.replaced, if_pos held]
          rfl
        rw [if_pos held]
        refine Eq.trans noted (Prod.ext ?_ ?_)
        · simp [merge, takeTiming, held, lists, RuleTimes.putAll, Nat.add_comm 1, Nat.add_assoc]
        · rw [lists]
          exact (noteReplaced_cons world timing.rule _).symm
      · have lists : profile.rules.replaced (timing :: rest) =
            (profile.takeTiming timing).rules.replaced rest := by
          rw [RuleTimes.replaced, if_neg held]
          rfl
        rw [if_neg held]
        refine (ih _ _).trans (Prod.ext ?_ ?_)
        · simp [merge, takeTiming, held, lists, RuleTimes.putAll]
        · rw [lists]

/-- One harvest after the other is one of all timings. -/
theorem harvest_append (front rest : List RuleTiming) (profile : Profile) :
    profile.harvest (front ++ rest) =
      profile.harvest front >>= fun merged => merged.harvest rest := by
  induction front generalizing profile with
  | nil => rfl
  | cons timing front ih =>
      rw [List.cons_append, harvest, harvest]
      split
      · simp only [ih, bind_assoc]
      · exact ih _

/-- Merge the timings of engines one after the other, of those that measure them. -/
def endModules (profile : Profile) : List (Option (List RuleTiming)) → InWorld Profile
  | [] => return profile
  | harvest :: rest => do endModules (← profile.endModule harvest) rest

theorem endModules_eq (harvests : List (Option (List RuleTiming))) (profile : Profile) :
    profile.endModules harvests =
      profile.harvest (harvests.flatMap fun harvest => harvest.getD []) := by
  induction harvests generalizing profile with
  | nil => rfl
  | cons first rest ih =>
      rw [List.flatMap_cons, harvest_append, endModules]
      cases first with
      | none => exact ih profile
      | some timings => exact congrArg _ (funext ih)

/-- A profile that has merged nothing yet has merged what is harvested. -/
theorem merged_merge {profile : Profile} (noRules : profile.rules = [])
    (noOverwrites : profile.ruleOverwrites = 0) (timings : List RuleTiming) :
    (profile.merge timings).Merged timings := by
  rw [merge, noRules, noOverwrites]
  exact {
    ascending := RuleTimes.Ascending.nil.putAll timings
    latest := RuleTimes.mem_putAll_nil timings
    overwrites := by
      have lengths := RuleTimes.Ascending.nil.length_putAll timings
      rw [RuleTimes.length_putAll_nil, List.length_nil, Nat.zero_add] at lengths
      rw [Nat.zero_add]
      exact lengths }

/-- No more times are replaced than were harvested. -/
theorem Merged.ruleOverwrites_le {profile : Profile} {timings : List RuleTiming}
    (merged : profile.Merged timings) : profile.ruleOverwrites ≤ timings.length :=
  Nat.le.intro merged.overwrites

/-- The count of replacements does not leave 64 bits before that of timings does. -/
theorem Merged.toNat_ruleOverwrites {profile : Profile} {timings : List RuleTiming}
    (merged : profile.Merged timings) (few : timings.length < UInt64.size) :
    (UInt64.ofNat profile.ruleOverwrites).toNat = profile.ruleOverwrites :=
  UInt64.toNat_ofNat_of_lt' (merged.ruleOverwrites_le.trans_lt few)

/-- Harvests merge to the last timing of each rule, listed once in ascending order of the rules. In
the world they leave a warning for every time of a rule but the first, and nothing but these
warnings and their count; the profile and the metrics have counted as many.

A timer lists the total of each rule that it was told of, in ascending order, whatever the order of
its records; a harvest of it makes a fresh profile list the same, and nothing is replaced. -/
theorem harvests_merge (host : HostMetadata) (harvests : List (Option (List RuleTiming)))
    (world : World) :
    let timings := harvests.flatMap fun harvest => harvest.getD []
    let harvested := ((new host).endModules harvests).run world
    (harvested.1.Merged timings ∧ ∃ warned : List String,
      (∀ rule, warned.count rule = (timings.map RuleTiming.rule).count rule - 1) ∧
      warned.length = harvested.1.ruleOverwrites ∧
      harvested.2 = { world with
        log := world.log ++ warned.map replacement
        metrics := world.metrics.add .ruleOverwrites
          (UInt64.ofNat harvested.1.ruleOverwrites) }) ∧
    ∀ calls : List TimerCall,
      let timer := RuleTimer.new.takeAll calls
      let records := RuleTimer.booked calls
      RuleTimes.Ascending timer.timings ∧
      (∀ timing, timing ∈ timer.timings ↔ timing.rule ∈ records.map RuleTiming.rule ∧
        timing.elapsed = RuleTimes.total records timing.rule) ∧
      (∀ order : List RuleTiming, order.Perm records →
        (RuleTimer.new.takeAll (order.map .record)).timings = timer.timings) ∧
      let once := ((new host).endModule (some timer.timings)).run world
      once.1.rules = timer.timings ∧ once.1.ruleOverwrites = 0 ∧ once.2 = world := by
  intro timings harvested
  refine ⟨?_, fun calls => ?_⟩
  · have came : harvested = ((new host).merge timings,
        noteReplaced world (RuleTimes.replaced [] timings)) := by
      change ((new host).endModules harvests).run world = _
      rw [endModules_eq, run_harvest]
      rfl
    have overwrites : harvested.1.ruleOverwrites = (RuleTimes.replaced [] timings).length := by
      rw [came]
      exact Nat.zero_add _
    refine ⟨?_, RuleTimes.replaced [] timings, fun rule => ?_, overwrites.symm, ?_⟩
    · rw [came]
      exact merged_merge rfl rfl timings
    · exact RuleTimes.count_replaced [] timings rule
    · rw [overwrites, came]
      rfl
  · intro timer records
    have totals : RuleTimes.Totals timer.timings records := RuleTimer.totals_takeAll calls
    refine ⟨totals.ascending, totals.mem_iff, fun order perm => ?_, ?_⟩
    · have alone := RuleTimer.totals_takeAll (order.map .record)
      rw [RuleTimer.booked_records] at alone
      exact alone.eq_of_perm totals perm
    · intro once
      have came : once = ((new host).merge timer.timings,
          noteReplaced world (RuleTimes.replaced [] timer.timings)) :=
        run_harvest timer.timings (new host) world
      have nothing := totals.ascending.replaced_nil
      rw [came]
      refine ⟨totals.ascending.putAll_nil, ?_, ?_⟩
      · exact (Nat.zero_add _).trans (congrArg List.length nothing)
      · rw [nothing, noteReplaced_nil]

end Profile
end StagedScript
