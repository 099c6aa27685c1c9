import Mathlib.Algebra.GroupWithZero.Nat
import Mathlib.Data.List.Nodup
import StagedScript.Profile.RuleTimer

/-!
# What a timer adds up

Times of rules are kept in ascending order of the rules, so that what they say of each rule
determines them. A timer keeps the total of each rule that it was told of. What it is told is
listed by `RuleTimer.booked`: its records, the spans between starts and stops, and nothing from
before the last reset.

**Results.** The times of a timer are the totals of what it was told (`RuleTimer.totals_takeAll`),
and totals do not depend on the order of the records (`RuleTimes.Totals.eq_of_perm`).
-/

namespace StagedScript

namespace RuleTimes

/-- Every rule stands before those that come after it in the order of texts. -/
def Ascending (times : RuleTimes) : Prop :=
  times.Pairwise fun first second => first.rule < second.rule

theorem get?_cons (held : RuleTiming) (times : RuleTimes) (rule : String) :
    RuleTimes.get? (held :: times) rule =
      if held.rule = rule then some held.elapsed else times.get? rule := by
  rw [get?, List.find?_cons]
  by_cases same : held.rule = rule <;> simp [same, get?]

theorem get?_eq_none_iff {times : RuleTimes} {rule : String} :
    times.get? rule = none ↔ ∀ timing ∈ times, timing.rule ≠ rule := by
  simp [get?]

/-- Setting the time of a rule adds no other rule. -/
theorem mem_put {rule : String} {elapsed : Nanoseconds} {times : RuleTimes} {timing : RuleTiming}
    (member : timing ∈ times.put rule elapsed) : timing = ⟨rule, elapsed⟩ ∨ timing ∈ times := by
  induction times with
  | nil => exact .inl (List.mem_singleton.1 member)
  | cons held rest ih =>
      rw [put] at member
      split at member
      next =>
        rcases List.mem_cons.1 member with new | old
        · exact .inl new
        · exact .inr (List.mem_cons_of_mem held old)
      next =>
        split at member
        next => exact List.mem_cons.1 member
        next =>
          rcases List.mem_cons.1 member with rfl | later
          · exact .inr List.mem_cons_self
          · exact (ih later).imp_right (List.mem_cons_of_mem held)

namespace Ascending

variable {times : RuleTimes}

theorem nil : Ascending [] :=
  List.Pairwise.nil

/-- Setting the time of a rule keeps the order. -/
theorem put (ascending : times.Ascending) (rule : String) (elapsed : Nanoseconds) :
    (times.put rule elapsed).Ascending := by
  induction times with
  | nil => exact List.pairwise_singleton _ _
  | cons held rest ih =>
      obtain ⟨first, others⟩ := List.pairwise_cons.1 ascending
      rw [RuleTimes.put]
      split
      next same =>
        subst same
        exact List.pairwise_cons.2 ⟨first, others⟩
      next other =>
        split
        next before =>
          refine List.pairwise_cons.2 ⟨fun timing member => ?_, ascending⟩
          rcases List.mem_cons.1 member with rfl | later
          · exact before
          · exact String.lt_trans before (first timing later)
        next notBefore =>
          refine List.pairwise_cons.2 ⟨fun timing member => ?_, ih others⟩
          rcases mem_put member with rfl | later
          · exact Std.lt_of_le_of_ne (String.not_lt.1 notBefore) (Ne.symm other)
          · exact first timing later

/-- In order, every rule is listed once. -/
theorem nodup (ascending : times.Ascending) : (times.map RuleTiming.rule).Nodup := by
  refine List.pairwise_map.2 (List.Pairwise.imp (fun before same => ?_) ascending)
  rw [same] at before
  exact String.lt_irrefl _ before

/-- In order, the times of rules are the answers for the rules. -/
theorem mem_iff_get? (ascending : times.Ascending) (timing : RuleTiming) :
    timing ∈ times ↔ times.get? timing.rule = some timing.elapsed := by
  induction times with
  | nil => simp [get?]
  | cons held rest ih =>
      obtain ⟨first, others⟩ := List.pairwise_cons.1 ascending
      rw [get?_cons, List.mem_cons, ih others]
      by_cases same : held.rule = timing.rule
      · have missing : RuleTimes.get? rest timing.rule = none :=
          get?_eq_none_iff.2 fun other member twice =>
            String.lt_irrefl timing.rule (by simpa [same, twice] using first other member)
        rw [if_pos same, missing]
        obtain ⟨heldRule, heldElapsed⟩ := held
        obtain ⟨rule, elapsed⟩ := timing
        cases same
        simp [eq_comm]
      · have apart : timing ≠ held := fun equal => same (congrArg RuleTiming.rule equal.symm)
        rw [if_neg same]
        simp [apart]

/-- Times in order are determined by their entries. -/
theorem eq_of_mem_iff {other : RuleTimes} (ascending : times.Ascending) (too : other.Ascending)
    (same : ∀ timing, timing ∈ times ↔ timing ∈ other) : times = other := by
  have perm : times.Perm other :=
    (List.perm_ext_iff_of_nodup (ascending.nodup.of_map _) (too.nodup.of_map _)).2 same
  refine perm.eq_of_pairwise (fun first second _ _ before after => ?_) ascending too
  exact absurd after (String.lt_asymm before)

/-- Setting the time of a rule makes one more entry, unless the rule has a time. -/
theorem length_put (ascending : times.Ascending) (rule : String) (elapsed : Nanoseconds) :
    (times.put rule elapsed).length =
      times.length + if (times.get? rule).isSome then 0 else 1 := by
  induction times with
  | nil => rfl
  | cons held rest ih =>
      obtain ⟨first, others⟩ := List.pairwise_cons.1 ascending
      rw [RuleTimes.put, get?_cons]
      by_cases same : rule = held.rule
      · simp [same]
      · rw [if_neg same, if_neg (Ne.symm same)]
        by_cases before : rule < held.rule
        · have missing : RuleTimes.get? rest rule = none :=
            get?_eq_none_iff.2 fun other member same =>
              String.lt_asymm before (same ▸ first other member)
          simp [before, missing]
        · rw [if_neg before, List.length_cons, List.length_cons, ih others]
          omega

end Ascending

/-- The time that records give to a rule, all together. -/
def total (records : List RuleTiming) (rule : String) : Nanoseconds :=
  ((records.filter fun record => record.rule = rule).map RuleTiming.elapsed).sum

/-- Times of rules are the totals of records. -/
structure Totals (times : RuleTimes) (records : List RuleTiming) : Prop where
  ascending : times.Ascending
  get? : ∀ rule, times.get? rule =
    if rule ∈ records.map RuleTiming.rule then some (total records rule) else none

namespace Totals

variable {times other : RuleTimes} {records more : List RuleTiming}

theorem nil : Totals [] [] where
  ascending := .nil
  get? _ := rfl

theorem getD_get? (totals : times.Totals records) (rule : String) :
    (times.get? rule).getD 0 = total records rule := by
  rw [totals.get?]
  split
  next => rfl
  next missing =>
    have none : records.filter (fun record => record.rule = rule) = [] :=
      List.filter_eq_nil_iff.2 fun record member => by
        simpa using fun same => missing (List.mem_map.2 ⟨record, member, same⟩)
    rw [total, none]
    rfl

/-- Adding a record to the time of its rule makes totals of one record more. -/
theorem record (totals : times.Totals records) (timing : RuleTiming) :
    (times.put timing.rule ((times.get? timing.rule).getD 0 + timing.elapsed)).Totals
      (records ++ [timing]) where
  ascending := totals.ascending.put _ _
  get? rule := by
    rw [get?_put, totals.getD_get?, totals.get?]
    by_cases same : timing.rule = rule
    · simp [same, total]
    · simp [same, total, Ne.symm same]

theorem mem_iff (totals : times.Totals records) (timing : RuleTiming) :
    timing ∈ times ↔
      timing.rule ∈ records.map RuleTiming.rule ∧ timing.elapsed = total records timing.rule := by
  rw [totals.ascending.mem_iff_get?, totals.get?]
  split
  next found => simp [found, eq_comm]
  next missing => simp [missing]

/-- Records in another order have the same totals. -/
theorem eq_of_perm (totals : times.Totals records) (too : other.Totals more)
    (perm : records.Perm more) : times = other := by
  refine totals.ascending.eq_of_mem_iff too.ascending fun timing => ?_
  have same : total records timing.rule = total more timing.rule :=
    ((perm.filter _).map RuleTiming.elapsed).sum_nat
  rw [totals.mem_iff, too.mem_iff, same, (perm.map RuleTiming.rule).mem_iff]

end Totals
end RuleTimes

/-- What a timer is told. -/
inductive TimerCall where
  | record (timing : RuleTiming)
  | start (rule : String) (now : Nanoseconds)
  | stop (rule : String) (now : Nanoseconds)
  | reset

namespace RuleTimer

def take (timer : RuleTimer) : TimerCall → RuleTimer
  | .record timing => timer.record timing.rule timing.elapsed
  | .start rule now => timer.start rule now
  | .stop rule now => timer.stop rule now
  | .reset => timer.reset

def takeAll (timer : RuleTimer) (calls : List TimerCall) : RuleTimer :=
  calls.foldl take timer

/-- What is booked after a call: what was booked before and the time that the call adds to a rule,
or nothing after a reset. -/
def book (timer : RuleTimer) (booked : List RuleTiming) : TimerCall → List RuleTiming
  | .record timing => booked ++ [timing]
  | .start _ _ => booked
  | .stop rule now =>
      match List.lookup rule timer.running with
      | none => booked
      | some started => booked ++ [⟨rule, now - started⟩]
  | .reset => []

/-- What is booked after some calls, on top of what was booked before. -/
def bookedAfter : RuleTimer → List RuleTiming → List TimerCall → List RuleTiming
  | _, booked, [] => booked
  | timer, booked, call :: rest => bookedAfter (timer.take call) (timer.book booked call) rest

/-- What a new timer is told in some calls. -/
def booked (calls : List TimerCall) : List RuleTiming :=
  bookedAfter new [] calls

/-- Records alone are booked as they are. -/
theorem booked_records (records : List RuleTiming) :
    booked (records.map TimerCall.record) = records := by
  suffices general : ∀ (timer : RuleTimer) (earlier : List RuleTiming),
      bookedAfter timer earlier (records.map TimerCall.record) = earlier ++ records from
    general new []
  induction records with
  | nil => exact fun timer earlier => (List.append_nil earlier).symm
  | cons record rest ih =>
      intro timer earlier
      rw [List.map_cons, bookedAfter, ih, book, List.append_assoc, List.singleton_append]

/-- A call keeps the times the totals of what is booked. -/
theorem totals_take {timer : RuleTimer} {booked : List RuleTiming}
    (totals : timer.times.Totals booked) (call : TimerCall) :
    (timer.take call).times.Totals (timer.book booked call) := by
  cases call with
  | record timing => exact totals.record timing
  | start rule now => exact totals
  | stop rule now =>
      change (timer.stop rule now).times.Totals (timer.book booked (.stop rule now))
      rw [stop, book]
      cases List.lookup rule timer.running with
      | none => exact totals
      | some started => exact totals.record ⟨rule, now - started⟩
  | reset => exact .nil

/-- The times of a timer are the totals of what it was told. -/
theorem totals_takeAll (calls : List TimerCall) :
    (new.takeAll calls).times.Totals (booked calls) := by
  suffices general : ∀ (timer : RuleTimer) (earlier : List RuleTiming),
      timer.times.Totals earlier →
      (timer.takeAll calls).times.Totals (bookedAfter timer earlier calls) from
    general new [] .nil
  induction calls with
  | nil => exact fun timer earlier totals => totals
  | cons call rest ih => exact fun timer earlier totals => ih _ _ (totals_take totals call)

end RuleTimer
end StagedScript
