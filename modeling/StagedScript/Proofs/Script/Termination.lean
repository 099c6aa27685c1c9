import StagedScript.Proofs.Script.Adequacy

/-!
# Programs without loops come to an end

Operations may call each other and themselves without restriction, but only so many calls may be
active at once. So a program can go on for ever in a loop only: the interpreter, which nothing cuts
off, halts on programs without loops, and whatever the program, it never has more than
`maxCallDepth` active calls.

**Results.** Both are shown of running a program and of calling one of its operations, together with
the agreement of the engine and the interpreter (`ScriptEngine.evaluations_bounded`). An interpreter
halts if and only if the evaluation ends within some number of turns, and in the same way
(`Interpreter.ends_ofScript_iff`, `Interpreter.ends_ofOperation_iff`).
-/

namespace StagedScript
namespace Script
namespace Interpreter

variable {setting : Setting} {state : Interpreter} {ran : Except EngineError Value × Scratch}

theorem step_halted (ran : Except EngineError Value × Scratch) :
    step setting (halted ran) = none := by
  obtain ⟨error | value, after⟩ := ran
  · rfl
  · rfl

theorem halted_inj {other : Except EngineError Value × Scratch} (same : halted ran = halted other) :
    ran = other := by
  obtain ⟨error | value, after⟩ := ran <;> obtain ⟨error' | value', after'⟩ := other <;>
    cases same <;> rfl

theorem Steps.unique {n : Nat} {later other : Interpreter} (steps : Steps setting n state later)
    (others : Steps setting n state other) : later = other := by
  induction steps with
  | zero =>
      cases others
      rfl
  | succ stepped _ ih =>
      cases others with
      | succ steppedToo others =>
          obtain rfl := Option.some.inj (stepped.symm.trans steppedToo)
          exact ih others

/-- No run is longer than one that has halted. -/
theorem Steps.le_of_halted {m n : Nat} {later last : Interpreter}
    (steps : Steps setting m state later) (halts : Steps setting n state last)
    (halted : step setting last = none) : m ≤ n := by
  induction steps generalizing n with
  | zero => exact Nat.zero_le n
  | succ stepped _ ih =>
      cases halts with
      | zero => exact nomatch halted.symm.trans stepped
      | succ steppedToo halts =>
          obtain rfl := Option.some.inj (stepped.symm.trans steppedToo)
          exact Nat.succ_le_succ (ih halts)

/-- An interpreter halts with a value or an error after a number of steps, and can take no more. -/
def Ends (setting : Setting) (state : Interpreter) (ran : Except EngineError Value × Scratch) :
    Prop :=
  ∃ n, Steps setting n state (halted ran) ∧ ∀ m later, Steps setting m state later → m ≤ n

theorem ends_of_reaches (reaches : Reaches setting state (halted ran)) :
    Ends setting state ran := by
  obtain ⟨n, steps⟩ := reaches
  exact ⟨n, steps, fun m later more => more.le_of_halted steps (step_halted ran)⟩

theorem Ends.unique {other : Except EngineError Value × Scratch} (ends : Ends setting state ran)
    (others : Ends setting state other) : ran = other := by
  obtain ⟨m, steps, longest⟩ := ends
  obtain ⟨n, more, longestToo⟩ := others
  obtain rfl : m = n := Nat.le_antisymm (longestToo m _ steps) (longest n _ more)
  exact halted_inj (steps.unique more)

/-- An interpreter that ends does not last. -/
theorem Ends.exists_not_lasts (ends : Ends setting state ran) :
    ∃ n, ¬Lasts setting n state := by
  obtain ⟨n, -, longest⟩ := ends
  refine ⟨n + 1, fun ⟨later, steps⟩ => ?_⟩
  exact Nat.not_succ_le_self n (longest (n + 1) later steps)

section Follows

variable {looping : Prop} {limit : Nat}

theorem Follows.ends_of_ne (follows : Follows setting looping limit Focus.value .done 0 state ran)
    (ended : ran.1 ≠ .error .unfinished) : Ends setting state ran := by
  cases follows with
  | ends _ reaches => exact ends_of_reaches reaches
  | lasts => exact absurd rfl ended

theorem Follows.lasts_of_eq (follows : Follows setting looping limit Focus.value .done 0 state ran)
    (cutOff : ran.1 = .error .unfinished) : Lasts setting limit state := by
  cases follows with
  | ends ended => exact absurd cutOff ended
  | lasts _ lasts => exact lasts

theorem Follows.ne_of_not (follows : Follows setting looping limit Focus.value .done 0 state ran)
    (free : ¬looping) : ran.1 ≠ .error .unfinished := by
  cases follows with
  | ends ended => exact ended
  | lasts mayLoop => exact absurd mayLoop free

end Follows

/-! ## Turns -/

/-- The interpreter pays no heed to the turns of a setting. -/
theorem step_turns (turns : Nat) (state : Interpreter) :
    step { setting with turns := turns } state = step setting state := by
  obtain ⟨focus, pending, depth, scratch⟩ := state
  cases focus with
  | arguments name done rest => cases rest <;> rfl
  | block body => cases body <;> rfl
  | failed error => rw [step, step]
  | _ => rfl

theorem Steps.turns {n : Nat} {later : Interpreter} (turns : Nat)
    (steps : Steps setting n state later) :
    Steps { setting with turns := turns } n state later := by
  induction steps with
  | zero state => exact .zero state
  | succ stepped _ ih => exact .succ ((step_turns turns _).trans stepped) ih

theorem Ends.turns (turns : Nat) (ends : Ends setting state ran) :
    Ends { setting with turns := turns } state ran := by
  obtain ⟨n, steps, _⟩ := ends
  exact ends_of_reaches ⟨n, steps.turns turns⟩

/-- An interpreter that follows an evaluation for every number of turns ends as it does, once there
are turns enough. -/
theorem ends_iff_of_follows {run : Nat → Except EngineError Value × Scratch}
    (follows : ∀ turns, Follows { setting with turns := turns } True turns Focus.value .done 0
      state (run turns)) :
    Ends setting state ran ↔ ∃ turns, run turns = ran ∧ ran.1 ≠ .error .unfinished := by
  constructor
  · intro ends
    obtain ⟨turns, notLasting⟩ := ends.exists_not_lasts
    have ended : (run turns).1 ≠ .error .unfinished := by
      intro cutOff
      obtain ⟨later, steps⟩ := (follows turns).lasts_of_eq cutOff
      exact notLasting ⟨later, steps.turns setting.turns⟩
    have same : run turns = ran := ((follows turns).ends_of_ne ended).unique (ends.turns turns)
    exact ⟨turns, same, same ▸ ended⟩
  · rintro ⟨turns, rfl, ended⟩
    exact ((follows turns).ends_of_ne ended).turns setting.turns

/-- An interpreter that runs a program ends as the evaluation does, once there are turns enough. -/
theorem ends_ofScript_iff (setting : Setting) (scratch : Scratch) :
    Ends setting (ofScript setting scratch) ran ↔
      ∃ turns, (Eval.script { setting with turns := turns }).run.run scratch = ran ∧
        ran.1 ≠ .error .unfinished :=
  ends_iff_of_follows fun _ => follows_script (.inl trivial) scratch

/-- An interpreter that calls an operation ends as the evaluation does, once there are turns
enough. -/
theorem ends_ofOperation_iff (setting : Setting) (name : String) (arguments : List Value)
    (scratch : Scratch) :
    Ends setting (ofOperation setting name arguments scratch) ran ↔
      ∃ turns, (Eval.operation { setting with turns := turns } name arguments).run.run scratch =
        ran ∧ ran.1 ≠ .error .unfinished :=
  ends_iff_of_follows fun _ => follows_operation (.inl trivial) name arguments scratch

end Interpreter
end Script

namespace ScriptEngine

open Script Interpreter

/-- An evaluation of an engine is what an interpreter does, and keeps within bounds. -/
structure Bounded (engine : ScriptEngine) (program : Program) (resources : Resources)
    (state : Interpreter) (action : Act ScriptEngine (EngineResult Value)) : Prop where
  /-- The interpreter halts with the answer of the engine, unless the evaluation was cut off. -/
  ends :
    let ran := Act.apply action (engine, resources)
    ran.1 ≠ .error .unfinished →
      Ends (engine.setting program resources.models) state (ran.1, ran.2.1.scratch ran.2.2)
  /-- Where the evaluation was cut off, the interpreter goes on. -/
  lasts :
    (Act.apply action (engine, resources)).1 = .error .unfinished →
      Lasts (engine.setting program resources.models) engine.turns state
  /-- If no loop occurs in the program, the evaluation is not cut off. -/
  loopFree :
    program.loopFree = true → (Act.apply action (engine, resources)).1 ≠ .error .unfinished
  /-- Whatever the program, the count of the interpreter is always the number of active calls, and
  within its bound. -/
  counted : ∀ later, Reaches (engine.setting program resources.models) state later →
    later.depth = later.pending.calls ∧ later.pending.calls ≤ maxCallDepth

theorem bounded_evaluate {engine : ScriptEngine} {program : Program} {resources : Resources}
    {state : Interpreter} {body : Setting → Eval Value} (parsed : engine.program = some program)
    (counted : state.Counted)
    (follows : ∀ looping, looping ∨ program.loopFree = true →
      Follows (engine.setting program resources.models) looping engine.turns Focus.value .done 0
        state ((body (engine.setting program resources.models)).run.run
          (engine.scratch resources))) :
    engine.Bounded program resources state (evaluate body) := by
  have evaluated := apply_evaluate_some parsed body resources
  have always := follows True (.inl trivial)
  refine ⟨?_, ?_, fun free => ?_, fun later reaches => ?_⟩
  · rw [evaluated]
    exact always.ends_of_ne
  · rw [evaluated]
    exact always.lasts_of_eq
  · rw [evaluated]
    exact (follows False (.inr free)).ne_of_not not_false
  · obtain ⟨exact, bounded⟩ := counted_of_reaches counted reaches
    exact ⟨exact, exact ▸ bounded⟩

/-- Running a program and calling one of its operations come to an end unless a loop occurs in the
program, in an operation or at top level, however operations call each other; and whatever the
program, no more than `maxCallDepth` calls are ever active at once. -/
theorem evaluations_bounded {engine : ScriptEngine} {program : Program}
    (parsed : engine.program = some program) (resources : Resources) :
    let setting := engine.setting program resources.models
    let scratch := engine.scratch resources
    engine.Bounded program resources (ofScript setting scratch) execute ∧
      ∀ name arguments,
        engine.Bounded program resources (ofOperation setting name arguments scratch)
          (invokeOperation name arguments) := by
  intro setting scratch
  constructor
  · exact bounded_evaluate parsed (counted_ofScript scratch) fun looping free =>
      follows_script free scratch
  · intro name arguments
    exact bounded_evaluate parsed (counted_ofOperation name arguments scratch) fun looping free =>
      follows_operation free name arguments scratch

/-- The program `operation down(n) { return down(n - 1); } return down(1);` comes to an end without
a turn of a loop. -/
theorem evaluations_bounded_down :
    let down : Operation :=
      ⟨"down", ["n"], [.ret (some (.call "down" [.binary .sub (.name "n") (.integer 1)]))]⟩
    let program : Program := ⟨[down], [.ret (some (.call "down" [.integer 1]))]⟩
    let engine := { ScriptEngine.new 0 with program := some program }
    let setting := engine.setting program Resources.initial.models
    let start := ofScript setting (engine.scratch Resources.initial)
    (Act.apply execute (engine, Resources.initial)).1 ≠ .error .unfinished ∧
      (∃ ran, Ends setting start ran) ∧
      ∀ later, Reaches setting start later → later.pending.calls ≤ maxCallDepth := by
  intro down program engine setting start
  have parsed : engine.program = some program := rfl
  have bounded := (evaluations_bounded parsed Resources.initial).1
  have free : program.loopFree = true := rfl
  have ended := bounded.loopFree free
  exact ⟨ended, ⟨_, bounded.ends ended⟩, fun later reaches => (bounded.counted later reaches).2⟩

end ScriptEngine
end StagedScript
