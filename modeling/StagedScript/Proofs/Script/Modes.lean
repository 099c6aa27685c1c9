import StagedScript.Proofs.Script.EmptyScopes
import StagedScript.Proofs.Script.Runner
import StagedScript.Proofs.Script.Termination

/-!
# The modes of the script language

An operation is called in a mode of its own, or by a program whose only statement returns the call.
The program runs in a scope that stays empty, and so the call does the same in both: it counts as
the first active one, and what it reads, changes and prints is the same.

**Results.** Calling an operation with the values of literals is the evaluation of the program that
returns the call (`Eval.script_stating`), the one comes to an end if and only if the other does
(`Interpreter.ends_stating_iff`), and an executor does the same in both modes
(`ScriptRunner.modes_agree`).
-/

namespace StagedScript
namespace Script

/-- Literals and their values. A number may have a sign in front. -/
inductive Expr.IsLiteral : Expr → Value → Prop
  | null : IsLiteral .null .null
  | boolean (value : Bool) : IsLiteral (.boolean value) (.boolean value)
  | integer (value : Int64) : IsLiteral (.integer value) (.integer value)
  | real (value : Float) : IsLiteral (.real value) (.real value)
  | text (value : String) : IsLiteral (.text value) (.text value)
  | neg {e : Expr} {value negated : Value} :
      IsLiteral e value → unaryOp .neg value = .ok negated → IsLiteral (.unary .neg e) negated

namespace Eval

variable {setting : Setting} {invoke : Invoke}

theorem expr_literal {e : Expr} {value : Value} (literal : e.IsLiteral value) :
    expr setting invoke e = pure value := by
  induction literal with
  | null => rw [expr]
  | boolean value => rw [expr]
  | integer value => rw [expr]
  | real value => rw [expr]
  | text value => rw [expr]
  | neg _ negates ih =>
      rw [expr, ih, pure_bind, negates]
      rfl

theorem exprs_literals {es : List Expr} {values : List Value}
    (literals : List.Forall₂ Expr.IsLiteral es values) :
    exprs setting invoke es = pure values := by
  induction literals with
  | nil => rw [exprs]
  | cons literal _ ih => rw [exprs, expr_literal literal, pure_bind, ih, pure_bind]

/-- A block that returns a call leaves with what the call comes to. -/
theorem block_return_call {name : String} {op : Operation} {es : List Expr} {values : List Value}
    (declared : setting.program.operation? name = some op)
    (literals : List.Forall₂ Expr.IsLiteral es values) :
    block setting invoke [.ret (some (.call name es))] =
      invoke op values >>= fun value => pure (.returned value) := by
  have called : call setting invoke name values = invoke op values := by
    rw [call, declared]
  rw [block, stmt, expr, exprs_literals literals, pure_bind, called, bind_assoc]
  simp only [pure_bind]

/-- To call an operation is to run the program that returns the call. -/
theorem script_stating {name : String} {es : List Expr} {values : List Value}
    (declared : (setting.program.operation? name).isSome = true)
    (literals : List.Forall₂ Expr.IsLiteral es values) :
    script (setting.stating [.ret (some (.call name es))]) = operation setting name values := by
  obtain ⟨op, found⟩ := Option.isSome_iff_exists.1 declared
  let body := Stmt.ret (some (.call name es))
  have called : operation setting name values = Eval.invoke setting maxCallDepth op values := by
    rw [operation, found]
  have returns : block (setting.stating [body]) (Eval.invoke (setting.stating [body]) maxCallDepth)
      [body] = Eval.invoke (setting.stating [body]) maxCallDepth op values >>=
        fun value => pure (.returned value) :=
    block_return_call found literals
  funext before
  change (script (setting.stating [body])).run.run before =
    (operation setting name values).run.run before
  have padded : (Eval.invoke (setting.stating [body]) maxCallDepth op values).run.run
      { before with frames := before.frames.enterLocal } = _ :=
    (pads_invoke setting [body] maxCallDepth 0 op values before (Nat.zero_le _)).2
  have stated : (setting.stating [body]).program.statements = [body] := rfl
  rw [called, script, run_bind, run_inScope, stated, returns, run_bind, padded]
  rcases (Eval.invoke setting maxCallDepth op values).run.run before with ⟨error | value, after⟩
  · rfl
  · rfl

end Eval

/-- Without a limit on turns, the one comes to an end if and only if the other does. -/
theorem Interpreter.ends_stating_iff {setting : Setting} {name : String} {es : List Expr}
    {values : List Value} (declared : (setting.program.operation? name).isSome = true)
    (literals : List.Forall₂ Expr.IsLiteral es values) (scratch : Scratch)
    (ran : Except EngineError Value × Scratch) :
    let returning := setting.stating [.ret (some (.call name es))]
    Ends returning (ofScript returning scratch) ran ↔
      Ends setting (ofOperation setting name values scratch) ran := by
  intro returning
  rw [ends_ofScript_iff, ends_ofOperation_iff]
  refine exists_congr fun turns => ?_
  have same : Eval.script (Setting.stating { setting with turns := turns }
      [.ret (some (.call name es))]) =
      Eval.operation { setting with turns := turns } name values :=
    Eval.script_stating declared literals
  rw [← same]
  rfl

end Script

/-- An engine executes a program that returns a call as it invokes the operation. -/
theorem ScriptEngine.apply_execute_stating {engine : ScriptEngine} {program : Script.Program}
    {name : String} {es : List Script.Expr} {values : List Value}
    (parsed : engine.program = some program)
    (declared : (program.operation? name).isSome = true)
    (literals : List.Forall₂ Script.Expr.IsLiteral es values) (resources : Resources) :
    let caller : Script.Program := ⟨program.operations, [.ret (some (.call name es))]⟩
    let invoked := Act.apply (invokeOperation name values) (engine, resources)
    Act.apply execute ({ engine with program := some caller }, resources) =
      (invoked.1, { invoked.2.1 with program := some caller }, invoked.2.2) := by
  intro caller invoked
  have executes : Act.apply execute ({ engine with program := some caller }, resources) = _ :=
    apply_evaluate_some rfl Script.Eval.script resources
  have invokes : invoked = _ :=
    apply_evaluate_some parsed (fun setting => Script.Eval.operation setting name values) resources
  have same : Script.Eval.script ((engine.setting program resources.models).stating
      [.ret (some (.call name es))]) =
      Script.Eval.operation (engine.setting program resources.models) name values :=
    Script.Eval.script_stating declared literals
  rw [executes, invokes, ← same]
  rfl

namespace ScriptRunner

open Script

/-- What an action of the module comes to, for the runner. -/
theorem apply_toScript_onModule (action : Act ScriptEngine (EngineResult Value))
    (runner : ScriptRunner ScriptEngine) (resources : Resources) :
    Act.apply (EngineResult.toScript <$> onModule action) (runner, resources) =
      let ran := Act.apply action (runner.module, resources)
      (ran.1.toScript, { runner with module := ran.2.1 }, ran.2.2) :=
  rfl

/-- An operation that a program declares does the same whether it is called in a mode of its own or
by a program with the same operations whose one statement returns the call: it comes to the same
value or error, with the same resources, in particular what sinks received, and in the same
context, for every number of turns that loops may take. Without a limit on turns one of the two
comes to an end if and only if the other does, and in the same way. -/
theorem modes_agree {engine : ScriptEngine} {program : Program} {name : String} {es : List Expr}
    {values : List Value} (parsed : engine.program = some program)
    (declared : (program.operation? name).isSome = true)
    (literals : List.Forall₂ Expr.IsLiteral es values) (resources : Resources) :
    let caller : Program := ⟨program.operations, [.ret (some (.call name es))]⟩
    let called := Act.apply LanguageExecutor.script.execute
      (ScriptRunner.mk engine (.operation (some name) values), resources)
    let run := Act.apply LanguageExecutor.script.execute
      (ScriptRunner.mk { engine with program := some caller } .script, resources)
    let calledSetting := engine.setting program resources.models
    let runSetting := engine.setting caller resources.models
    let before := engine.scratch resources
    run.1 = called.1 ∧ run.2.2 = called.2.2 ∧
      run.2.1.module.context = called.2.1.module.context ∧
      ∀ ran, Interpreter.Ends runSetting (.ofScript runSetting before) ran ↔
        Interpreter.Ends calledSetting (.ofOperation calledSetting name values before) ran := by
  intro caller called run calledSetting runSetting before
  have has : ScriptModule.hasOperation engine name = true := by
    change engine.hasOperation name = true
    rw [ScriptEngine.hasOperation, parsed]
    exact declared
  have called_eq : called = Act.apply (EngineResult.toScript <$>
      onModule (ScriptModule.invokeOperation name values))
      (ScriptRunner.mk engine (.operation (some name) values), resources) := by
    refine (apply_execute_operation rfl).trans ?_
    exact if_pos has
  have run_eq : run = Act.apply (EngineResult.toScript <$> onModule ScriptModule.execute)
      (ScriptRunner.mk { engine with program := some caller } .script, resources) :=
    apply_execute_script rfl
  have alike := ScriptEngine.apply_execute_stating parsed declared literals resources
  rw [called_eq, run_eq, apply_toScript_onModule, apply_toScript_onModule]
  refine ⟨?_, ?_, ?_, fun ran => ?_⟩
  · exact congrArg (fun ran => EngineResult.toScript ran.1) alike
  · exact congrArg (fun ran => ran.2.2) alike
  · exact congrArg (fun ran => ran.2.1.context) alike
  · have inSetting : (calledSetting.program.operation? name).isSome = true := declared
    exact Interpreter.ends_stating_iff inSetting literals before ran

/-- The program `operation down(n) { return down(n - 1); }` is called with minus one. -/
theorem modes_agree_down :
    let program : Program :=
      ⟨[⟨"down", ["n"], [.ret (some (.call "down" [.binary .sub (.name "n") (.integer 1)]))]⟩], []⟩
    let caller : Program :=
      ⟨program.operations, [.ret (some (.call "down" [.unary .neg (.integer 1)]))]⟩
    let engine := { ScriptEngine.new 8 with program := some program }
    let called := Act.apply LanguageExecutor.script.execute
      (ScriptRunner.mk engine (.operation (some "down") [.integer (-1)]), Resources.initial)
    let run := Act.apply LanguageExecutor.script.execute
      (ScriptRunner.mk { engine with program := some caller } .script, Resources.initial)
    run.1 = called.1 ∧ run.2.2 = called.2.2 ∧
      run.2.1.module.context = called.2.1.module.context := by
  intro program caller engine
  have parsed : engine.program = some program := rfl
  have declared : (program.operation? "down").isSome = true := by decide
  have negates : unaryOp .neg (.integer 1) = .ok (.integer (-1)) := rfl
  have literals : List.Forall₂ Expr.IsLiteral [.unary .neg (.integer 1)] [.integer (-1)] :=
    .cons (.neg (.integer 1) negates) .nil
  have agree := modes_agree parsed declared literals Resources.initial
  dsimp only [engine, program, caller] at agree ⊢
  exact ⟨agree.1, agree.2.1, agree.2.2.1⟩

end ScriptRunner
end StagedScript
