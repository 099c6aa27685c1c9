import StagedScript.Proofs.Script.Transcript

/-!
# How evaluations are built

An evaluation of a program is built from steps that have nothing to do with sinks and from prints,
one after the other and in scopes of their own. What holds of steps and prints, and is kept when
they are put together, holds of every evaluation: it is enough to know that evaluations are `Built`.

**Results.** Running a program and calling one of its operations are built so (`built_script`,
`built_operation`).
-/

namespace StagedScript
namespace Script
namespace Eval

variable {α β : Type} {setting : Setting}

/-- An evaluation that neither looks at sinks nor changes them. -/
def Quiet (m : Eval α) : Prop :=
  ∀ (before : Scratch) (sinks : Sinks),
    m.run.run { before with sinks := sinks } =
      ((m.run.run before).1, { (m.run.run before).2 with sinks := sinks })

/-- Evaluations that are put together from quiet ones and prints. -/
inductive Built (setting : Setting) : {α : Type} → Eval α → Prop
  | quiet {α : Type} {m : Eval α} : m.Quiet → Built setting m
  | emit (channel : Channel) (endLine : Bool) (values : List Value) :
      Built setting (emit setting channel endLine values)
  | bind {α β : Type} {m : Eval α} {f : α → Eval β} :
      Built setting m → (∀ a, Built setting (f a)) → Built setting (m >>= f)
  | inScope {α : Type} {body : Eval α} : Built setting body → Built setting (inScope body)

theorem quiet_pure (a : α) : (pure a : Eval α).Quiet :=
  fun _ _ => rfl

theorem quiet_fault (cause : RuntimeFault) : (fault cause : Eval α).Quiet :=
  fun _ _ => rfl

theorem quiet_modifyFrames (change : FrameStack → FrameStack) : (modifyFrames change).Quiet :=
  fun _ _ => rfl

theorem quiet_ofResult (result : Except RuntimeFault α) : (ofResult result).Quiet := by
  cases result with
  | ok value => exact quiet_pure value
  | error cause => exact quiet_fault cause

/-- To look at the variables first is quiet, if what comes then is. -/
theorem quiet_get_bind {f : Scratch → Eval α} (quiet : ∀ scratch, (f scratch).Quiet)
    (alike : ∀ scratch sinks, f { scratch with sinks := sinks } = f scratch) :
    (get >>= f).Quiet := by
  intro before sinks
  rw [run_get_bind, run_get_bind, alike]
  exact quiet before before sinks

theorem quiet_lookup (setting : Setting) (name : String) : (lookup setting name).Quiet := by
  refine quiet_get_bind (fun scratch => ?_) fun scratch sinks => rfl
  split
  · exact quiet_pure _
  · split
    · exact quiet_pure _
    · exact quiet_fault _

theorem quiet_assign (name : String) (value : Value) : (assign name value).Quiet := by
  intro before sinks
  unfold assign
  rw [run_get_bind, run_get_bind]
  cases before.frames.get? name with
  | none => rfl
  | some v =>
      dsimp only
      by_cases constant : v.readOnly = true
      · rw [if_pos constant, if_pos constant]
        rfl
      · rw [if_neg constant, if_neg constant]
        cases before.frames.set? name value <;> rfl

theorem quiet_asCondition (value : Value) : (asCondition value).Quiet := by
  unfold asCondition
  split
  · exact quiet_pure _
  · exact quiet_fault _

theorem quiet_size (arguments : List Value) : (size arguments).Quiet := by
  unfold size
  split
  · exact quiet_pure _
  · exact quiet_pure _
  · exact quiet_fault _
  · exact quiet_fault _

theorem quiet_contents (setting : Setting) (arguments : List Value) :
    (contents setting arguments).Quiet := by
  unfold contents
  split
  · exact quiet_pure _
  · exact quiet_fault _

theorem quiet_native (setting : Setting) (arguments : List Value) :
    (native setting arguments).Quiet := by
  intro before sinks
  unfold native
  split
  next type rest =>
    cases NativeDelegate.find? setting.delegates type with
    | none => rfl
    | some delegate =>
        dsimp only
        rw [run_get_bind, run_get_bind, run_set_bind, run_set_bind]
        cases delegate.create before.objectsMade type rest <;> rfl
  next => rfl

theorem built_pure (a : α) : Built setting (pure a : Eval α) :=
  .quiet (quiet_pure a)

theorem built_fault (cause : RuntimeFault) : Built setting (fault cause : Eval α) :=
  .quiet (quiet_fault cause)

theorem built_declareAll (news : List Variable) : Built setting (declareAll news) := by
  induction news with
  | nil => exact built_pure ()
  | cons new rest ih => exact .bind (.quiet (quiet_modifyFrames _)) fun _ => ih

theorem built_builtin (name : String) (arguments : List Value) :
    Built setting (builtin setting name arguments) := by
  unfold builtin
  split
  · exact .emit _ _ _
  · exact .emit _ _ _
  · exact .emit _ _ _
  · exact .emit _ _ _
  · exact .quiet (quiet_size _)
  · exact .quiet (quiet_contents _ _)
  · exact .quiet (quiet_native _ _)
  · exact built_fault _

/-- Calls of operations are built. -/
def BuiltCalls (setting : Setting) (invoke : Invoke) : Prop :=
  ∀ op arguments, Built setting (invoke op arguments)

section Walk

variable {invoke : Invoke}

theorem built_call (calls : BuiltCalls setting invoke) (name : String)
    (arguments : List Value) : Built setting (call setting invoke name arguments) := by
  unfold call
  split
  · exact calls _ _
  · exact built_builtin _ _

mutual

theorem built_expr (calls : BuiltCalls setting invoke) :
    ∀ e : Expr, Built setting (expr setting invoke e)
  | .integer value => by
      rw [expr]
      exact built_pure _
  | .real value => by
      rw [expr]
      exact built_pure _
  | .text value => by
      rw [expr]
      exact built_pure _
  | .boolean value => by
      rw [expr]
      exact built_pure _
  | .null => by
      rw [expr]
      exact built_pure _
  | .name name => by
      rw [expr]
      exact .quiet (quiet_lookup setting name)
  | .unary op operand => by
      rw [expr]
      exact (built_expr calls operand).bind fun value => .quiet (quiet_ofResult _)
  | .binary op left right => by
      have first := built_expr calls left
      have second := built_expr calls right
      have isTrue : Built setting (do
          let holds ← asCondition (← expr setting invoke right)
          return Value.boolean holds) :=
        second.bind fun value => .bind (.quiet (quiet_asCondition value)) fun _ => built_pure _
      by_cases isAnd : op = .and
      · subst isAnd
        rw [expr]
        refine first.bind fun value => .bind (.quiet (quiet_asCondition value)) fun holds => ?_
        cases holds with
        | true => exact isTrue
        | false => exact built_pure _
      by_cases isOr : op = .or
      · subst isOr
        rw [expr]
        refine first.bind fun value => .bind (.quiet (quiet_asCondition value)) fun holds => ?_
        cases holds with
        | true => exact built_pure _
        | false => exact isTrue
      · rw [expr]
        · exact first.bind fun a => second.bind fun b => .quiet (quiet_ofResult _)
        · exact isAnd
        · exact isOr
  | .call name arguments => by
      rw [expr]
      exact (built_exprs calls arguments).bind fun values => built_call calls name values

theorem built_exprs (calls : BuiltCalls setting invoke) :
    ∀ es : List Expr, Built setting (exprs setting invoke es)
  | [] => by
      rw [exprs]
      exact built_pure _
  | e :: rest => by
      rw [exprs]
      exact (built_expr calls e).bind fun value =>
        (built_exprs calls rest).bind fun values => built_pure _

end

theorem built_condition (calls : BuiltCalls setting invoke) (e : Expr) :
    Built setting (condition setting invoke e) :=
  (built_expr calls e).bind fun value => .quiet (quiet_asCondition value)

theorem built_whileHolds {test : Eval Bool} {body : Eval Flow} (testBuilt : Built setting test)
    (bodyBuilt : Built setting body) (turns : Nat) :
    Built setting (whileHolds test body turns) := by
  induction turns with
  | zero => exact .quiet fun _ _ => rfl
  | succ turns ih =>
      rw [whileHolds]
      refine testBuilt.bind fun holds => ?_
      cases holds with
      | true =>
          refine bodyBuilt.bind fun flow => ?_
          cases flow with
          | next => exact ih
          | returned value => exact built_pure _
      | false => exact built_pure _

mutual

theorem built_stmt (calls : BuiltCalls setting invoke) :
    ∀ s : Stmt, Built setting (stmt setting invoke s)
  | .var name none => by
      rw [stmt]
      exact .bind (.quiet (quiet_modifyFrames _)) fun _ => built_pure _
  | .var name (some e) => by
      rw [stmt]
      exact (built_expr calls e).bind fun value =>
        .bind (.quiet (quiet_modifyFrames _)) fun _ => built_pure _
  | .assign name e => by
      rw [stmt]
      exact (built_expr calls e).bind fun value =>
        .bind (.quiet (quiet_assign name value)) fun _ => built_pure _
  | .ret none => by
      rw [stmt]
      exact built_pure _
  | .ret (some e) => by
      rw [stmt]
      exact (built_expr calls e).bind fun value => built_pure _
  | .cond test yes no => by
      have inYes := (built_block calls yes).inScope
      have inNo := (built_block calls no).inScope
      rw [stmt]
      refine (built_condition calls test).bind fun holds => ?_
      cases holds with
      | true => exact inYes
      | false => exact inNo
  | .loop test body => by
      have inBody := (built_block calls body).inScope
      rw [stmt]
      exact built_whileHolds (built_condition calls test) inBody _
  | .expr e => by
      rw [stmt]
      exact (built_expr calls e).bind fun value => built_pure _

theorem built_block (calls : BuiltCalls setting invoke) :
    ∀ body : List Stmt, Built setting (block setting invoke body)
  | [] => by
      rw [block]
      exact built_pure _
  | s :: rest => by
      have first := built_stmt calls s
      have others := built_block calls rest
      rw [block]
      refine first.bind fun flow => ?_
      cases flow with
      | next => exact others
      | returned value => exact built_pure _

end

end Walk

/-- The induction is on how many calls may still become active. -/
theorem built_invoke (setting : Setting) (room : Nat) :
    BuiltCalls setting (Eval.invoke setting room) := by
  induction room with
  | zero =>
      intro op arguments
      rw [Eval.invoke]
      split
      · exact built_fault _
      · exact built_fault _
  | succ room ih =>
      intro op arguments
      rw [Eval.invoke]
      split
      · exact built_fault _
      · have body : Built setting (do
            declareAll (bindings op arguments)
            block setting (Eval.invoke setting room) op.body) :=
          (built_declareAll _).bind fun _ => built_block ih op.body
        exact body.inScope.bind fun flow => built_pure _

theorem built_script (setting : Setting) : Built setting (script setting) :=
  (built_block (built_invoke setting maxCallDepth) _).inScope.bind fun _ => built_pure _

theorem built_operation (setting : Setting) (name : String) (arguments : List Value) :
    Built setting (operation setting name arguments) := by
  unfold operation
  split
  · exact built_invoke setting maxCallDepth _ _
  · exact built_fault _

end Eval
end Script
end StagedScript
