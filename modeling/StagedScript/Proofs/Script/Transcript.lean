import StagedScript.Proofs.Script.Printing

/-!
# What a program prints

A program prints texts to its channels, one after the other: its transcript. Where the channels lead
to does not matter to it, as long as the sinks take everything. An evaluation that is `Determined`
by a setting comes to the same value or error, leaves the same variables and has the same transcript
in every setting like it, whatever the streams, and whatever host objects were made before; the
delegates must make what they make from the type and the arguments alone.

**Results.** Running a program and calling one of its operations are determined by the program, the
models, the delegates and the limit on loops (`determined_script`, `determined_operation`).
-/

namespace StagedScript

/-- A delegate that makes an object from its type and arguments, whatever was made before. -/
def NativeDelegate.Repeatable (delegate : NativeDelegate) : Prop :=
  ∀ serial other type arguments,
    delegate.create serial type arguments = delegate.create other type arguments

namespace Script

/-- Settings that differ at most in their streams and in delegates that are never asked. -/
structure Setting.Like (setting base : Setting) : Prop where
  program : setting.program = base.program
  repository : setting.repository = base.repository
  models : setting.models = base.models
  delegates : ∀ type,
    NativeDelegate.find? setting.delegates type = NativeDelegate.find? base.delegates type
  turns : setting.turns = base.turns

/-- What an evaluation comes to, the variables that it leaves and what it prints. -/
structure Course (α : Type) where
  result : Except EngineError α
  frames : FrameStack
  transcript : Transcript

namespace Eval

variable {α β : Type} {base : Setting}

/-- With some variables, an evaluation takes a course wherever its channels lead to, if the sinks
there take everything. -/
def Takes (m : Eval α) (streams : Channel → Stream) (frames : FrameStack) (course : Course α) :
    Prop :=
  ∀ sinks made, sinks.Unlimited streams → ∃ made',
    m.run.run ⟨frames, sinks, made⟩ =
      (course.result, ⟨course.frames, sinks.print streams course.transcript, made'⟩)

/-- The course of an evaluation is the same in every setting that is like a given one. -/
def Determined (base : Setting) (m : Setting → Eval α) : Prop :=
  ∀ frames, ∃ course, ∀ setting : Setting, setting.Like base →
    (m setting).Takes setting.stream frames course

theorem Determined.congr {m n : Setting → Eval α} (determined : Determined base n)
    (same : ∀ setting, setting.Like base → m setting = n setting) : Determined base m := by
  intro frames
  obtain ⟨course, takes⟩ := determined frames
  refine ⟨course, fun setting like => ?_⟩
  rw [same setting like]
  exact takes setting like

theorem Determined.bind {m : Setting → Eval α} {f : α → Setting → Eval β}
    (first : Determined base m) (next : ∀ a, Determined base (f a)) :
    Determined base fun setting => m setting >>= fun a => f a setting := by
  intro frames
  obtain ⟨⟨error | a, middle, printed⟩, takes⟩ := first frames
  · refine ⟨⟨.error error, middle, printed⟩, fun setting like sinks made unlimited => ?_⟩
    obtain ⟨made', ran⟩ := takes setting like sinks made unlimited
    refine ⟨made', ?_⟩
    rw [run_bind, ran]
  · obtain ⟨⟨result, after, printedLater⟩, takesLater⟩ := next a middle
    refine ⟨⟨result, after, printed ++ printedLater⟩, fun setting like sinks made unlimited => ?_⟩
    obtain ⟨made', ran⟩ := takes setting like sinks made unlimited
    have stillUnlimited : (sinks.print setting.stream printed).Unlimited setting.stream :=
      unlimited.of_capacities (Sinks.capacities_print _ _ _)
    obtain ⟨made'', ranLater⟩ := takesLater setting like _ made' stillUnlimited
    refine ⟨made'', ?_⟩
    rw [run_bind, ran, Sinks.print_append]
    exact ranLater

/-- What neither prints nor asks for more than the variables is determined. -/
theorem determined_of_frames {m : Setting → Eval α}
    (silent : ∀ frames, ∃ result after, ∀ setting : Setting, setting.Like base → ∀ sinks made,
      (m setting).run.run ⟨frames, sinks, made⟩ = (result, ⟨after, sinks, made⟩)) :
    Determined base m := by
  intro frames
  obtain ⟨result, after, ran⟩ := silent frames
  exact ⟨⟨result, after, []⟩, fun setting like sinks made _ => ⟨made, ran setting like sinks made⟩⟩

theorem determined_pure (a : α) : Determined base fun _ => (pure a : Eval α) :=
  determined_of_frames fun frames => ⟨.ok a, frames, fun _ _ _ _ => rfl⟩

theorem determined_fault (cause : RuntimeFault) :
    Determined base fun _ => (fault cause : Eval α) :=
  determined_of_frames fun frames => ⟨.error (.runtime cause), frames, fun _ _ _ _ => rfl⟩

theorem determined_ofResult (result : Except RuntimeFault α) :
    Determined base fun _ => ofResult result := by
  cases result with
  | ok value => exact determined_pure value
  | error cause => exact determined_fault cause

theorem determined_modifyFrames (change : FrameStack → FrameStack) :
    Determined base fun _ => modifyFrames change :=
  determined_of_frames fun frames => ⟨.ok (), change frames, fun _ _ _ _ => rfl⟩

theorem run_inScope (body : Eval α) (before : Scratch) :
    (inScope body).run.run before =
      let ran := body.run.run { before with frames := before.frames.enterLocal }
      (ran.1, { ran.2 with frames := ran.2.frames.leaveLocal }) :=
  rfl

theorem determined_inScope {body : Setting → Eval α} (determined : Determined base body) :
    Determined base fun setting => inScope (body setting) := by
  intro frames
  obtain ⟨⟨result, after, printed⟩, takes⟩ := determined frames.enterLocal
  refine ⟨⟨result, after.leaveLocal, printed⟩, fun setting like sinks made unlimited => ?_⟩
  obtain ⟨made', ran⟩ := takes setting like sinks made unlimited
  refine ⟨made', ?_⟩
  rw [run_inScope, ran]

theorem determined_declareAll (news : List Variable) :
    Determined base fun _ => declareAll news := by
  induction news with
  | nil => exact determined_pure ()
  | cons new rest ih => exact (determined_modifyFrames _).bind fun _ => ih

theorem determined_lookup (name : String) :
    Determined base fun setting => lookup setting name := by
  refine determined_of_frames fun frames => ?_
  cases found : frames.get? name with
  | some v =>
      refine ⟨.ok v.value, frames, fun setting like sinks made => ?_⟩
      unfold lookup
      rw [run_get_bind, found]
      rfl
  | none =>
      cases model : base.repository.find? name with
      | some handle =>
          refine ⟨.ok (.model handle), frames, fun setting like sinks made => ?_⟩
          unfold lookup
          rw [run_get_bind, found, like.repository, model]
          rfl
      | none =>
          refine ⟨.error (.runtime (.undefinedVariable name)), frames,
            fun setting like sinks made => ?_⟩
          unfold lookup
          rw [run_get_bind, found, like.repository, model]
          rfl

theorem determined_assign (name : String) (value : Value) :
    Determined base fun _ => assign name value := by
  refine determined_of_frames fun frames => ?_
  cases found : frames.get? name with
  | none =>
      refine ⟨.error (.runtime (.undefinedVariable name)), frames, fun _ _ sinks made => ?_⟩
      unfold assign
      rw [run_get_bind, found]
      rfl
  | some v =>
      cases constant : v.readOnly with
      | true =>
          refine ⟨.error (.runtime (.readOnlyVariable name)), frames, fun _ _ sinks made => ?_⟩
          unfold assign
          rw [run_get_bind, found]
          dsimp only
          rw [if_pos constant]
          rfl
      | false =>
          have assignable : ¬v.readOnly = true := Bool.not_eq_true _ ▸ constant
          cases changed : frames.set? name value with
          | some after =>
              refine ⟨.ok (), after, fun _ _ sinks made => ?_⟩
              unfold assign
              rw [run_get_bind, found]
              dsimp only
              rw [if_neg assignable, changed]
              rfl
          | none =>
              refine ⟨.error (.runtime (.undefinedVariable name)), frames, fun _ _ sinks made => ?_⟩
              unfold assign
              rw [run_get_bind, found]
              dsimp only
              rw [if_neg assignable, changed]
              rfl

theorem determined_asCondition (value : Value) : Determined base fun _ => asCondition value := by
  cases value with
  | boolean b => exact determined_pure b
  | _ => exact determined_fault _

theorem determined_emit (channel : Channel) (endLine : Bool) (values : List Value) :
    Determined base fun setting => emit setting channel endLine values := by
  intro frames
  refine ⟨⟨.ok .null, frames, [(channel, printed endLine values)]⟩, ?_⟩
  intro setting like sinks made unlimited
  refine ⟨made, ?_⟩
  rw [run_emit]
  dsimp only
  rw [Sinks.writeText_ok unlimited]
  rfl

theorem determined_size (arguments : List Value) : Determined base fun _ => size arguments := by
  unfold size
  split
  · exact determined_pure _
  · exact determined_pure _
  · exact determined_fault _
  · exact determined_fault _

theorem determined_contents (arguments : List Value) :
    Determined base fun setting => contents setting arguments := by
  have same : ∀ setting : Setting, setting.Like base →
      contents setting arguments = contents base arguments := by
    intro setting like
    unfold contents
    rw [like.models]
  refine Determined.congr ?_ same
  unfold contents
  split
  · exact determined_pure _
  · exact determined_fault _

/-- Delegates make the same from the same. -/
def Repeats (base : Setting) : Prop :=
  ∀ type delegate, NativeDelegate.find? base.delegates type = some delegate → delegate.Repeatable

/-- The count of host objects marks a new object, and delegates that repeat do not look at it. -/
theorem determined_native (repeats : Repeats base) (arguments : List Value) :
    Determined base fun setting => native setting arguments := by
  have refused : ∀ arguments : List Value,
      (∀ setting, native setting arguments = fault .nativeName) →
      Determined base fun setting => native setting arguments :=
    fun _ same => (determined_fault .nativeName).congr fun setting _ => same setting
  rcases arguments with _ | ⟨first, rest⟩
  · exact refused [] fun _ => rfl
  cases first with
  | text type =>
      cases found : NativeDelegate.find? base.delegates type with
      | none =>
          refine (determined_fault (.unknownNative type)).congr fun setting like => ?_
          unfold native
          dsimp only
          rw [like.delegates, found]
      | some delegate =>
          intro frames
          refine ⟨⟨(delegate.create 0 type rest).elim
            (.error (.runtime (.refusedNative type))) .ok, frames, []⟩,
            fun setting like sinks made _ => ⟨made + 1, ?_⟩⟩
          unfold native
          dsimp only
          rw [like.delegates, found]
          dsimp only
          rw [run_get_bind, run_set_bind, repeats type delegate found made 0]
          cases delegate.create 0 type rest <;> rfl
  | _ => exact refused _ fun _ => rfl

/-- The names of what the language itself provides. -/
def builtinNames : List String :=
  ["print", "println", "warn", "error", "size", "contents", "native"]

theorem builtin_eq_fault {name : String} (other : name ∉ builtinNames) (setting : Setting)
    (arguments : List Value) :
    builtin setting name arguments = fault (.undefinedOperation name) := by
  unfold builtin
  split <;> simp_all [builtinNames]

theorem determined_builtin (repeats : Repeats base) (name : String) (arguments : List Value) :
    Determined base fun setting => builtin setting name arguments := by
  by_cases provided : name ∈ builtinNames
  · simp only [builtinNames, List.mem_cons, List.not_mem_nil, or_false] at provided
    rcases provided with rfl | rfl | rfl | rfl | rfl | rfl | rfl
    · exact determined_emit .output false arguments
    · exact determined_emit .output true arguments
    · exact determined_emit .warning true arguments
    · exact determined_emit .error true arguments
    · exact determined_size arguments
    · exact determined_contents arguments
    · exact determined_native repeats arguments
  · refine (determined_fault (.undefinedOperation name)).congr fun setting _ => ?_
    exact builtin_eq_fault provided setting arguments

/-- Calls of operations are determined. -/
def DeterminedCalls (base : Setting) (invoke : Setting → Invoke) : Prop :=
  ∀ op arguments, Determined base fun setting => invoke setting op arguments

section Walk

variable {invoke : Setting → Invoke}

theorem determined_call (repeats : Repeats base) (calls : DeterminedCalls base invoke)
    (name : String) (arguments : List Value) :
    Determined base fun setting => call setting (invoke setting) name arguments := by
  cases found : base.program.operation? name with
  | some op =>
      refine (calls op arguments).congr fun setting like => ?_
      unfold call
      rw [like.program, found]
  | none =>
      refine (determined_builtin repeats name arguments).congr fun setting like => ?_
      unfold call
      rw [like.program, found]

mutual

theorem determined_expr (repeats : Repeats base) (calls : DeterminedCalls base invoke) :
    ∀ e : Expr, Determined base fun setting => expr setting (invoke setting) e
  | .integer value => by
      simp only [expr]
      exact determined_pure _
  | .real value => by
      simp only [expr]
      exact determined_pure _
  | .text value => by
      simp only [expr]
      exact determined_pure _
  | .boolean value => by
      simp only [expr]
      exact determined_pure _
  | .null => by
      simp only [expr]
      exact determined_pure _
  | .name name => by
      simp only [expr]
      exact determined_lookup name
  | .unary op operand => by
      have inner := determined_expr repeats calls operand
      simp only [expr]
      exact inner.bind fun value => determined_ofResult _
  | .binary op left right => by
      have first := determined_expr repeats calls left
      have second := determined_expr repeats calls right
      have isTrue : Determined base fun setting => do
          let holds ← asCondition (← expr setting (invoke setting) right)
          return Value.boolean holds :=
        second.bind fun value => (determined_asCondition value).bind fun _ => determined_pure _
      by_cases isAnd : op = .and
      · subst isAnd
        simp only [expr]
        refine first.bind fun value => (determined_asCondition value).bind fun holds => ?_
        cases holds with
        | true => exact isTrue
        | false => exact determined_pure _
      by_cases isOr : op = .or
      · subst isOr
        simp only [expr]
        refine first.bind fun value => (determined_asCondition value).bind fun holds => ?_
        cases holds with
        | true => exact determined_pure _
        | false => exact isTrue
      · refine (first.bind fun a => second.bind fun b =>
          determined_ofResult (binaryOp op a b)).congr fun setting _ => ?_
        rw [expr]
        · exact isAnd
        · exact isOr
  | .call name arguments => by
      have values := determined_exprs repeats calls arguments
      simp only [expr]
      exact values.bind fun values => determined_call repeats calls name values

theorem determined_exprs (repeats : Repeats base) (calls : DeterminedCalls base invoke) :
    ∀ es : List Expr, Determined base fun setting => exprs setting (invoke setting) es
  | [] => by
      simp only [exprs]
      exact determined_pure _
  | e :: rest => by
      have first := determined_expr repeats calls e
      have others := determined_exprs repeats calls rest
      simp only [exprs]
      exact first.bind fun value => others.bind fun values => determined_pure _

end

theorem determined_condition (repeats : Repeats base) (calls : DeterminedCalls base invoke)
    (e : Expr) :
    Determined base fun setting => condition setting (invoke setting) e :=
  (determined_expr repeats calls e).bind fun value => determined_asCondition value

theorem determined_whileHolds {test : Setting → Eval Bool} {body : Setting → Eval Flow}
    (testDetermined : Determined base test) (bodyDetermined : Determined base body) (turns : Nat) :
    Determined base fun setting => whileHolds (test setting) (body setting) turns := by
  induction turns with
  | zero =>
      exact determined_of_frames fun frames => ⟨.error .unfinished, frames, fun _ _ _ _ => rfl⟩
  | succ turns ih =>
      simp only [whileHolds]
      refine testDetermined.bind fun holds => ?_
      cases holds with
      | true =>
          refine bodyDetermined.bind fun flow => ?_
          cases flow with
          | next => exact ih
          | returned value => exact determined_pure _
      | false => exact determined_pure _

mutual

theorem determined_stmt (repeats : Repeats base) (calls : DeterminedCalls base invoke) :
    ∀ s : Stmt, Determined base fun setting => stmt setting (invoke setting) s
  | .var name none => by
      simp only [stmt]
      exact (determined_modifyFrames _).bind fun _ => determined_pure _
  | .var name (some e) => by
      simp only [stmt]
      exact (determined_expr repeats calls e).bind fun value =>
        (determined_modifyFrames _).bind fun _ => determined_pure _
  | .assign name e => by
      simp only [stmt]
      exact (determined_expr repeats calls e).bind fun value =>
        (determined_assign name value).bind fun _ => determined_pure _
  | .ret none => by
      simp only [stmt]
      exact determined_pure _
  | .ret (some e) => by
      simp only [stmt]
      exact (determined_expr repeats calls e).bind fun value => determined_pure _
  | .cond test yes no => by
      have inYes := determined_inScope (determined_block repeats calls yes)
      have inNo := determined_inScope (determined_block repeats calls no)
      simp only [stmt]
      refine (determined_condition repeats calls test).bind fun holds => ?_
      cases holds with
      | true => exact inYes
      | false => exact inNo
  | .loop test body => by
      have inBody := determined_inScope (determined_block repeats calls body)
      refine (determined_whileHolds (determined_condition repeats calls test) inBody
        base.turns).congr fun setting like => ?_
      rw [stmt, like.turns]
  | .expr e => by
      simp only [stmt]
      exact (determined_expr repeats calls e).bind fun value => determined_pure _

theorem determined_block (repeats : Repeats base) (calls : DeterminedCalls base invoke) :
    ∀ body : List Stmt, Determined base fun setting => block setting (invoke setting) body
  | [] => by
      simp only [block]
      exact determined_pure _
  | s :: rest => by
      have first := determined_stmt repeats calls s
      have others := determined_block repeats calls rest
      simp only [block]
      refine first.bind fun flow => ?_
      cases flow with
      | next => exact others
      | returned value => exact determined_pure _

end

end Walk

/-- The induction is on how many calls may still become active. -/
theorem determined_invoke (repeats : Repeats base) (room : Nat) :
    DeterminedCalls base fun setting => Eval.invoke setting room := by
  have miscounted : ∀ (room : Nat) (op : Operation) (arguments : List Value),
      arguments.length ≠ op.params.length →
      Determined base fun setting => Eval.invoke setting room op arguments := by
    intro room op arguments count
    refine (determined_fault
      (.argumentCount op.name op.params.length arguments.length)).congr fun setting _ => ?_
    rw [Eval.invoke.eq_def]
    exact if_pos count
  induction room with
  | zero =>
      intro op arguments
      by_cases count : arguments.length ≠ op.params.length
      · exact miscounted 0 op arguments count
      · refine (determined_fault (.callDepth op.name)).congr fun setting _ => ?_
        change Eval.invoke setting 0 op arguments = _
        rw [Eval.invoke, if_neg count]
  | succ room ih =>
      intro op arguments
      by_cases count : arguments.length ≠ op.params.length
      · exact miscounted (room + 1) op arguments count
      · have body : Determined base (fun setting => do
            declareAll (bindings op arguments)
            block setting (Eval.invoke setting room) op.body) :=
          (determined_declareAll _).bind fun _ => determined_block repeats ih op.body
        refine ((determined_inScope body).bind fun flow => determined_pure flow.value).congr
          fun setting _ => ?_
        change Eval.invoke setting (room + 1) op arguments = _
        rw [Eval.invoke, if_neg count]

/-- What a run of the program comes to, leaves and prints is determined. -/
theorem determined_script (repeats : Repeats base) : Determined base script := by
  have inside := determined_inScope
    (determined_block repeats (determined_invoke repeats maxCallDepth) base.program.statements)
  refine (inside.bind fun flow => determined_pure flow.value).congr fun setting like => ?_
  unfold script
  rw [like.program]

/-- What a call of an operation comes to, leaves and prints is determined. -/
theorem determined_operation (repeats : Repeats base) (name : String) (arguments : List Value) :
    Determined base fun setting => operation setting name arguments := by
  cases found : base.program.operation? name with
  | some op =>
      refine (determined_invoke repeats maxCallDepth op arguments).congr fun setting like => ?_
      unfold operation
      rw [like.program, found]
  | none =>
      refine (determined_fault (.undefinedOperation name)).congr fun setting like => ?_
      unfold operation
      rw [like.program, found]

end Eval
end Script
end StagedScript
