import StagedScript.Proofs.Script.Transcript

/-!
# Empty scopes

An empty scope between the scopes of a frame stack makes no difference to an evaluation that runs
further in: names are looked up and assigned to through it, declarations go to scopes inside of it,
and it is still there and empty when the evaluation ends. So an evaluation on the padded stack is
the one on the plain stack, padded again, whether it ends with a value or with an error.

The place of the empty scope is counted from the innermost scope, so that it moves outwards by one
when a scope is opened. Statements declare variables in the innermost scope, which therefore must
not be the empty one; expressions may run in it.

**Results.** Calls of operations run on padded stacks as on plain ones, whatever the statements of
the program (`Eval.pads_invoke`).
-/

namespace StagedScript

namespace FrameStack

/-- A frame stack with one more, empty scope, around the given number of inner scopes. -/
def pad (inner : Nat) (frames : FrameStack) : FrameStack :=
  { frames with locals := frames.locals.insertIdx inner [] }

theorem pad_enterLocal (inner : Nat) (frames : FrameStack) :
    (frames.pad inner).enterLocal = frames.enterLocal.pad (inner + 1) := by
  rw [pad, pad, enterLocal, enterLocal, List.insertIdx_succ_cons]

theorem exists_cons_of_depth {inner : Nat} {frames : FrameStack} (deep : inner + 1 ≤ frames.depth) :
    ∃ scope outer, frames = ⟨frames.globals, scope :: outer⟩ ∧ inner ≤ outer.length := by
  obtain ⟨globals, _ | ⟨scope, outer⟩⟩ := frames
  · exact absurd deep (Nat.not_succ_le_zero inner)
  · exact ⟨scope, outer, rfl, Nat.le_of_succ_le_succ deep⟩

theorem pad_leaveLocal {inner : Nat} {frames : FrameStack} (deep : inner + 1 ≤ frames.depth) :
    (frames.pad (inner + 1)).leaveLocal = frames.leaveLocal.pad inner := by
  obtain ⟨scope, outer, same, -⟩ := exists_cons_of_depth deep
  rw [same, pad, pad, leaveLocal, leaveLocal, List.insertIdx_succ_cons]
  rfl

theorem pad_declareLocal {inner : Nat} {frames : FrameStack} (deep : inner + 1 ≤ frames.depth)
    (new : Variable) :
    (frames.pad (inner + 1)).declareLocal new = (frames.declareLocal new).pad (inner + 1) := by
  obtain ⟨scope, outer, same, -⟩ := exists_cons_of_depth deep
  rw [same]
  simp only [pad, declareLocal, List.insertIdx_succ_cons]

theorem depth_declareLocal {inner : Nat} {frames : FrameStack} (deep : inner + 1 ≤ frames.depth)
    (new : Variable) : inner + 1 ≤ (frames.declareLocal new).depth := by
  obtain ⟨scope, outer, same, short⟩ := exists_cons_of_depth deep
  rw [same]
  exact Nat.succ_le_succ short

/-- Names are looked up through an empty scope. -/
theorem localGet?_insertIdx (name : String) (inner : Nat) (locals : List Scope) :
    localGet? (locals.insertIdx inner []) name = localGet? locals name := by
  induction inner generalizing locals with
  | zero => rfl
  | succ inner ih =>
      cases locals with
      | nil => rfl
      | cons scope outer =>
          rw [List.insertIdx_succ_cons, localGet?, localGet?, ih]

theorem get?_pad (inner : Nat) (frames : FrameStack) (name : String) :
    (frames.pad inner).get? name = frames.get? name := by
  rw [get?, get?, pad, localGet?_insertIdx]

/-- Names are assigned to through an empty scope. -/
theorem localSet?_insertIdx (name : String) (value : Value) (inner : Nat) (locals : List Scope) :
    localSet? (locals.insertIdx inner []) name value =
      (localSet? locals name value).map fun locals => locals.insertIdx inner [] := by
  induction inner generalizing locals with
  | zero => rfl
  | succ inner ih =>
      cases locals with
      | nil => rfl
      | cons scope outer =>
          rw [List.insertIdx_succ_cons, localSet?, localSet?, ih]
          cases scope.get? name with
          | some v => rfl
          | none => cases localSet? outer name value <;> rfl

theorem set?_pad (inner : Nat) (frames : FrameStack) (name : String) (value : Value) :
    (frames.pad inner).set? name value = (frames.set? name value).map (pad inner) := by
  rw [set?, set?, pad, localSet?_insertIdx]
  cases localSet? frames.locals name value with
  | some locals => rfl
  | none => cases frames.globals.get? name <;> rfl

end FrameStack

namespace Script

/-- What a program changes, on a padded frame stack. -/
def Scratch.pad (inner : Nat) (scratch : Scratch) : Scratch :=
  { scratch with frames := scratch.frames.pad inner }

/-- The same setting for a program with the same operations and other statements. -/
def Setting.stating (setting : Setting) (statements : List Stmt) : Setting :=
  { setting with program := { setting.program with statements := statements } }

namespace Eval

variable {α β : Type} {inner : Nat}

/-- On padded stacks the second evaluation is the first one on plain stacks, padded; the stacks stay
deep enough for that. -/
def Pads (inner : Nat) (m padded : Eval α) : Prop :=
  ∀ before : Scratch, inner ≤ before.frames.depth →
    inner ≤ (m.run.run before).2.frames.depth ∧
      padded.run.run (before.pad inner) =
        ((m.run.run before).1, (m.run.run before).2.pad inner)

/-- An evaluation that neither looks at variables nor changes them. -/
def Frameless (m : Eval α) : Prop :=
  ∀ (before : Scratch) (frames : FrameStack),
    m.run.run { before with frames := frames } =
      ((m.run.run before).1, { (m.run.run before).2 with frames := frames })

theorem Frameless.frames {m : Eval α} (frameless : m.Frameless) (before : Scratch) :
    (m.run.run before).2.frames = before.frames :=
  congrArg (fun ran => ran.2.frames) (frameless before before.frames)

theorem Frameless.pads {m : Eval α} (frameless : m.Frameless) : Pads inner m m := by
  intro before deep
  have same := frameless.frames before
  refine ⟨by rwa [same], ?_⟩
  rw [Scratch.pad, Scratch.pad, same]
  exact frameless before _

theorem frameless_pure (a : α) : (pure a : Eval α).Frameless :=
  fun _ _ => rfl

theorem frameless_fault (cause : RuntimeFault) : (fault cause : Eval α).Frameless :=
  fun _ _ => rfl

theorem frameless_ofResult (result : Except RuntimeFault α) : (ofResult result).Frameless := by
  cases result with
  | ok value => exact frameless_pure value
  | error cause => exact frameless_fault cause

theorem frameless_asCondition (value : Value) : (asCondition value).Frameless := by
  unfold asCondition
  split
  · exact frameless_pure _
  · exact frameless_fault _

theorem frameless_emit (setting : Setting) (channel : Channel) (endLine : Bool)
    (values : List Value) : (emit setting channel endLine values).Frameless := by
  intro before frames
  rw [run_emit, run_emit]

theorem frameless_size (arguments : List Value) : (size arguments).Frameless := by
  unfold size
  split
  · exact frameless_pure _
  · exact frameless_pure _
  · exact frameless_fault _
  · exact frameless_fault _

theorem frameless_contents (setting : Setting) (arguments : List Value) :
    (contents setting arguments).Frameless := by
  unfold contents
  split
  · exact frameless_pure _
  · exact frameless_fault _

theorem frameless_native (setting : Setting) (arguments : List Value) :
    (native setting arguments).Frameless := by
  intro before frames
  unfold native
  split
  next type rest =>
    cases NativeDelegate.find? setting.delegates type with
    | none => rfl
    | some delegate =>
        dsimp only
        rw [run_get_bind, run_get_bind, run_set_bind, run_set_bind]
        cases delegate.create before.objectsMade type rest <;> rfl
  next => rfl

theorem frameless_builtin (setting : Setting) (name : String) (arguments : List Value) :
    (builtin setting name arguments).Frameless := by
  unfold builtin
  split
  · exact frameless_emit _ _ _ _
  · exact frameless_emit _ _ _ _
  · exact frameless_emit _ _ _ _
  · exact frameless_emit _ _ _ _
  · exact frameless_size _
  · exact frameless_contents _ _
  · exact frameless_native _ _
  · exact frameless_fault _

theorem pads_pure (a : α) : Pads inner (pure a : Eval α) (pure a) :=
  (frameless_pure a).pads

theorem pads_fault (cause : RuntimeFault) : Pads inner (fault cause : Eval α) (fault cause) :=
  (frameless_fault cause).pads

theorem Pads.bind {m padded : Eval α} {f paddedNext : α → Eval β} (first : Pads inner m padded)
    (next : ∀ a, Pads inner (f a) (paddedNext a)) :
    Pads inner (m >>= f) (padded >>= paddedNext) := by
  intro before deep
  obtain ⟨stillDeep, same⟩ := first before deep
  rw [run_bind, run_bind, same]
  generalize m.run.run before = ran at stillDeep ⊢
  obtain ⟨error | a, middle⟩ := ran
  · exact ⟨stillDeep, rfl⟩
  · exact next a middle stillDeep

/-- In a scope of its own the empty scope is one further out. -/
theorem Pads.inScope {body padded : Eval α} (inside : Pads (inner + 1) body padded) :
    Pads inner (inScope body) (inScope padded) := by
  intro before deep
  obtain ⟨stillDeep, same⟩ := inside { before with frames := before.frames.enterLocal }
    (Nat.succ_le_succ deep)
  rw [run_inScope, run_inScope]
  have entered : Scratch.pad (inner + 1) { before with frames := before.frames.enterLocal } =
      { before.pad inner with frames := (before.pad inner).frames.enterLocal } := by
    rw [Scratch.pad, Scratch.pad, FrameStack.pad_enterLocal]
  rw [← entered, same]
  generalize body.run.run { before with frames := before.frames.enterLocal } = ran at stillDeep ⊢
  dsimp only
  constructor
  · obtain ⟨scope, outer, frames, short⟩ := FrameStack.exists_cons_of_depth stillDeep
    rw [frames]
    exact short
  · rw [Scratch.pad, Scratch.pad, FrameStack.pad_leaveLocal stillDeep]

theorem pads_declareLocal (new : Variable) :
    Pads (inner + 1) (modifyFrames fun frames => frames.declareLocal new)
      (modifyFrames fun frames => frames.declareLocal new) := by
  intro before deep
  refine ⟨FrameStack.depth_declareLocal deep new, ?_⟩
  change (_, Scratch.mk ((before.frames.pad (inner + 1)).declareLocal new) _ _) = _
  rw [FrameStack.pad_declareLocal deep]
  rfl

theorem pads_declareAll (news : List Variable) :
    Pads (inner + 1) (declareAll news) (declareAll news) := by
  induction news with
  | nil => exact pads_pure ()
  | cons new rest ih => exact (pads_declareLocal new).bind fun _ => ih

section Walk

variable {setting : Setting} {statements : List Stmt}

theorem pads_lookup (name : String) :
    Pads inner (lookup setting name) (lookup (setting.stating statements) name) := by
  intro before deep
  unfold lookup
  rw [run_get_bind, run_get_bind]
  have same : (before.pad inner).frames.get? name = before.frames.get? name :=
    FrameStack.get?_pad inner before.frames name
  rw [same]
  cases before.frames.get? name with
  | some v => exact pads_pure v.value before deep
  | none =>
      have models : (setting.stating statements).repository = setting.repository := rfl
      dsimp only
      rw [models]
      cases setting.repository.find? name with
      | some model => exact pads_pure (Value.model model) before deep
      | none => exact pads_fault (.undefinedVariable name) before deep

theorem pads_assign (name : String) (value : Value) :
    Pads inner (assign name value) (assign name value) := by
  intro before deep
  unfold assign
  rw [run_get_bind, run_get_bind]
  have same : (before.pad inner).frames.get? name = before.frames.get? name :=
    FrameStack.get?_pad inner before.frames name
  rw [same]
  cases found : before.frames.get? name with
  | none => exact pads_fault (.undefinedVariable name) before deep
  | some v =>
      dsimp only
      by_cases constant : v.readOnly = true
      · rw [if_pos constant, if_pos constant]
        exact pads_fault (.readOnlyVariable name) before deep
      · rw [if_neg constant, if_neg constant]
        have set : (before.pad inner).frames.set? name value =
            (before.frames.set? name value).map (FrameStack.pad inner) :=
          FrameStack.set?_pad inner before.frames name value
        rw [set]
        cases changed : before.frames.set? name value with
        | none => exact pads_fault (.undefinedVariable name) before deep
        | some after =>
            have confined := FrameStack.confined_set? changed fun w here => by
              obtain rfl : v = w := Option.some.inj (found.symm.trans here)
              exact Bool.not_eq_true _ ▸ constant
            refine ⟨?_, rfl⟩
            change inner ≤ after.depth
            rwa [confined.depth_eq]

/-- Calls of operations run on padded stacks as on plain ones. -/
def PadsCalls (invoke padded : Invoke) : Prop :=
  ∀ (inner : Nat) (op : Operation) (arguments : List Value),
    Pads inner (invoke op arguments) (padded op arguments)

variable {invoke padded : Invoke}

theorem pads_call (calls : PadsCalls invoke padded) (name : String) (arguments : List Value) :
    Pads inner (call setting invoke name arguments)
      (call (setting.stating statements) padded name arguments) := by
  have operations : (setting.stating statements).program.operation? name =
      setting.program.operation? name := rfl
  unfold call
  rw [operations]
  cases setting.program.operation? name with
  | some op => exact calls inner op arguments
  | none => exact (frameless_builtin setting name arguments).pads

mutual

theorem pads_expr (calls : PadsCalls invoke padded) (inner : Nat) :
    ∀ e : Expr, Pads inner (expr setting invoke e) (expr (setting.stating statements) padded e)
  | .integer value => by
      rw [expr, expr]
      exact pads_pure _
  | .real value => by
      rw [expr, expr]
      exact pads_pure _
  | .text value => by
      rw [expr, expr]
      exact pads_pure _
  | .boolean value => by
      rw [expr, expr]
      exact pads_pure _
  | .null => by
      rw [expr, expr]
      exact pads_pure _
  | .name name => by
      rw [expr, expr]
      exact pads_lookup name
  | .unary op operand => by
      rw [expr, expr]
      exact (pads_expr calls inner operand).bind fun value => (frameless_ofResult _).pads
  | .binary op left right => by
      have first := pads_expr calls inner left
      have second := pads_expr calls inner right
      have isTrue : Pads inner
          (do
            let holds ← asCondition (← expr setting invoke right)
            return Value.boolean holds)
          (do
            let holds ← asCondition (← expr (setting.stating statements) padded right)
            return Value.boolean holds) :=
        second.bind fun value => (frameless_asCondition value).pads.bind fun _ => pads_pure _
      by_cases isAnd : op = .and
      · subst isAnd
        rw [expr, expr]
        refine first.bind fun value => (frameless_asCondition value).pads.bind fun holds => ?_
        cases holds with
        | true => exact isTrue
        | false => exact pads_pure _
      by_cases isOr : op = .or
      · subst isOr
        rw [expr, expr]
        refine first.bind fun value => (frameless_asCondition value).pads.bind fun holds => ?_
        cases holds with
        | true => exact pads_pure _
        | false => exact isTrue
      · rw [expr, expr]
        · exact first.bind fun a => second.bind fun b => (frameless_ofResult _).pads
        all_goals assumption
  | .call name arguments => by
      rw [expr, expr]
      exact (pads_exprs calls inner arguments).bind fun values => pads_call calls name values

theorem pads_exprs (calls : PadsCalls invoke padded) (inner : Nat) :
    ∀ es : List Expr,
      Pads inner (exprs setting invoke es) (exprs (setting.stating statements) padded es)
  | [] => by
      rw [exprs, exprs]
      exact pads_pure _
  | e :: rest => by
      rw [exprs, exprs]
      exact (pads_expr calls inner e).bind fun value =>
        (pads_exprs calls inner rest).bind fun values => pads_pure _

end

theorem pads_condition (calls : PadsCalls invoke padded) (e : Expr) :
    Pads inner (condition setting invoke e) (condition (setting.stating statements) padded e) :=
  (pads_expr calls inner e).bind fun value => (frameless_asCondition value).pads

theorem pads_whileHolds {test paddedTest : Eval Bool} {body paddedBody : Eval Flow}
    (tests : Pads inner test paddedTest) (bodies : Pads inner body paddedBody) (turns : Nat) :
    Pads inner (whileHolds test body turns) (whileHolds paddedTest paddedBody turns) := by
  induction turns with
  | zero => exact fun before deep => ⟨deep, rfl⟩
  | succ turns ih =>
      rw [whileHolds, whileHolds]
      refine tests.bind fun holds => ?_
      cases holds with
      | true =>
          refine bodies.bind fun flow => ?_
          cases flow with
          | next => exact ih
          | returned value => exact pads_pure _
      | false => exact pads_pure _

mutual

/-- A statement may declare a variable, which must not come into the empty scope. -/
theorem pads_stmt (calls : PadsCalls invoke padded) (inner : Nat) :
    ∀ s : Stmt,
      Pads (inner + 1) (stmt setting invoke s) (stmt (setting.stating statements) padded s)
  | .var name none => by
      rw [stmt, stmt]
      exact (pads_declareLocal _).bind fun _ => pads_pure _
  | .var name (some e) => by
      rw [stmt, stmt]
      exact (pads_expr calls _ e).bind fun value =>
        (pads_declareLocal _).bind fun _ => pads_pure _
  | .assign name e => by
      rw [stmt, stmt]
      exact (pads_expr calls _ e).bind fun value =>
        (pads_assign name value).bind fun _ => pads_pure _
  | .ret none => by
      rw [stmt, stmt]
      exact pads_pure _
  | .ret (some e) => by
      rw [stmt, stmt]
      exact (pads_expr calls _ e).bind fun value => pads_pure _
  | .cond test yes no => by
      have inYes := (pads_block calls (inner + 1) yes).inScope
      have inNo := (pads_block calls (inner + 1) no).inScope
      rw [stmt, stmt]
      refine (pads_condition calls test).bind fun holds => ?_
      cases holds with
      | true => exact inYes
      | false => exact inNo
  | .loop test body => by
      have inBody := (pads_block calls (inner + 1) body).inScope
      rw [stmt, stmt]
      exact pads_whileHolds (pads_condition calls test) inBody _
  | .expr e => by
      rw [stmt, stmt]
      exact (pads_expr calls _ e).bind fun value => pads_pure _

theorem pads_block (calls : PadsCalls invoke padded) (inner : Nat) :
    ∀ body : List Stmt,
      Pads (inner + 1) (block setting invoke body) (block (setting.stating statements) padded body)
  | [] => by
      rw [block, block]
      exact pads_pure _
  | s :: rest => by
      have first := pads_stmt calls inner s
      have others := pads_block calls inner rest
      rw [block, block]
      refine first.bind fun flow => ?_
      cases flow with
      | next => exact others
      | returned value => exact pads_pure _

end

end Walk

/-- A call runs on a padded stack as on the plain one, whatever the statements of the program. The
induction is on how many calls may still become active. -/
theorem pads_invoke (setting : Setting) (statements : List Stmt) (room : Nat) :
    PadsCalls (Eval.invoke setting room) (Eval.invoke (setting.stating statements) room) := by
  induction room with
  | zero =>
      intro inner op arguments
      rw [Eval.invoke, Eval.invoke]
      split
      · exact pads_fault _
      · exact pads_fault _
  | succ room ih =>
      intro inner op arguments
      rw [Eval.invoke, Eval.invoke]
      split
      · exact pads_fault _
      · have body : Pads (inner + 1)
            (do
              declareAll (bindings op arguments)
              block setting (Eval.invoke setting room) op.body)
            (do
              declareAll (bindings op arguments)
              block (setting.stating statements) (Eval.invoke (setting.stating statements) room)
                op.body) :=
          (pads_declareAll _).bind fun _ => pads_block ih inner op.body
        exact body.inScope.bind fun flow => pads_pure _

end Eval
end Script
end StagedScript
