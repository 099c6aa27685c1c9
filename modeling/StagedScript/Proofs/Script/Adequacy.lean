import StagedScript.Proofs.Script.Interpreter

/-!
# The interpreter does what evaluations do

An evaluation walks over a program and is cut off when a loop has taken too many turns. The
interpreter takes one step at a time and is never cut off. Where an evaluation ends, the interpreter
ends in the same way; where it is cut off, the interpreter goes on for at least as many steps as the
loop had turns. Evaluations of programs without loops are not cut off.

**Results.** This is so for running a program (`Interpreter.follows_script`) and for calling an
operation (`Interpreter.follows_operation`).
-/

namespace StagedScript
namespace Script

/-! ## Programs without loops -/

mutual

/-- No loop occurs in a statement. -/
def Stmt.loopFree : Stmt → Bool
  | .var _ _ => true
  | .assign _ _ => true
  | .ret _ => true
  | .cond _ yes no => Stmt.allLoopFree yes && Stmt.allLoopFree no
  | .loop _ _ => false
  | .expr _ => true

/-- No loop occurs in statements. -/
def Stmt.allLoopFree : List Stmt → Bool
  | [] => true
  | s :: rest => Stmt.loopFree s && Stmt.allLoopFree rest

end

/-- No loop occurs in a program, neither in its operations nor among its statements. -/
def Program.loopFree (program : Program) : Bool :=
  (program.operations.all fun op => Stmt.allLoopFree op.body) &&
    Stmt.allLoopFree program.statements

/-- Parts of what is free of loops are so too. -/
theorem free_and {looping : Prop} {first second : Bool}
    (free : looping ∨ (first && second) = true) :
    (looping ∨ first = true) ∧ (looping ∨ second = true) := by
  rw [Bool.and_eq_true] at free
  exact or_and_left.1 free

/-! ## What takes one step ends -/

namespace Eval

variable {α β : Type}

/-- An error is passed on as it is. -/
theorem error_ne_unfinished {error : EngineError}
    (ended : (Except.error error : Except EngineError α) ≠ .error .unfinished) :
    (Except.error error : Except EngineError β) ≠ .error .unfinished :=
  fun cutOff => ended (congrArg Except.error (Except.error.inj cutOff))

/-- An evaluation that is not cut off. -/
def Settles (m : Eval α) : Prop :=
  ∀ before, (m.run.run before).1 ≠ .error .unfinished

theorem settles_pure (a : α) : (pure a : Eval α).Settles :=
  fun _ => nofun

theorem settles_fault (cause : RuntimeFault) : (fault cause : Eval α).Settles :=
  fun _ => nofun

theorem settles_modifyFrames (change : FrameStack → FrameStack) : (modifyFrames change).Settles :=
  fun _ => nofun

theorem Settles.bind {m : Eval α} {f : α → Eval β} (first : m.Settles)
    (next : ∀ a, (f a).Settles) : (m >>= f).Settles := by
  intro before
  have ended := first before
  rw [run_bind]
  generalize m.run.run before = ran at ended ⊢
  obtain ⟨error | a, after⟩ := ran
  · exact error_ne_unfinished ended
  · exact next a after

theorem settles_ofResult (result : Except RuntimeFault α) : (ofResult result).Settles := by
  cases result with
  | ok value => exact settles_pure value
  | error cause => exact settles_fault cause

theorem settles_asCondition (v : Value) : (asCondition v).Settles := by
  unfold asCondition
  split
  · exact settles_pure _
  · exact settles_fault _

theorem settles_lookup (setting : Setting) (name : String) : (lookup setting name).Settles := by
  intro before
  unfold lookup
  rw [run_get_bind]
  split
  · exact settles_pure _ before
  · split
    · exact settles_pure _ before
    · exact settles_fault _ before

theorem settles_assign (name : String) (value : Value) : (assign name value).Settles := by
  intro before
  unfold assign
  rw [run_get_bind]
  split
  · exact settles_fault _ before
  · split
    · exact settles_fault _ before
    · split
      · exact nofun
      · exact settles_fault _ before

theorem settles_emit (setting : Setting) (channel : Channel) (endLine : Bool)
    (values : List Value) : (emit setting channel endLine values).Settles := by
  intro before
  rw [run_emit]
  dsimp only
  rcases ((setting.stream channel).writeText (printed endLine values) before.sinks).1 with _ | _
  · exact nofun
  · exact nofun

theorem settles_builtin (setting : Setting) (name : String) (arguments : List Value) :
    (builtin setting name arguments).Settles := by
  unfold builtin
  split
  · exact settles_emit _ _ _ _
  · exact settles_emit _ _ _ _
  · exact settles_emit _ _ _ _
  · exact settles_emit _ _ _ _
  · unfold size
    split
    · exact settles_pure _
    · exact settles_pure _
    · exact settles_fault _
    · exact settles_fault _
  · unfold contents
    split
    · exact settles_pure _
    · exact settles_fault _
  · unfold native
    split
    next type rest =>
      split
      next => exact settles_fault _
      next delegate _ =>
        intro before
        rw [run_get_bind, run_set_bind]
        split
        · exact settles_pure _ _
        · exact settles_fault _ _
    next => exact settles_fault _
  · exact settles_fault _

theorem settles_declareAll (news : List Variable) : (declareAll news).Settles := by
  induction news with
  | nil => exact settles_pure ()
  | cons new rest ih => exact (settles_modifyFrames _).bind fun _ => ih

end Eval

/-! ## Steps -/

namespace Interpreter

open Eval

variable {setting : Setting} {state later last : Interpreter}

theorem Steps.trans {m n : Nat} (first : Steps setting m state later)
    (second : Steps setting n later last) : Steps setting (m + n) state last := by
  induction first with
  | zero => rwa [Nat.zero_add]
  | succ stepped _ ih =>
      rw [Nat.succ_add]
      exact .succ stepped (ih second)

theorem Reaches.refl (state : Interpreter) : Reaches setting state state :=
  ⟨0, .zero state⟩

theorem Reaches.trans (first : Reaches setting state later)
    (second : Reaches setting later last) : Reaches setting state last := by
  obtain ⟨m, steps⟩ := first
  obtain ⟨n, more⟩ := second
  exact ⟨m + n, steps.trans more⟩

theorem reaches_step (stepped : step setting state = some later) :
    Reaches setting state later :=
  ⟨1, .succ stepped (.zero later)⟩

/-- An interpreter that can take a number of steps. -/
def Lasts (setting : Setting) (n : Nat) (state : Interpreter) : Prop :=
  ∃ later, Steps setting n state later

theorem Lasts.of_le {m n : Nat} (lasts : Lasts setting n state) (le : m ≤ n) :
    Lasts setting m state := by
  obtain ⟨last, steps⟩ := lasts
  induction steps generalizing m with
  | zero state => exact ⟨state, Nat.le_zero.1 le ▸ .zero state⟩
  | @succ n state later last stepped steps ih =>
      cases m with
      | zero => exact ⟨state, .zero state⟩
      | succ m =>
          obtain ⟨last, steps⟩ := ih (Nat.le_of_succ_le_succ le)
          exact ⟨last, .succ stepped steps⟩

theorem Lasts.of_step {n : Nat} (stepped : step setting state = some later)
    (lasts : Lasts setting n later) : Lasts setting (n + 1) state := by
  obtain ⟨last, steps⟩ := lasts
  exact ⟨last, .succ stepped steps⟩

theorem Lasts.of_reaches {n : Nat} (reaches : Reaches setting state later)
    (lasts : Lasts setting n later) : Lasts setting n state := by
  obtain ⟨m, steps⟩ := reaches
  obtain ⟨last, more⟩ := lasts
  exact Lasts.of_le ⟨last, steps.trans more⟩ (Nat.le_add_left n m)

/-! ## Following an evaluation -/

variable {α β : Type} {looping : Prop} {limit depth : Nat} {phrase : Phrase}

/-- An interpreter comes to what an evaluation came to, with the result in focus and what is left to
do afterwards. Only where loops may occur can the evaluation be cut off, and then the interpreter
takes as many steps as the limit says. -/
inductive Follows (setting : Setting) (looping : Prop) (limit : Nat) (finish : α → Focus phrase)
    (pending : Pending phrase) (depth : Nat) (state : Interpreter) :
    Except EngineError α × Scratch → Prop
  | ends {outcome : Except EngineError α} {after : Scratch} :
      outcome ≠ .error .unfinished →
      Reaches setting state ⟨.outcome finish outcome, pending, depth, after⟩ →
      Follows setting looping limit finish pending depth state (outcome, after)
  | lasts {after : Scratch} : looping → Lasts setting limit state →
      Follows setting looping limit finish pending depth state (.error .unfinished, after)

section Follows

variable {finish : α → Focus phrase} {pending : Pending phrase}
  {ran : Except EngineError α × Scratch}

theorem Follows.of_reaches (reaches : Reaches setting state later)
    (follows : Follows setting looping limit finish pending depth later ran) :
    Follows setting looping limit finish pending depth state ran := by
  cases follows with
  | ends ended more => exact .ends ended (reaches.trans more)
  | lasts mayLoop lasts => exact .lasts mayLoop (lasts.of_reaches reaches)

theorem Follows.of_step (stepped : step setting state = some later)
    (follows : Follows setting looping limit finish pending depth later ran) :
    Follows setting looping limit finish pending depth state ran :=
  follows.of_reaches (reaches_step stepped)

/-- A step more, where the steps are counted. -/
theorem Follows.succ (stepped : step setting state = some later)
    (follows : Follows setting looping limit finish pending depth later ran) :
    Follows setting looping (limit + 1) finish pending depth state ran := by
  cases follows with
  | ends ended more => exact .ends ended ((reaches_step stepped).trans more)
  | lasts mayLoop lasts => exact .lasts mayLoop (lasts.of_step stepped)

theorem Follows.of_le {least : Nat} (le : least ≤ limit)
    (follows : Follows setting looping limit finish pending depth state ran) :
    Follows setting looping least finish pending depth state ran := by
  cases follows with
  | ends ended reaches => exact .ends ended reaches
  | lasts mayLoop lasts => exact .lasts mayLoop (lasts.of_le le)

theorem follows_pure (a : α) (scratch : Scratch) :
    Follows setting looping limit finish pending depth ⟨finish a, pending, depth, scratch⟩
      ((pure a : Eval α).run.run scratch) :=
  .ends nofun (.refl _)

theorem follows_fault (cause : RuntimeFault) (scratch : Scratch) :
    Follows setting looping limit finish pending depth
      ⟨.failed (.runtime cause), pending, depth, scratch⟩
      ((fault cause : Eval α).run.run scratch) :=
  .ends nofun (.refl _)

end Follows

section Follows

variable {inner outer : Phrase} {finish : α → Focus inner} {finishNext : β → Focus outer}
  {pending : Pending inner} {next : Pending outer} {before : Scratch}

/-- What is left to do waits for the first evaluation and goes on with its value. -/
theorem Follows.bind {m : Eval α} {f : α → Eval β}
    (first : Follows setting looping limit finish pending depth state (m.run.run before))
    (unwinds : ∀ error after, step setting ⟨.failed error, pending, depth, after⟩ =
      some ⟨.failed error, next, depth, after⟩)
    (goesOn : ∀ a after, Follows setting looping limit finishNext next depth
      ⟨finish a, pending, depth, after⟩ ((f a).run.run after)) :
    Follows setting looping limit finishNext next depth state ((m >>= f).run.run before) := by
  rw [run_bind]
  generalize m.run.run before = ran at first ⊢
  cases first with
  | @ends outcome after ended reaches =>
      cases outcome with
      | ok a => exact (goesOn a after).of_reaches reaches
      | error error =>
          have unwound := reaches_step (unwinds error after)
          exact .ends (error_ne_unfinished ended) (reaches.trans unwound)
  | lasts mayLoop lasts => exact .lasts mayLoop lasts

/-- What takes one step is carried out, and the interpreter goes on with its value. -/
theorem follows_performed {m : Eval α} {f : α → Eval β} {goOn : α → Scratch → Interpreter}
    (settles : m.Settles)
    (goesOn : ∀ a after, Follows setting looping limit finishNext next depth (goOn a after)
      ((f a).run.run after)) :
    Follows setting looping limit finishNext next depth (perform m next depth before goOn)
      ((m >>= f).run.run before) := by
  have ended := settles before
  rw [run_bind, perform]
  generalize m.run.run before = ran at ended ⊢
  obtain ⟨error | a, after⟩ := ran
  · exact .ends (error_ne_unfinished ended) (.refl _)
  · exact goesOn a after

theorem follows_perform_bind {m : Eval α} {f : α → Eval β} {goOn : α → Scratch → Interpreter}
    (settles : m.Settles)
    (stepped : step setting state = some (perform m next depth before goOn))
    (goesOn : ∀ a after, Follows setting looping limit finishNext next depth (goOn a after)
      ((f a).run.run after)) :
    Follows setting looping limit finishNext next depth state ((m >>= f).run.run before) :=
  .of_step stepped (follows_performed settles goesOn)

theorem follows_perform {m : Eval β} (settles : m.Settles)
    (stepped : step setting state = some (perform m next depth before fun b after =>
      ⟨finishNext b, next, depth, after⟩)) :
    Follows setting looping limit finishNext next depth state (m.run.run before) := by
  have follows : Follows setting looping limit finishNext next depth state
      ((m >>= pure).run.run before) :=
    follows_perform_bind settles stepped fun b after => follows_pure b after
  rwa [bind_pure] at follows

/-- A scope is left, and what waits for its result goes on. -/
theorem Follows.leave {body : Eval Flow} {entry : Pending .statement} {inside : Nat}
    {value : Flow → β}
    (first : Follows setting looping limit Focus.flow entry inside state
      (body.run.run before.enterLocal))
    (leaves : ∀ outcome after,
      step setting ⟨.outcome .flow outcome, entry, inside, after⟩ =
        some ⟨.outcome finishNext (outcome.map value), next, depth, after.leaveLocal⟩) :
    Follows setting looping limit finishNext next depth state
      ((inScope body >>= fun flow => pure (value flow)).run.run before) := by
  have closed : (inScope body).run.run before =
      ((body.run.run before.enterLocal).1, (body.run.run before.enterLocal).2.leaveLocal) := rfl
  rw [run_bind, closed]
  generalize body.run.run before.enterLocal = ran at first ⊢
  cases first with
  | @ends outcome after ended reaches =>
      have left := reaches.trans (reaches_step (leaves outcome after))
      cases outcome with
      | ok flow => exact .ends nofun left
      | error error => exact .ends (error_ne_unfinished ended) left
  | lasts mayLoop lasts => exact .lasts mayLoop lasts

theorem Follows.leaveScope {body : Eval Flow} {next : Pending .statement}
    (first : Follows setting looping limit Focus.flow (.scope next) depth state
      (body.run.run before.enterLocal)) :
    Follows setting looping limit Focus.flow next depth state
      ((inScope body).run.run before) := by
  have follows : Follows setting looping limit Focus.flow next depth state
      ((inScope body >>= fun flow => pure (id flow)).run.run before) :=
    first.leave fun outcome after => by cases outcome <;> rfl
  have asIs : (fun flow : Flow => (pure (id flow) : Eval Flow)) = pure := rfl
  rwa [asIs, bind_pure] at follows

end Follows

/-! ## The walk over a program -/

/-- Interpreters do what calls of operations do. -/
def FollowsCalls (setting : Setting) (looping : Prop) (invoke : Invoke) (depth : Nat) : Prop :=
  ∀ op ∈ setting.program.operations, ∀ arguments pending scratch,
    Follows setting looping setting.turns Focus.value pending depth
      (Interpreter.invoke op arguments pending depth scratch)
      ((invoke op arguments).run.run scratch)

section Walk

variable {invoke : Invoke}

theorem follows_call (calls : FollowsCalls setting looping invoke depth) (name : String)
    (arguments : List Value) (pending : Pending .expression) (scratch : Scratch) :
    Follows setting looping setting.turns Focus.value pending depth
      ⟨.arguments name arguments [], pending, depth, scratch⟩
      ((Eval.call setting invoke name arguments).run.run scratch) := by
  have stepped : step setting ⟨.arguments name arguments [], pending, depth, scratch⟩ =
      some (Interpreter.call setting name arguments pending depth scratch) := rfl
  unfold Interpreter.call at stepped
  unfold Eval.call
  cases found : setting.program.operation? name with
  | some op =>
      rw [found] at stepped
      exact .of_step stepped (calls op (List.mem_of_find?_eq_some found) arguments pending scratch)
  | none =>
      rw [found] at stepped
      exact follows_perform (settles_builtin setting name arguments) stepped

mutual

theorem follows_expr (calls : FollowsCalls setting looping invoke depth) :
    ∀ (e : Expr) (pending : Pending .expression) (scratch : Scratch),
      Follows setting looping setting.turns Focus.value pending depth
        ⟨.expr e, pending, depth, scratch⟩ ((expr setting invoke e).run.run scratch)
  | .integer value, pending, scratch => by
      rw [expr]
      exact .of_step rfl (follows_pure (Value.integer value) scratch)
  | .real value, pending, scratch => by
      rw [expr]
      exact .of_step rfl (follows_pure (Value.real value) scratch)
  | .text value, pending, scratch => by
      rw [expr]
      exact .of_step rfl (follows_pure (Value.text value) scratch)
  | .boolean value, pending, scratch => by
      rw [expr]
      exact .of_step rfl (follows_pure (Value.boolean value) scratch)
  | .null, pending, scratch => by
      rw [expr]
      exact .of_step rfl (follows_pure Value.null scratch)
  | .name name, pending, scratch => by
      rw [expr]
      exact follows_perform (settles_lookup setting name) rfl
  | .unary op operand, pending, scratch => by
      have first := follows_expr calls operand (.unary op pending) scratch
      rw [expr]
      exact (first.of_step rfl).bind (fun _ _ => rfl) fun v after =>
        follows_perform (settles_ofResult _) rfl
  | .binary op left right, pending, scratch => by
      have isTrue (after : Scratch) : Follows setting looping setting.turns Focus.value pending
          depth ⟨.expr right, .holds pending, depth, after⟩
          ((do
            let holds ← asCondition (← expr setting invoke right)
            return Value.boolean holds : Eval Value).run.run after) :=
        (follows_expr calls right (.holds pending) after).bind (fun _ _ => rfl) fun v after =>
          follows_perform_bind (settles_asCondition v) rfl fun holds after =>
            follows_pure (Value.boolean holds) after
      by_cases isAnd : op = .and
      · subst isAnd
        have first := follows_expr calls left (.both right pending) scratch
        rw [expr]
        refine (first.of_step rfl).bind (fun _ _ => rfl) fun v after =>
          follows_perform_bind (settles_asCondition v) rfl fun holds after => ?_
        cases holds with
        | true => exact isTrue after
        | false => exact follows_pure (Value.boolean false) after
      by_cases isOr : op = .or
      · subst isOr
        have first := follows_expr calls left (.either right pending) scratch
        rw [expr]
        refine (first.of_step rfl).bind (fun _ _ => rfl) fun v after =>
          follows_perform_bind (settles_asCondition v) rfl fun holds after => ?_
        cases holds with
        | true => exact follows_pure (Value.boolean true) after
        | false => exact isTrue after
      · have first := follows_expr calls left (.left op right pending) scratch
        have stepped : step setting ⟨.expr (.binary op left right), pending, depth, scratch⟩ =
            some ⟨.expr left, .left op right pending, depth, scratch⟩ := by
          cases op <;> first | rfl | contradiction
        rw [expr]
        · refine (first.of_step stepped).bind (fun _ _ => rfl) fun a after => ?_
          have second := follows_expr calls right (.right op a pending) after
          exact (second.of_step rfl).bind (fun _ _ => rfl) fun b after =>
            follows_perform (settles_ofResult _) rfl
        · exact isAnd
        · exact isOr
  | .call name arguments, pending, scratch => by
      have follows := follows_arguments calls arguments name [] pending scratch
      rw [expr]
      exact follows.of_step rfl

/-- The arguments of a call are evaluated one after the other, and then the call is carried out. -/
theorem follows_arguments (calls : FollowsCalls setting looping invoke depth) :
    ∀ (es : List Expr) (name : String) (done : List Value) (pending : Pending .expression)
      (scratch : Scratch),
      Follows setting looping setting.turns Focus.value pending depth
        ⟨.arguments name done es, pending, depth, scratch⟩
        ((exprs setting invoke es >>= fun values =>
          Eval.call setting invoke name (done ++ values)).run.run scratch)
  | [], name, done, pending, scratch => by
      rw [exprs, pure_bind, List.append_nil]
      exact follows_call calls name done pending scratch
  | e :: rest, name, done, pending, scratch => by
      have first := follows_expr calls e (.argument name done rest pending) scratch
      rw [exprs, bind_assoc]
      refine (first.of_step rfl).bind (fun _ _ => rfl) fun v after => ?_
      have others := follows_arguments calls rest name (done ++ [v]) pending after
      have same : ((do
            let values ← exprs setting invoke rest
            return v :: values) >>= fun values =>
          Eval.call setting invoke name (done ++ values)) =
          exprs setting invoke rest >>= fun values =>
            Eval.call setting invoke name ((done ++ [v]) ++ values) := by
        simp only [bind_assoc, pure_bind, List.append_assoc, List.singleton_append]
      rw [same]
      exact others.of_step rfl

end

/-- A loop turns as often as its test holds. It may be cut off after a number of turns, each of
which takes at least one step. -/
theorem follows_whileHolds {test : Expr} {body : List Stmt} (next : Pending .statement)
    (mayLoop : looping)
    (tests : ∀ pending scratch, Follows setting looping setting.turns Focus.value pending depth
      ⟨.expr test, pending, depth, scratch⟩ ((expr setting invoke test).run.run scratch))
    (bodies : ∀ pending scratch, Follows setting looping setting.turns Focus.flow pending depth
      ⟨.block body, pending, depth, scratch⟩ ((block setting invoke body).run.run scratch))
    {turns : Nat} (le : turns ≤ setting.turns) (scratch : Scratch) :
    Follows setting looping turns Focus.flow next depth
      ⟨.expr test, .turn test body next, depth, scratch⟩
      ((whileHolds (condition setting invoke test) (inScope (block setting invoke body))
        turns).run.run scratch) := by
  induction turns generalizing scratch with
  | zero => exact .lasts mayLoop ⟨_, .zero _⟩
  | succ turns ih =>
      have tested := (tests (.turn test body next) scratch).of_le le
      rw [whileHolds, condition, bind_assoc]
      refine tested.bind (fun _ _ => rfl) fun v after =>
        follows_perform_bind (settles_asCondition v) rfl fun holds after => ?_
      cases holds with
      | false => exact follows_pure Flow.next after
      | true =>
          have turned := (bodies (.scope (.again test body next)) after.enterLocal).of_le le
          refine turned.leaveScope.bind (fun _ _ => rfl) fun flow after => ?_
          cases flow with
          | next => exact (ih (Nat.le_of_succ_le le) after).succ rfl
          | returned v => exact .of_step rfl (follows_pure (Flow.returned v) after)

mutual

theorem follows_stmt (calls : FollowsCalls setting looping invoke depth) :
    ∀ (s : Stmt), looping ∨ s.loopFree = true → ∀ (pending : Pending .statement)
      (scratch : Scratch),
      Follows setting looping setting.turns Focus.flow pending depth
        ⟨.stmt s, pending, depth, scratch⟩ ((stmt setting invoke s).run.run scratch)
  | .var name none, _, pending, scratch => by
      rw [stmt]
      exact follows_perform_bind (settles_modifyFrames _) rfl fun _ after =>
        follows_pure Flow.next after
  | .var name (some e), _, pending, scratch => by
      have first := follows_expr calls e (.declare name pending) scratch
      rw [stmt]
      exact (first.of_step rfl).bind (fun _ _ => rfl) fun v after =>
        follows_perform_bind (settles_modifyFrames _) rfl fun _ after =>
          follows_pure Flow.next after
  | .assign name e, _, pending, scratch => by
      have first := follows_expr calls e (.assign name pending) scratch
      rw [stmt]
      exact (first.of_step rfl).bind (fun _ _ => rfl) fun v after =>
        follows_perform_bind (settles_assign name v) rfl fun _ after =>
          follows_pure Flow.next after
  | .ret none, _, pending, scratch => by
      rw [stmt]
      exact .of_step rfl (follows_pure (Flow.returned .null) scratch)
  | .ret (some e), _, pending, scratch => by
      have first := follows_expr calls e (.ret pending) scratch
      rw [stmt]
      exact (first.of_step rfl).bind (fun _ _ => rfl) fun v after =>
        .of_step rfl (follows_pure (Flow.returned v) after)
  | .cond test yes no, free, pending, scratch => by
      have first := follows_expr calls test (.branch yes no pending) scratch
      obtain ⟨freeYes, freeNo⟩ := free_and free
      rw [stmt, condition, bind_assoc]
      refine (first.of_step rfl).bind (fun _ _ => rfl) fun v after =>
        follows_perform_bind (settles_asCondition v) rfl fun holds after => ?_
      cases holds with
      | true =>
          have inYes := follows_block calls yes freeYes (.scope pending) after.enterLocal
          exact inYes.leaveScope
      | false =>
          have inNo := follows_block calls no freeNo (.scope pending) after.enterLocal
          exact inNo.leaveScope
  | .loop test body, free, pending, scratch => by
      have mayLoop : looping := free.resolve_right Bool.false_ne_true
      have loops := follows_whileHolds pending mayLoop (follows_expr calls test)
        (follows_block calls body (.inl mayLoop)) (Nat.le_refl setting.turns) scratch
      rw [stmt]
      exact .of_step rfl loops
  | .expr e, _, pending, scratch => by
      have first := follows_expr calls e (.discard pending) scratch
      rw [stmt]
      exact (first.of_step rfl).bind (fun _ _ => rfl) fun v after =>
        .of_step rfl (follows_pure Flow.next after)

theorem follows_block (calls : FollowsCalls setting looping invoke depth) :
    ∀ (body : List Stmt), looping ∨ Stmt.allLoopFree body = true →
      ∀ (pending : Pending .statement) (scratch : Scratch),
      Follows setting looping setting.turns Focus.flow pending depth
        ⟨.block body, pending, depth, scratch⟩ ((block setting invoke body).run.run scratch)
  | [], _, pending, scratch => by
      rw [block]
      exact .of_step rfl (follows_pure Flow.next scratch)
  | s :: rest, free, pending, scratch => by
      obtain ⟨freeFirst, freeRest⟩ := free_and free
      have first := follows_stmt calls s freeFirst (.rest rest pending) scratch
      rw [block]
      refine (first.of_step rfl).bind (fun _ _ => rfl) fun flow after => ?_
      cases flow with
      | next =>
          have others := follows_block calls rest freeRest pending after
          exact others.of_step rfl
      | returned v => exact .of_step rfl (follows_pure (Flow.returned v) after)

end

end Walk

/-- The count of an interpreter and the room of an evaluation make up the bound on active calls. -/
theorem follows_invoke
    (free : looping ∨ ∀ op ∈ setting.program.operations, Stmt.allLoopFree op.body = true)
    {room depth : Nat} (counted : depth + room = maxCallDepth) :
    FollowsCalls setting looping (Eval.invoke setting room) depth := by
  induction room generalizing depth with
  | zero =>
      intro op mem arguments pending scratch
      have full : maxCallDepth ≤ depth := Nat.le_of_eq counted.symm
      rw [Eval.invoke, Interpreter.invoke]
      by_cases unfit : arguments.length ≠ op.params.length
      · rw [if_pos unfit, if_pos unfit]
        exact follows_fault _ scratch
      · rw [if_neg unfit, if_neg unfit, if_pos full]
        exact follows_fault _ scratch
  | succ room ih =>
      intro op mem arguments pending scratch
      have notFull : ¬maxCallDepth ≤ depth := by omega
      have within : depth + 1 + room = maxCallDepth := by omega
      have calls := ih within
      have body := follows_block calls op.body (free.imp_right fun free => free op mem)
        (.call pending)
      rw [Eval.invoke, Interpreter.invoke]
      by_cases unfit : arguments.length ≠ op.params.length
      · rw [if_pos unfit, if_pos unfit]
        exact follows_fault _ scratch
      · rw [if_neg unfit, if_neg unfit, if_neg notFull]
        have entered : Follows setting looping setting.turns Focus.flow (.call pending) (depth + 1)
            (perform (declareAll (bindings op arguments)) (.call pending) (depth + 1)
              scratch.enterLocal fun _ after => ⟨.block op.body, .call pending, depth + 1, after⟩)
            ((do
              declareAll (bindings op arguments)
              block setting (Eval.invoke setting room) op.body : Eval Flow).run.run
                scratch.enterLocal) :=
          follows_performed (settles_declareAll _) fun _ after => body after
        exact entered.leave fun outcome after => by cases outcome <;> rfl

/-- An interpreter that is about to run a program does what an evaluation of the program does. -/
theorem follows_script (free : looping ∨ setting.program.loopFree = true) (scratch : Scratch) :
    Follows setting looping setting.turns Focus.value .done 0 (ofScript setting scratch)
      ((Eval.script setting).run.run scratch) := by
  obtain ⟨freeOperations, freeStatements⟩ := free_and free
  have calls := follows_invoke (freeOperations.imp_right List.all_eq_true.1)
    (Nat.zero_add maxCallDepth)
  have body := follows_block calls setting.program.statements freeStatements (.script .done)
    scratch.enterLocal
  exact body.leave fun outcome after => by cases outcome <;> rfl

/-- An interpreter that is about to call an operation does what an evaluation of the call does. -/
theorem follows_operation (free : looping ∨ setting.program.loopFree = true) (name : String)
    (arguments : List Value) (scratch : Scratch) :
    Follows setting looping setting.turns Focus.value .done 0
      (ofOperation setting name arguments scratch)
      ((Eval.operation setting name arguments).run.run scratch) := by
  have calls := follows_invoke ((free_and free).1.imp_right List.all_eq_true.1)
    (Nat.zero_add maxCallDepth)
  unfold ofOperation Eval.operation
  cases found : setting.program.operation? name with
  | some op => exact calls op (List.mem_of_find?_eq_some found) arguments .done scratch
  | none => exact follows_fault _ scratch

end Interpreter
end Script
end StagedScript
