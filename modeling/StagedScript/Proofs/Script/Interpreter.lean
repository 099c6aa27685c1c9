import StagedScript.Proofs.Script.Transcript

/-!
# An interpreter that runs programs

An interpreter evaluates programs one step at a time. It has a part of the program in focus,
remembers what is left to do with the result, counts the calls of operations that are active, and
keeps what the program changes. The count goes up when the body of an operation is entered and down
when it is left, by a value or by an error; a call is refused when the count has reached its bound.
Nothing limits how often a loop may turn, and so the interpreter need not come to an end.

What is left to do is a stack, whose entries wait for the value of an expression or for the way in
which statements end. An error takes off one entry after the other and closes the scopes that they
opened.

**Results.** The count is always the number of active calls, which are never more than
`maxCallDepth` (`Interpreter.counted_of_reaches`).
-/

namespace StagedScript
namespace Script

/-- Parts of a program: expressions come to a value, statements to a flow. -/
inductive Phrase where
  | expression
  | statement

/-- What an interpreter works on. -/
inductive Focus : Phrase → Type
  | expr (e : Expr) : Focus .expression
  /-- A call with the values of its first arguments and the expressions of the others. -/
  | arguments (name : String) (done : List Value) (rest : List Expr) : Focus .expression
  | value (v : Value) : Focus .expression
  | stmt (s : Stmt) : Focus .statement
  | block (body : List Stmt) : Focus .statement
  | flow (flow : Flow) : Focus .statement
  | failed {phrase : Phrase} (error : EngineError) : Focus phrase

namespace Focus

/-- What an evaluation came to, in focus. -/
def outcome (finish : α → Focus phrase) : Except EngineError α → Focus phrase
  | .ok a => finish a
  | .error error => .failed error

end Focus

/-- What is left to do with the result of a part of a program. -/
inductive Pending : Phrase → Type
  | done : Pending .expression
  | unary (op : UnaryOp) (next : Pending .expression) : Pending .expression
  /-- The right operand of an `and`, unless the left one is false. -/
  | both (right : Expr) (next : Pending .expression) : Pending .expression
  /-- The right operand of an `or`, unless the left one is true. -/
  | either (right : Expr) (next : Pending .expression) : Pending .expression
  /-- The right operand of an `and` or an `or` must be a condition too. -/
  | holds (next : Pending .expression) : Pending .expression
  | left (op : BinaryOp) (right : Expr) (next : Pending .expression) : Pending .expression
  | right (op : BinaryOp) (left : Value) (next : Pending .expression) : Pending .expression
  | argument (name : String) (done : List Value) (rest : List Expr) (next : Pending .expression) :
      Pending .expression
  | declare (name : String) (next : Pending .statement) : Pending .expression
  | assign (name : String) (next : Pending .statement) : Pending .expression
  | ret (next : Pending .statement) : Pending .expression
  | discard (next : Pending .statement) : Pending .expression
  | branch (yes no : List Stmt) (next : Pending .statement) : Pending .expression
  /-- The test of a loop. -/
  | turn (test : Expr) (body : List Stmt) (next : Pending .statement) : Pending .expression
  /-- The body of a loop. -/
  | again (test : Expr) (body : List Stmt) (next : Pending .statement) : Pending .statement
  | rest (body : List Stmt) (next : Pending .statement) : Pending .statement
  /-- A block in a scope of its own. -/
  | scope (next : Pending .statement) : Pending .statement
  /-- The body of an operation that was called. -/
  | call (next : Pending .expression) : Pending .statement
  /-- The statements of the program. -/
  | script (next : Pending .expression) : Pending .statement

namespace Pending

/-- How many calls of operations are active. -/
def calls : Pending phrase → Nat
  | .done => 0
  | .unary _ next => next.calls
  | .both _ next => next.calls
  | .either _ next => next.calls
  | .holds next => next.calls
  | .left _ _ next => next.calls
  | .right _ _ next => next.calls
  | .argument _ _ _ next => next.calls
  | .declare _ next => next.calls
  | .assign _ next => next.calls
  | .ret next => next.calls
  | .discard next => next.calls
  | .branch _ _ next => next.calls
  | .turn _ _ next => next.calls
  | .again _ _ next => next.calls
  | .rest _ next => next.calls
  | .scope next => next.calls
  | .call next => next.calls + 1
  | .script next => next.calls

end Pending

namespace Scratch

def enterLocal (scratch : Scratch) : Scratch :=
  { scratch with frames := scratch.frames.enterLocal }

def leaveLocal (scratch : Scratch) : Scratch :=
  { scratch with frames := scratch.frames.leaveLocal }

end Scratch

structure Interpreter where
  {phrase : Phrase}
  focus : Focus phrase
  pending : Pending phrase
  /-- The count of active calls. -/
  depth : Nat
  scratch : Scratch

namespace Interpreter

/-- Carry out what takes one step, and go on with its value. -/
def perform {phrase : Phrase} (m : Eval α) (pending : Pending phrase) (depth : Nat)
    (scratch : Scratch) (next : α → Scratch → Interpreter) : Interpreter :=
  match m.run.run scratch with
  | (.ok a, after) => next a after
  | (.error error, after) => ⟨.failed error, pending, depth, after⟩

/-- Enter the body of an operation, if the arguments fit and one more call may be active. -/
def invoke (op : Operation) (arguments : List Value) (pending : Pending .expression) (depth : Nat)
    (scratch : Scratch) : Interpreter :=
  if arguments.length ≠ op.params.length then
    ⟨.failed (.runtime (.argumentCount op.name op.params.length arguments.length)), pending, depth,
      scratch⟩
  else if maxCallDepth ≤ depth then
    ⟨.failed (.runtime (.callDepth op.name)), pending, depth, scratch⟩
  else
    perform (Eval.declareAll (Eval.bindings op arguments)) (.call pending) (depth + 1)
      scratch.enterLocal fun _ after => ⟨.block op.body, .call pending, depth + 1, after⟩

variable (setting : Setting)

def call (name : String) (arguments : List Value) (pending : Pending .expression) (depth : Nat)
    (scratch : Scratch) : Interpreter :=
  match setting.program.operation? name with
  | some op => invoke op arguments pending depth scratch
  | none =>
      perform (Eval.builtin setting name arguments) pending depth scratch fun v after =>
        ⟨.value v, pending, depth, after⟩

/-- Go into an expression. -/
def enterExpr (e : Expr) (pending : Pending .expression) (depth : Nat) (scratch : Scratch) :
    Interpreter :=
  match e with
  | .integer value => ⟨.value (.integer value), pending, depth, scratch⟩
  | .real value => ⟨.value (.real value), pending, depth, scratch⟩
  | .text value => ⟨.value (.text value), pending, depth, scratch⟩
  | .boolean value => ⟨.value (.boolean value), pending, depth, scratch⟩
  | .null => ⟨.value .null, pending, depth, scratch⟩
  | .name name =>
      perform (Eval.lookup setting name) pending depth scratch fun v after =>
        ⟨.value v, pending, depth, after⟩
  | .unary op operand => ⟨.expr operand, .unary op pending, depth, scratch⟩
  | .binary .and left right => ⟨.expr left, .both right pending, depth, scratch⟩
  | .binary .or left right => ⟨.expr left, .either right pending, depth, scratch⟩
  | .binary op left right => ⟨.expr left, .left op right pending, depth, scratch⟩
  | .call name arguments => ⟨.arguments name [] arguments, pending, depth, scratch⟩

/-- Go into a statement. -/
def enterStmt (s : Stmt) (pending : Pending .statement) (depth : Nat) (scratch : Scratch) :
    Interpreter :=
  match s with
  | .var name none =>
      perform (Eval.modifyFrames fun frames => frames.declareLocal (.mutable name .null)) pending
        depth scratch fun _ after => ⟨.flow .next, pending, depth, after⟩
  | .var name (some e) => ⟨.expr e, .declare name pending, depth, scratch⟩
  | .assign name e => ⟨.expr e, .assign name pending, depth, scratch⟩
  | .ret none => ⟨.flow (.returned .null), pending, depth, scratch⟩
  | .ret (some e) => ⟨.expr e, .ret pending, depth, scratch⟩
  | .cond test yes no => ⟨.expr test, .branch yes no pending, depth, scratch⟩
  | .loop test body => ⟨.expr test, .turn test body pending, depth, scratch⟩
  | .expr e => ⟨.expr e, .discard pending, depth, scratch⟩

/-- Go on with the value of an expression, unless nothing is left to do. -/
def resume (v : Value) (pending : Pending .expression) (depth : Nat) (scratch : Scratch) :
    Option Interpreter :=
  match pending with
  | .done => none
  | .unary op next =>
      perform (Eval.ofResult (unaryOp op v)) next depth scratch fun result after =>
        ⟨.value result, next, depth, after⟩
  | .both right next =>
      perform (Eval.asCondition v) next depth scratch fun holds after =>
        if holds then ⟨.expr right, .holds next, depth, after⟩
        else ⟨.value (.boolean false), next, depth, after⟩
  | .either right next =>
      perform (Eval.asCondition v) next depth scratch fun holds after =>
        if holds then ⟨.value (.boolean true), next, depth, after⟩
        else ⟨.expr right, .holds next, depth, after⟩
  | .holds next =>
      perform (Eval.asCondition v) next depth scratch fun holds after =>
        ⟨.value (.boolean holds), next, depth, after⟩
  | .left op right next => some ⟨.expr right, .right op v next, depth, scratch⟩
  | .right op left next =>
      perform (Eval.ofResult (binaryOp op left v)) next depth scratch fun result after =>
        ⟨.value result, next, depth, after⟩
  | .argument name done rest next =>
      some ⟨.arguments name (done ++ [v]) rest, next, depth, scratch⟩
  | .declare name next =>
      perform (Eval.modifyFrames fun frames => frames.declareLocal (.mutable name v)) next depth
        scratch fun _ after => ⟨.flow .next, next, depth, after⟩
  | .assign name next =>
      perform (Eval.assign name v) next depth scratch fun _ after =>
        ⟨.flow .next, next, depth, after⟩
  | .ret next => some ⟨.flow (.returned v), next, depth, scratch⟩
  | .discard next => some ⟨.flow .next, next, depth, scratch⟩
  | .branch yes no next =>
      perform (Eval.asCondition v) next depth scratch fun holds after =>
        ⟨.block (if holds then yes else no), .scope next, depth, after.enterLocal⟩
  | .turn test body next =>
      perform (Eval.asCondition v) next depth scratch fun holds after =>
        if holds then ⟨.block body, .scope (.again test body next), depth, after.enterLocal⟩
        else ⟨.flow .next, next, depth, after⟩

/-- Go on after statements. -/
def proceed (flow : Flow) (pending : Pending .statement) (depth : Nat) (scratch : Scratch) :
    Interpreter :=
  match pending with
  | .again test body next =>
      match flow with
      | .returned v => ⟨.flow (.returned v), next, depth, scratch⟩
      | .next => ⟨.expr test, .turn test body next, depth, scratch⟩
  | .rest body next =>
      match flow with
      | .returned v => ⟨.flow (.returned v), next, depth, scratch⟩
      | .next => ⟨.block body, next, depth, scratch⟩
  | .scope next => ⟨.flow flow, next, depth, scratch.leaveLocal⟩
  | .call next => ⟨.value flow.value, next, depth - 1, scratch.leaveLocal⟩
  | .script next => ⟨.value flow.value, next, depth, scratch.leaveLocal⟩

/-- Take an entry off after an error, unless nothing is left to do. -/
def unwind {phrase : Phrase} (error : EngineError) (pending : Pending phrase) (depth : Nat)
    (scratch : Scratch) : Option Interpreter :=
  match pending with
  | .done => none
  | .unary _ next => some ⟨.failed error, next, depth, scratch⟩
  | .both _ next => some ⟨.failed error, next, depth, scratch⟩
  | .either _ next => some ⟨.failed error, next, depth, scratch⟩
  | .holds next => some ⟨.failed error, next, depth, scratch⟩
  | .left _ _ next => some ⟨.failed error, next, depth, scratch⟩
  | .right _ _ next => some ⟨.failed error, next, depth, scratch⟩
  | .argument _ _ _ next => some ⟨.failed error, next, depth, scratch⟩
  | .declare _ next => some ⟨.failed error, next, depth, scratch⟩
  | .assign _ next => some ⟨.failed error, next, depth, scratch⟩
  | .ret next => some ⟨.failed error, next, depth, scratch⟩
  | .discard next => some ⟨.failed error, next, depth, scratch⟩
  | .branch _ _ next => some ⟨.failed error, next, depth, scratch⟩
  | .turn _ _ next => some ⟨.failed error, next, depth, scratch⟩
  | .again _ _ next => some ⟨.failed error, next, depth, scratch⟩
  | .rest _ next => some ⟨.failed error, next, depth, scratch⟩
  | .scope next => some ⟨.failed error, next, depth, scratch.leaveLocal⟩
  | .call next => some ⟨.failed error, next, depth - 1, scratch.leaveLocal⟩
  | .script next => some ⟨.failed error, next, depth, scratch.leaveLocal⟩

/-- One step. An interpreter that has a value or an error and nothing left to do has halted. -/
def step : Interpreter → Option Interpreter
  | ⟨.expr e, pending, depth, scratch⟩ => enterExpr setting e pending depth scratch
  | ⟨.arguments name done [], pending, depth, scratch⟩ =>
      call setting name done pending depth scratch
  | ⟨.arguments name done (e :: rest), pending, depth, scratch⟩ =>
      some ⟨.expr e, .argument name done rest pending, depth, scratch⟩
  | ⟨.value v, pending, depth, scratch⟩ => resume v pending depth scratch
  | ⟨.stmt s, pending, depth, scratch⟩ => enterStmt s pending depth scratch
  | ⟨.block [], pending, depth, scratch⟩ => some ⟨.flow .next, pending, depth, scratch⟩
  | ⟨.block (s :: rest), pending, depth, scratch⟩ =>
      some ⟨.stmt s, .rest rest pending, depth, scratch⟩
  | ⟨.flow flow, pending, depth, scratch⟩ => proceed flow pending depth scratch
  | ⟨.failed error, pending, depth, scratch⟩ => unwind error pending depth scratch

/-- An interpreter that is about to run a program. -/
def ofScript (scratch : Scratch) : Interpreter :=
  ⟨.block setting.program.statements, .script .done, 0, scratch.enterLocal⟩

/-- An interpreter that is about to call an operation of a program. -/
def ofOperation (name : String) (arguments : List Value) (scratch : Scratch) : Interpreter :=
  match setting.program.operation? name with
  | some op => invoke op arguments .done 0 scratch
  | none => ⟨.failed (.runtime (.undefinedOperation name)), .done, 0, scratch⟩

/-- An interpreter that has come to a value or an error. -/
def halted (ran : Except EngineError Value × Scratch) : Interpreter :=
  ⟨.outcome .value ran.1, .done, 0, ran.2⟩

/-- A number of steps lead from one interpreter to another. -/
inductive Steps : Nat → Interpreter → Interpreter → Prop
  | zero (state : Interpreter) : Steps 0 state state
  | succ {n : Nat} {state later last : Interpreter} :
      step setting state = some later → Steps n later last → Steps (n + 1) state last

/-- Some number of steps leads from one interpreter to another. -/
def Reaches (state later : Interpreter) : Prop :=
  ∃ n, Steps setting n state later

/-- The count of an interpreter is the number of active calls, which is within its bound. -/
def Counted (state : Interpreter) : Prop :=
  state.depth = state.pending.calls ∧ state.depth ≤ maxCallDepth

variable {setting} {phrase : Phrase} {depth : Nat} {scratch : Scratch}

theorem counted_perform {m : Eval α} {pending : Pending phrase} {next : α → Scratch → Interpreter}
    (failed : ∀ error after, Counted ⟨.failed error, pending, depth, after⟩)
    (goesOn : ∀ a after, Counted (next a after)) :
    Counted (perform m pending depth scratch next) := by
  unfold perform
  split
  · exact goesOn _ _
  · exact failed _ _

/-- Only here does the count go up, and only below its bound. -/
theorem counted_invoke (op : Operation) (arguments : List Value) {pending : Pending .expression}
    (exact : depth = pending.calls) (bounded : depth ≤ maxCallDepth) :
    Counted (invoke op arguments pending depth scratch) := by
  unfold invoke
  split
  · exact ⟨exact, bounded⟩
  · split
    next => exact ⟨exact, bounded⟩
    next room =>
      have entered : depth + 1 = (Pending.call pending).calls := congrArg (· + 1) exact
      have within : depth + 1 ≤ maxCallDepth := Nat.lt_of_not_le room
      exact counted_perform (fun _ _ => ⟨entered, within⟩) fun _ _ => ⟨entered, within⟩

theorem counted_call (name : String) (arguments : List Value) {pending : Pending .expression}
    (exact : depth = pending.calls) (bounded : depth ≤ maxCallDepth) :
    Counted (call setting name arguments pending depth scratch) := by
  unfold call
  split
  · exact counted_invoke _ arguments exact bounded
  · exact counted_perform (fun _ _ => ⟨exact, bounded⟩) fun _ _ => ⟨exact, bounded⟩

theorem counted_enterExpr (e : Expr) {pending : Pending .expression}
    (exact : depth = pending.calls) (bounded : depth ≤ maxCallDepth) :
    Counted (enterExpr setting e pending depth scratch) := by
  unfold enterExpr
  split
  case h_6 => exact counted_perform (fun _ _ => ⟨exact, bounded⟩) fun _ _ => ⟨exact, bounded⟩
  all_goals exact ⟨exact, bounded⟩

theorem counted_enterStmt (s : Stmt) {pending : Pending .statement}
    (exact : depth = pending.calls) (bounded : depth ≤ maxCallDepth) :
    Counted (enterStmt s pending depth scratch) := by
  unfold enterStmt
  split
  case h_1 => exact counted_perform (fun _ _ => ⟨exact, bounded⟩) fun _ _ => ⟨exact, bounded⟩
  all_goals exact ⟨exact, bounded⟩

theorem counted_resume {v : Value} {pending : Pending .expression} {later : Interpreter}
    (exact : depth = pending.calls) (bounded : depth ≤ maxCallDepth)
    (resumed : resume v pending depth scratch = some later) : Counted later := by
  have either {holds : Bool} {yes no : Interpreter} (yesCounted : Counted yes)
      (noCounted : Counted no) : Counted (if holds then yes else no) := by
    split
    · exact yesCounted
    · exact noCounted
  cases pending
  case done => cases resumed
  case both | either | turn =>
    cases resumed
    exact counted_perform (fun _ _ => ⟨exact, bounded⟩) fun _ _ =>
      either ⟨exact, bounded⟩ ⟨exact, bounded⟩
  case unary | right | holds | declare | assign | branch =>
    cases resumed
    exact counted_perform (fun _ _ => ⟨exact, bounded⟩) fun _ _ => ⟨exact, bounded⟩
  case left | argument | ret | discard =>
    cases resumed
    exact ⟨exact, bounded⟩

/-- The count goes down by the call that was active. -/
theorem counted_leave {depth calls : Nat} (exact : depth = calls + 1)
    (bounded : depth ≤ maxCallDepth) : depth - 1 = calls ∧ depth - 1 ≤ maxCallDepth :=
  ⟨by omega, by omega⟩

theorem counted_proceed (flow : Flow) {pending : Pending .statement}
    (exact : depth = pending.calls) (bounded : depth ≤ maxCallDepth) :
    Counted (proceed flow pending depth scratch) := by
  cases pending with
  | again test body next => cases flow <;> exact ⟨exact, bounded⟩
  | rest body next => cases flow <;> exact ⟨exact, bounded⟩
  | scope next => exact ⟨exact, bounded⟩
  | call next => exact counted_leave exact bounded
  | script next => exact ⟨exact, bounded⟩

theorem counted_unwind {error : EngineError} {pending : Pending phrase} {later : Interpreter}
    (exact : depth = pending.calls) (bounded : depth ≤ maxCallDepth)
    (unwound : unwind error pending depth scratch = some later) : Counted later := by
  cases pending
  case done => cases unwound
  case call =>
    cases unwound
    exact counted_leave exact bounded
  all_goals
    cases unwound
    exact ⟨exact, bounded⟩

/-- A step keeps the count. -/
theorem Counted.step {state later : Interpreter} (counted : Counted state)
    (stepped : step setting state = some later) : Counted later := by
  obtain ⟨focus, pending, depth, scratch⟩ := state
  obtain ⟨exact, bounded⟩ := counted
  cases focus with
  | expr e =>
      cases stepped
      exact counted_enterExpr e exact bounded
  | arguments name done rest =>
      cases rest with
      | nil =>
          cases stepped
          exact counted_call name done exact bounded
      | cons e rest =>
          cases stepped
          exact ⟨exact, bounded⟩
  | value v => exact counted_resume exact bounded stepped
  | stmt s =>
      cases stepped
      exact counted_enterStmt s exact bounded
  | block body =>
      cases body with
      | nil =>
          cases stepped
          exact ⟨exact, bounded⟩
      | cons s rest =>
          cases stepped
          exact ⟨exact, bounded⟩
  | flow flow =>
      cases stepped
      exact counted_proceed flow exact bounded
  | failed error =>
      rw [Interpreter.step] at stepped
      exact counted_unwind exact bounded stepped

/-- However long an interpreter runs, its count is the number of active calls, and within its
bound. -/
theorem counted_of_reaches {state later : Interpreter} (counted : Counted state)
    (reaches : Reaches setting state later) : Counted later := by
  obtain ⟨n, steps⟩ := reaches
  induction steps with
  | zero => exact counted
  | succ stepped _ ih => exact ih (counted.step stepped)

theorem counted_ofScript (scratch : Scratch) : Counted (ofScript setting scratch) :=
  ⟨rfl, Nat.zero_le _⟩

theorem counted_ofOperation (name : String) (arguments : List Value) (scratch : Scratch) :
    Counted (ofOperation setting name arguments scratch) := by
  unfold ofOperation
  split
  · exact counted_invoke _ arguments rfl (Nat.zero_le _)
  · exact ⟨rfl, Nat.zero_le _⟩

end Interpreter
end Script
end StagedScript
