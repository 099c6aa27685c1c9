import StagedScript.Proofs.Script.Printing

/-!
# What a program says

A program says something whenever it calls `print`, `println`, `warn` or `error`. What an evaluation
says is told beside the evaluation, in its order: first what a part says, and then, if the
evaluation of the part succeeds, what the rest says in the state that the part left.

**Results.** An evaluation does to the sinks what writing its utterances to the streams of their
channels does, one after the other, and nothing else, whether it succeeds or not
(`Eval.utters_script`, `Eval.utters_operation`).
-/

namespace StagedScript
namespace Script

/-- The built-in operations that print. -/
inductive PrintWord where
  | print
  | println
  | warn
  | error
deriving DecidableEq, Repr

namespace PrintWord

def ofName? : String → Option PrintWord
  | "print" => some .print
  | "println" => some .println
  | "warn" => some .warn
  | "error" => some .error
  | _ => none

/-- Where a word speaks. -/
def channel : PrintWord → Channel
  | .print => .output
  | .println => .output
  | .warn => .warning
  | .error => .error

/-- Whether a word ends the line. -/
def endsLine : PrintWord → Bool
  | .print => false
  | _ => true

end PrintWord

/-- A call of a word that prints. -/
structure Utterance where
  word : PrintWord
  values : List Value

/-- An utterance as an entry of a transcript. -/
def Utterance.entry (utterance : Utterance) : Channel × String :=
  (utterance.word.channel, Eval.printed utterance.word.endsLine utterance.values)

/-- What an evaluation says, by the state that it starts in. -/
abbrev Saying :=
  Scratch → List Utterance

namespace Saying

variable {α : Type}

def silent : Saying :=
  fun _ => []

/-- What is said by a computation, and then by what follows it if it succeeds. -/
def andThen (said : Saying) (m : Eval α) (next : α → Saying) : Saying := fun before =>
  said before ++
    match m.run.run before with
    | (.ok a, after) => next a after
    | (.error _, _) => []

/-- What is said in a local scope of its own. -/
def inScope (said : Saying) : Saying := fun before =>
  said { before with frames := before.frames.enterLocal }

end Saying

namespace Eval

open Saying

section Sayings

variable (setting : Setting) (invoke : Invoke) (invoked : Operation → List Value → Saying)

/-- What a call says: for an operation of the program what it says itself, for a word the one
utterance. -/
def callSaid (name : String) (values : List Value) : Saying :=
  match setting.program.operation? name with
  | some op => invoked op values
  | none => fun _ => ((PrintWord.ofName? name).map fun word => ⟨word, values⟩).toList

mutual

/-- What an expression says. -/
def exprSaid : Expr → Saying
  | .integer _ => silent
  | .real _ => silent
  | .text _ => silent
  | .boolean _ => silent
  | .null => silent
  | .name _ => silent
  | .unary _ operand => exprSaid operand
  | .binary .and left right =>
      (exprSaid left).andThen (condition setting invoke left) fun holds =>
        if holds then exprSaid right else silent
  | .binary .or left right =>
      (exprSaid left).andThen (condition setting invoke left) fun holds =>
        if holds then silent else exprSaid right
  | .binary _ left right =>
      (exprSaid left).andThen (expr setting invoke left) fun _ => exprSaid right
  | .call name arguments =>
      (exprsSaid arguments).andThen (exprs setting invoke arguments) fun values =>
        callSaid setting invoked name values

/-- What expressions say, from left to right. -/
def exprsSaid : List Expr → Saying
  | [] => silent
  | e :: rest => (exprSaid e).andThen (expr setting invoke e) fun _ => exprsSaid rest

end

/-- What a loop says: the test and the body in turn. -/
def loopSaid (test : Eval Bool) (body : Eval Flow) (testSaid bodySaid : Saying) : Nat → Saying
  | 0 => silent
  | turns + 1 => testSaid.andThen test fun holds =>
      if holds then
        bodySaid.andThen body fun flow =>
          match flow with
          | .returned _ => silent
          | .next => loopSaid test body testSaid bodySaid turns
      else
        silent

mutual

/-- What a statement says. -/
def stmtSaid : Stmt → Saying
  | .var _ none => silent
  | .var _ (some e) => exprSaid setting invoke invoked e
  | .assign _ e => exprSaid setting invoke invoked e
  | .ret none => silent
  | .ret (some e) => exprSaid setting invoke invoked e
  | .cond test yes no =>
      (exprSaid setting invoke invoked test).andThen (condition setting invoke test) fun holds =>
        if holds then (blockSaid yes).inScope else (blockSaid no).inScope
  | .loop test body =>
      loopSaid (condition setting invoke test) (inScope (block setting invoke body))
        (exprSaid setting invoke invoked test) (blockSaid body).inScope setting.turns
  | .expr e => exprSaid setting invoke invoked e

/-- What statements say, until one returns. -/
def blockSaid : List Stmt → Saying
  | [] => silent
  | s :: rest =>
      (stmtSaid s).andThen (stmt setting invoke s) fun flow =>
        match flow with
        | .returned _ => silent
        | .next => blockSaid rest

end

/-- What a call of an operation says, with room for the given number of active calls. -/
def invokeSaid : Nat → Operation → List Value → Saying
  | 0, _, _ => silent
  | room + 1, op, arguments =>
      if arguments.length ≠ op.params.length then
        silent
      else
        (silent.andThen (declareAll (bindings op arguments)) fun _ =>
          blockSaid setting (Eval.invoke setting room) (invokeSaid room) op.body).inScope

/-- What a run of the program says. -/
def scriptSaid : Saying :=
  (blockSaid setting (Eval.invoke setting maxCallDepth) (invokeSaid setting maxCallDepth)
    setting.program.statements).inScope

/-- What a call of an operation of the program says. -/
def operationSaid (name : String) (arguments : List Value) : Saying :=
  match setting.program.operation? name with
  | some op => invokeSaid setting maxCallDepth op arguments
  | none => silent

variable {setting} in
theorem operationSaid_of_undeclared {name : String}
    (undeclared : setting.program.operation? name = none) (arguments : List Value) :
    operationSaid setting name arguments = silent := by
  rw [operationSaid, undeclared]

end Sayings

variable {α β : Type} {streams : Channel → Stream} {said : Saying}

/-- An evaluation does to the sinks what its utterances do, written to streams. -/
def Utters (m : Eval α) (streams : Channel → Stream) (said : Saying) : Prop :=
  ∀ before, (m.run.run before).2.sinks =
    before.sinks.print streams ((said before).map Utterance.entry)

theorem utters_pure (a : α) : (pure a : Eval α).Utters streams silent :=
  fun _ => rfl

theorem utters_fault (cause : RuntimeFault) : (fault cause : Eval α).Utters streams silent :=
  fun _ => rfl

theorem utters_modifyFrames (change : FrameStack → FrameStack) :
    (modifyFrames change).Utters streams silent :=
  fun _ => rfl

theorem Utters.bind {m : Eval α} {f : α → Eval β} {next : α → Saying}
    (first : m.Utters streams said) (rest : ∀ a, (f a).Utters streams (next a)) :
    (m >>= f).Utters streams (said.andThen m next) := by
  intro before
  have start := first before
  rw [run_bind, andThen]
  rcases answer : m.run.run before with ⟨error | a, middle⟩
  · rw [answer] at start
    dsimp only at start ⊢
    rw [List.append_nil, start]
  · rw [answer] at start
    dsimp only at start ⊢
    rw [rest a middle, start, List.map_append, Sinks.print_append]

/-- What follows says nothing. -/
theorem Utters.bind_silent {m : Eval α} {f : α → Eval β} (first : m.Utters streams said)
    (rest : ∀ a, (f a).Utters streams silent) : (m >>= f).Utters streams said := by
  intro before
  have both := first.bind rest before
  have alone : said.andThen m (fun _ => silent) before = said before := by
    rw [andThen]
    rcases m.run.run before with ⟨_ | _, _⟩ <;> exact List.append_nil _
  rwa [alone] at both

theorem Utters.inScope {body : Eval α} (utters : body.Utters streams said) :
    (inScope body).Utters streams said.inScope :=
  fun before => utters { before with frames := before.frames.enterLocal }

theorem utters_ofResult (result : Except RuntimeFault α) :
    (ofResult result).Utters streams silent := by
  cases result with
  | ok value => exact utters_pure value
  | error cause => exact utters_fault cause

theorem utters_declareAll (news : List Variable) : (declareAll news).Utters streams silent := by
  induction news with
  | nil => exact utters_pure ()
  | cons new rest ih => exact (utters_modifyFrames _).bind_silent fun _ => ih

theorem utters_lookup (setting : Setting) (name : String) :
    (lookup setting name).Utters streams silent := by
  intro before
  unfold lookup
  rw [run_get_bind]
  cases before.frames.get? name with
  | some v => rfl
  | none => cases setting.repository.find? name <;> rfl

theorem utters_assign (name : String) (value : Value) :
    (assign name value).Utters streams silent := by
  intro before
  unfold assign
  rw [run_get_bind]
  split
  next => rfl
  next =>
    split
    next => rfl
    next => split <;> rfl

theorem utters_asCondition (value : Value) : (asCondition value).Utters streams silent := by
  cases value with
  | boolean b => exact utters_pure b
  | _ => exact utters_fault _

section Walk

variable {setting : Setting} {invoke : Invoke} {invoked : Operation → List Value → Saying}

/-- A word that prints speaks on its channel. -/
theorem utters_emit (word : PrintWord) (values : List Value) :
    (emit setting word.channel word.endsLine values).Utters setting.stream
      fun _ => [⟨word, values⟩] := by
  intro before
  rw [run_emit]
  rfl

theorem utters_size (values : List Value) : (size values).Utters streams silent := by
  unfold size
  split
  · exact utters_pure _
  · exact utters_pure _
  · exact utters_fault _
  · exact utters_fault _

theorem utters_contents (values : List Value) :
    (contents setting values).Utters streams silent := by
  unfold contents
  split
  · exact utters_pure _
  · exact utters_fault _

theorem utters_native (values : List Value) : (native setting values).Utters streams silent := by
  unfold native
  split
  · split
    · exact utters_fault _
    · intro before
      rw [run_get_bind, run_set_bind]
      split <;> rfl
  · exact utters_fault _

theorem utters_builtin (name : String) (values : List Value) :
    (builtin setting name values).Utters setting.stream
      fun _ => ((PrintWord.ofName? name).map fun word => ⟨word, values⟩).toList := by
  unfold builtin
  split
  · exact utters_emit .print values
  · exact utters_emit .println values
  · exact utters_emit .warn values
  · exact utters_emit .error values
  · exact utters_size values
  · exact utters_contents values
  · exact utters_native values
  next _ noPrint noPrintln noWarn noError _ _ _ =>
    have none : PrintWord.ofName? name = none := by
      unfold PrintWord.ofName?
      split <;> simp_all
    rw [none]
    exact utters_fault _

/-- Calls of operations say what is told of them. -/
def UttersCalls (setting : Setting) (invoke : Invoke)
    (invoked : Operation → List Value → Saying) : Prop :=
  ∀ op arguments, (invoke op arguments).Utters setting.stream (invoked op arguments)

theorem utters_call (calls : UttersCalls setting invoke invoked) (name : String)
    (values : List Value) :
    (call setting invoke name values).Utters setting.stream
      (callSaid setting invoked name values) := by
  unfold call callSaid
  cases setting.program.operation? name with
  | some op => exact calls op values
  | none => exact utters_builtin name values

theorem bind_condition (e : Expr) (f : Bool → Eval α) :
    (expr setting invoke e >>= fun value => asCondition value >>= f) =
      condition setting invoke e >>= f :=
  (bind_assoc _ _ _).symm

theorem utters_condition_of {e : Expr} (utters : (expr setting invoke e).Utters streams said) :
    (condition setting invoke e).Utters streams said :=
  utters.bind_silent utters_asCondition

mutual

theorem utters_expr (calls : UttersCalls setting invoke invoked) :
    ∀ e : Expr,
      (expr setting invoke e).Utters setting.stream (exprSaid setting invoke invoked e)
  | .integer value => by
      rw [expr, exprSaid]
      exact utters_pure _
  | .real value => by
      rw [expr, exprSaid]
      exact utters_pure _
  | .text value => by
      rw [expr, exprSaid]
      exact utters_pure _
  | .boolean value => by
      rw [expr, exprSaid]
      exact utters_pure _
  | .null => by
      rw [expr, exprSaid]
      exact utters_pure _
  | .name name => by
      rw [expr, exprSaid]
      exact utters_lookup setting name
  | .unary op operand => by
      rw [expr, exprSaid]
      exact (utters_expr calls operand).bind_silent fun value => utters_ofResult _
  | .binary op left right => by
      have first := utters_expr calls left
      have second := utters_expr calls right
      have isTrue : (do
          let holds ← asCondition (← expr setting invoke right)
          return Value.boolean holds).Utters setting.stream
            (exprSaid setting invoke invoked right) :=
        second.bind_silent fun value => (utters_asCondition value).bind_silent fun _ =>
          utters_pure _
      by_cases isAnd : op = .and
      · subst isAnd
        rw [expr, exprSaid, bind_condition]
        refine (utters_condition_of first).bind fun holds => ?_
        cases holds with
        | true => exact isTrue
        | false => exact utters_pure _
      by_cases isOr : op = .or
      · subst isOr
        rw [expr, exprSaid, bind_condition]
        refine (utters_condition_of first).bind fun holds => ?_
        cases holds with
        | true => exact utters_pure _
        | false => exact isTrue
      · rw [expr, exprSaid]
        · exact first.bind fun a => second.bind_silent fun b => utters_ofResult _
        · exact isAnd
        · exact isOr
        · exact isAnd
        · exact isOr
  | .call name arguments => by
      rw [expr, exprSaid]
      exact (utters_exprs calls arguments).bind fun values => utters_call calls name values

theorem utters_exprs (calls : UttersCalls setting invoke invoked) :
    ∀ es : List Expr,
      (exprs setting invoke es).Utters setting.stream (exprsSaid setting invoke invoked es)
  | [] => by
      rw [exprs, exprsSaid]
      exact utters_pure _
  | e :: rest => by
      rw [exprs, exprsSaid]
      exact (utters_expr calls e).bind fun value =>
        (utters_exprs calls rest).bind_silent fun values => utters_pure _

end

theorem utters_condition (calls : UttersCalls setting invoke invoked) (e : Expr) :
    (condition setting invoke e).Utters setting.stream (exprSaid setting invoke invoked e) :=
  utters_condition_of (utters_expr calls e)

theorem utters_whileHolds {test : Eval Bool} {body : Eval Flow} {testSaid bodySaid : Saying}
    (testUtters : test.Utters streams testSaid) (bodyUtters : body.Utters streams bodySaid)
    (turns : Nat) :
    (whileHolds test body turns).Utters streams (loopSaid test body testSaid bodySaid turns) := by
  induction turns with
  | zero => exact fun before => rfl
  | succ turns ih =>
      rw [whileHolds, loopSaid]
      refine testUtters.bind fun holds => ?_
      cases holds with
      | true =>
          refine bodyUtters.bind fun flow => ?_
          cases flow with
          | next => exact ih
          | returned value => exact utters_pure _
      | false => exact utters_pure _

mutual

theorem utters_stmt (calls : UttersCalls setting invoke invoked) :
    ∀ s : Stmt,
      (stmt setting invoke s).Utters setting.stream (stmtSaid setting invoke invoked s)
  | .var name none => by
      rw [stmt, stmtSaid]
      exact (utters_modifyFrames _).bind_silent fun _ => utters_pure _
  | .var name (some e) => by
      rw [stmt, stmtSaid]
      exact (utters_expr calls e).bind_silent fun value =>
        (utters_modifyFrames _).bind_silent fun _ => utters_pure _
  | .assign name e => by
      rw [stmt, stmtSaid]
      exact (utters_expr calls e).bind_silent fun value =>
        (utters_assign name value).bind_silent fun _ => utters_pure _
  | .ret none => by
      rw [stmt, stmtSaid]
      exact utters_pure _
  | .ret (some e) => by
      rw [stmt, stmtSaid]
      exact (utters_expr calls e).bind_silent fun value => utters_pure _
  | .cond test yes no => by
      have inYes := (utters_block calls yes).inScope
      have inNo := (utters_block calls no).inScope
      rw [stmt, stmtSaid]
      refine (utters_condition calls test).bind fun holds => ?_
      cases holds with
      | true => exact inYes
      | false => exact inNo
  | .loop test body => by
      have inBody := (utters_block calls body).inScope
      rw [stmt, stmtSaid]
      exact utters_whileHolds (utters_condition calls test) inBody setting.turns
  | .expr e => by
      rw [stmt, stmtSaid]
      exact (utters_expr calls e).bind_silent fun value => utters_pure _

theorem utters_block (calls : UttersCalls setting invoke invoked) :
    ∀ body : List Stmt,
      (block setting invoke body).Utters setting.stream (blockSaid setting invoke invoked body)
  | [] => by
      rw [block, blockSaid]
      exact utters_pure _
  | s :: rest => by
      have others := utters_block calls rest
      rw [block, blockSaid]
      refine (utters_stmt calls s).bind fun flow => ?_
      cases flow with
      | next => exact others
      | returned value => exact utters_pure _

end

end Walk

variable (setting : Setting)

/-- The induction is on how many calls may still become active. -/
theorem utters_invoke (room : Nat) :
    UttersCalls setting (Eval.invoke setting room) (invokeSaid setting room) := by
  induction room with
  | zero =>
      intro op arguments
      rw [Eval.invoke, invokeSaid]
      split
      · exact utters_fault _
      · exact utters_fault _
  | succ room ih =>
      intro op arguments
      rw [Eval.invoke, invokeSaid]
      split
      · exact utters_fault _
      · have body := (utters_declareAll (bindings op arguments)).bind fun _ =>
          utters_block ih op.body
        exact body.inScope.bind_silent fun flow => utters_pure _

theorem utters_script : (script setting).Utters setting.stream (scriptSaid setting) :=
  (utters_block (utters_invoke setting maxCallDepth) _).inScope.bind_silent
    fun _ => utters_pure _

theorem utters_operation (name : String) (arguments : List Value) :
    (operation setting name arguments).Utters setting.stream
      (operationSaid setting name arguments) := by
  unfold operation operationSaid
  cases setting.program.operation? name with
  | some op => exact utters_invoke setting maxCallDepth op arguments
  | none => exact utters_fault _

end Eval
end Script
end StagedScript
