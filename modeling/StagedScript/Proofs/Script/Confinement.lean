import Mathlib.Data.List.Forall2
import Mathlib.Order.Defs.Unbundled
import StagedScript.Engine.Script
import StagedScript.Proofs.Frames.Bindings
import StagedScript.Proofs.Run.Effects

/-!
# Evaluation is confined

An evaluation works in scopes of its own. `Scope.Confined` says what may become of a scope that was
there before: it keeps its bindings with their names and whether scripts may assign to them, and
those that scripts may not assign to keep their values. Frame stacks are confined scope by scope.

Statements also declare variables in the innermost scope, so that for them only what is around it is
confined (`FrameStack.ConfinedAround`); the scope that they run in is closed whatever the outcome,
and so blocks, calls and expressions are confined as a whole.

**Results.** An evaluation leaves the frame stack confined and changes nothing else but what sinks
received and the count of host objects, whether it ends with a value or with an error
(`evaluation_confined`). A confined stack is as deep as before (`Confined.depth_eq`), and its scopes
have the names that they had (`Confined.names_eq`).
-/

namespace StagedScript

namespace Scope

/-- The names of a scope, each with whether scripts may not assign to it. -/
def signature (scope : Scope) : List (String × Bool) :=
  scope.map fun v => (v.name, v.readOnly)

/-- What may become of a scope when a program runs. -/
structure Confined (before after : Scope) : Prop where
  signature : after.signature = before.signature
  constants : ∀ name v, before.get? name = some v → v.readOnly = true → after.get? name = some v

theorem Confined.refl (scope : Scope) : Confined scope scope :=
  ⟨rfl, fun _ _ found _ => found⟩

theorem Confined.trans {first second third : Scope} (left : Confined first second)
    (right : Confined second third) : Confined first third where
  signature := right.signature.trans left.signature
  constants name v found constant :=
    right.constants name v (left.constants name v found constant) constant

theorem names_eq_signature (scope : Scope) : scope.names = scope.signature.map Prod.fst := by
  rw [signature, List.map_map]
  rfl

theorem Confined.names_eq {before after : Scope} (confined : Confined before after) :
    after.names = before.names := by
  rw [names_eq_signature, names_eq_signature, confined.signature]

/-- An assignment is confined if scripts may assign to its variable. -/
theorem confined_assign {name : String} {scope : Scope} (value : Value)
    (assignable : ∀ v, scope.get? name = some v → v.readOnly = false) :
    Confined scope (scope.assign name value) where
  signature := by
    rw [signature, signature, assign, List.map_map]
    refine List.map_congr_left fun v _ => ?_
    rw [Function.comp_apply]
    split <;> rfl
  constants other v found constant := by
    have different : name ≠ other := by
      rintro rfl
      rw [assignable v found] at constant
      exact absurd constant Bool.false_ne_true
    rw [get?_assign, if_neg different]
    exact found

end Scope

namespace FrameStack

/-- What may become of a frame stack when a program runs: each scope is confined, and there are as
many as before. -/
structure Confined (before after : FrameStack) : Prop where
  globals : before.globals.Confined after.globals
  locals : List.Forall₂ Scope.Confined before.locals after.locals

theorem forall₂_confined_trans {first second third : List Scope}
    (left : List.Forall₂ Scope.Confined first second)
    (right : List.Forall₂ Scope.Confined second third) :
    List.Forall₂ Scope.Confined first third := by
  induction left generalizing third with
  | nil => exact right
  | cons head _ ih =>
      cases right with
      | cons head' tail' => exact .cons (head.trans head') (ih tail')

theorem Confined.refl (frames : FrameStack) : frames.Confined frames :=
  ⟨.refl _, List.forall₂_same.2 fun scope _ => .refl scope⟩

theorem Confined.trans {first second third : FrameStack} (left : first.Confined second)
    (right : second.Confined third) : first.Confined third :=
  ⟨left.globals.trans right.globals, forall₂_confined_trans left.locals right.locals⟩

instance : IsPreorder FrameStack Confined where
  refl := .refl
  trans _ _ _ := .trans

theorem Confined.depth_eq {before after : FrameStack} (confined : before.Confined after) :
    after.depth = before.depth :=
  confined.locals.length_eq.symm

/-- What may become of a frame stack when statements run in its innermost scope: what is around that
scope is confined. -/
def ConfinedAround (before after : FrameStack) : Prop :=
  before.locals ≠ [] → after.locals ≠ [] ∧ before.leaveLocal.Confined after.leaveLocal

instance : IsPreorder FrameStack ConfinedAround where
  refl frames inside := ⟨inside, .refl frames.leaveLocal⟩
  trans first second third left right inside := by
    obtain ⟨stillInside, before⟩ := left inside
    obtain ⟨inside', after⟩ := right stillInside
    exact ⟨inside', before.trans after⟩

theorem Confined.around {before after : FrameStack} (confined : before.Confined after) :
    before.ConfinedAround after := by
  intro inside
  obtain ⟨globals, locals⟩ := confined
  obtain ⟨globalScope, _ | ⟨scope, outer⟩⟩ := before
  · exact absurd rfl inside
  · obtain ⟨globalScope', locals'⟩ := after
    cases locals with
    | cons _ rest => exact ⟨List.cons_ne_nil _ _, globals, rest⟩

/-- A declaration changes the innermost scope. -/
theorem confinedAround_declareLocal (frames : FrameStack) (new : Variable) :
    frames.ConfinedAround (frames.declareLocal new) := by
  intro inside
  obtain ⟨globalScope, _ | ⟨scope, outer⟩⟩ := frames
  · exact absurd rfl inside
  · exact ⟨List.cons_ne_nil _ _, .refl _⟩

/-- What is around a scope of its own is all that was there before. -/
theorem ConfinedAround.leaveLocal {before after : FrameStack}
    (around : before.enterLocal.ConfinedAround after) : before.Confined after.leaveLocal :=
  (around (List.cons_ne_nil _ _)).2

theorem forall₂_confined_localSet? {name : String} {value : Value} {locals after : List Scope}
    (assigned : localSet? locals name value = some after)
    (assignable : ∀ v, localGet? locals name = some v → v.readOnly = false) :
    List.Forall₂ Scope.Confined locals after := by
  obtain ⟨inner, scope, outer, v, rfl, unbound, found, rfl⟩ := exists_of_localSet? assigned
  have same (scopes : List Scope) : List.Forall₂ Scope.Confined scopes scopes :=
    List.forall₂_same.2 fun scope _ => .refl scope
  have confined : scope.Confined (scope.assign name value) := by
    refine Scope.confined_assign value fun w here => assignable w ?_
    rw [localGet?_append, unbound, localGet?_cons, here]
    rfl
  exact List.rel_append (same inner) (.cons confined (same outer))

/-- Assigning to a variable that scripts may assign to is confined. -/
theorem confined_set? {frames after : FrameStack} {name : String} {value : Value}
    (assigned : frames.set? name value = some after)
    (assignable : ∀ v, frames.get? name = some v → v.readOnly = false) :
    frames.Confined after := by
  rw [set?] at assigned
  rw [get?] at assignable
  cases changed : localSet? frames.locals name value with
  | some locals =>
      rw [changed] at assigned
      cases assigned
      refine ⟨.refl _, forall₂_confined_localSet? changed fun v found => assignable v ?_⟩
      rw [found]
  | none =>
      rw [changed] at assigned
      rw [localGet?_eq_none_iff.2 (localSet?_eq_none_iff.1 changed)] at assignable
      cases found : frames.globals.get? name with
      | none =>
          rw [found] at assigned
          cases assigned
      | some v =>
          rw [found] at assigned
          cases assigned
          exact ⟨Scope.confined_assign value assignable,
            List.forall₂_same.2 fun scope _ => .refl scope⟩

end FrameStack

namespace Sinks

/-- How many bytes each sink takes, if that is limited. -/
def capacities (sinks : Sinks) : List (Option Nat) :=
  sinks.all.map Sink.capacity

theorem capacities_write (sinks : Sinks) (id : SinkId) (bytes : ByteArray) :
    (sinks.write id bytes).2.capacities = sinks.capacities := by
  have kept : ((sinks.get id).write bytes).2.capacity = (sinks.get id).capacity := by
    unfold Sink.write
    dsimp only
    split <;> rfl
  have written : (sinks.write id bytes).2.capacities =
      sinks.capacities.set id (sinks.get id).capacity := by
    rw [← kept]
    exact List.map_set
  rw [written]
  by_cases inUse : id < sinks.all.length
  · have bound : id < (sinks.all.map Sink.capacity).length := by simpa using inUse
    have here : (sinks.get id).capacity = (sinks.all.map Sink.capacity)[id] := by
      simp [get, inUse]
    rw [here]
    exact List.set_getElem_self bound
  · exact List.set_eq_of_length_le (by simpa [capacities] using inUse)

end Sinks

namespace Script

/-- What may become of what a program changes: the relation is that of the frame stacks, and sinks
take as much as before. -/
structure Scratch.Keeps (related : FrameStack → FrameStack → Prop) (before after : Scratch) :
    Prop where
  frames : related before.frames after.frames
  capacities : after.sinks.capacities = before.sinks.capacities

namespace Eval

variable {α β : Type} {related : FrameStack → FrameStack → Prop}

theorem run_bind (m : Eval α) (f : α → Eval β) (before : Scratch) :
    (m >>= f).run.run before =
      match m.run.run before with
      | (.ok a, after) => (f a).run.run after
      | (.error error, after) => (.error error, after) := by
  change (ExceptT.bindCont f (m.run.run before).1) (m.run.run before).2 = _
  rcases m.run.run before with ⟨_ | _, after⟩ <;> rfl

theorem run_get_bind (f : Scratch → Eval β) (before : Scratch) :
    (get >>= f).run.run before = (f before).run.run before :=
  rfl

theorem run_set_bind (f : PUnit → Eval β) (changed before : Scratch) :
    (set changed >>= f).run.run before = (f ⟨⟩).run.run changed :=
  rfl

/-- The text that values are printed as. -/
def printed (endLine : Bool) (values : List Value) : String :=
  let text := String.join (values.map Value.display)
  if endLine then text ++ "\n" else text

/-- What printing comes to, once the text was written. -/
def emitted : Except IoError Unit → Except EngineError Value
  | .ok () => .ok .null
  | .error cause => .error (.runtime (.writeFailed cause))

/-- Printing writes one text to the stream of its channel. -/
theorem run_emit (setting : Setting) (channel : Channel) (endLine : Bool) (values : List Value)
    (before : Scratch) :
    (emit setting channel endLine values).run.run before =
      let written :=
        (setting.stream channel).writeText (printed endLine values) before.sinks
      (emitted written.1, { before with sinks := written.2 }) := by
  unfold emit
  rw [run_get_bind]
  have oneText :
      (if endLine then
        (setting.stream channel).writeLine (String.join (values.map Value.display)) before.sinks
      else
        (setting.stream channel).writeText (String.join (values.map Value.display)) before.sinks) =
      (setting.stream channel).writeText (printed endLine values) before.sinks := by
    cases endLine <;> rfl
  rw [oneText]
  rcases (setting.stream channel).writeText (printed endLine values) before.sinks
    with ⟨_ | _, sinks⟩
  · rfl
  · rfl

/-- Whatever an evaluation comes to, it keeps the frame stacks related. -/
def Leaves (m : Eval α) (related : FrameStack → FrameStack → Prop) : Prop :=
  ∀ before, Scratch.Keeps related before (m.run.run before).2

section Rules

variable [IsPreorder FrameStack related]

theorem leaves_pure (a : α) : (pure a : Eval α).Leaves related :=
  fun before => ⟨refl before.frames, rfl⟩

theorem leaves_fault (cause : RuntimeFault) : (fault cause : Eval α).Leaves related :=
  fun before => ⟨refl before.frames, rfl⟩

theorem leaves_get : (get : Eval Scratch).Leaves related :=
  fun before => ⟨refl before.frames, rfl⟩

theorem Leaves.bind {m : Eval α} {f : α → Eval β} (first : m.Leaves related)
    (next : ∀ a, (f a).Leaves related) : (m >>= f).Leaves related := by
  intro before
  rw [run_bind]
  have start := first before
  rcases answer : m.run.run before with ⟨error | a, middle⟩
  · rw [answer] at start
    exact start
  · rw [answer] at start
    have rest := next a middle
    exact ⟨IsTrans.trans _ _ _ start.frames rest.frames,
      rest.capacities.trans start.capacities⟩

end Rules

/-- An evaluation that changes neither variables nor how much sinks take. -/
theorem leaves_ofResult [IsPreorder FrameStack related] (result : Except RuntimeFault α) :
    (ofResult result).Leaves related := by
  cases result with
  | ok value => exact leaves_pure value
  | error cause => exact leaves_fault cause

/-- What is confined is confined around the innermost scope. -/
theorem Leaves.around {m : Eval α} (leaves : m.Leaves FrameStack.Confined) :
    m.Leaves FrameStack.ConfinedAround :=
  fun before => ⟨(leaves before).frames.around, (leaves before).capacities⟩

/-- A scope of its own is closed whatever the outcome. -/
theorem leaves_inScope {body : Eval α} (around : body.Leaves FrameStack.ConfinedAround) :
    (inScope body).Leaves FrameStack.Confined := by
  intro before
  have inside := around { before with frames := before.frames.enterLocal }
  exact ⟨inside.frames.leaveLocal, inside.capacities⟩

theorem leaves_declareLocal (new : Variable) :
    (modifyFrames fun frames => frames.declareLocal new).Leaves FrameStack.ConfinedAround :=
  fun before => ⟨FrameStack.confinedAround_declareLocal before.frames new, rfl⟩

theorem leaves_declareAll (news : List Variable) :
    (declareAll news).Leaves FrameStack.ConfinedAround := by
  induction news with
  | nil => exact leaves_pure ()
  | cons new rest ih => exact (leaves_declareLocal new).bind fun _ => ih

section Confined

variable (setting : Setting)

theorem leaves_lookup (name : String) : (lookup setting name).Leaves FrameStack.Confined := by
  unfold lookup
  refine leaves_get.bind fun scratch => ?_
  split
  · exact leaves_pure _
  · split
    · exact leaves_pure _
    · exact leaves_fault _

theorem leaves_assign (name : String) (value : Value) :
    (assign name value).Leaves FrameStack.Confined := by
  intro before
  unfold assign
  rw [run_get_bind]
  split
  next => exact leaves_fault _ before
  next v found =>
    split
    next => exact leaves_fault _ before
    next assignable =>
      split
      next frames assigned =>
        refine ⟨FrameStack.confined_set? assigned fun w here => ?_, rfl⟩
        obtain rfl : v = w := Option.some.inj (found.symm.trans here)
        exact Bool.not_eq_true _ ▸ assignable
      next => exact leaves_fault _ before

theorem leaves_asCondition (value : Value) : (asCondition value).Leaves FrameStack.Confined := by
  unfold asCondition
  split
  · exact leaves_pure _
  · exact leaves_fault _

theorem leaves_emit (channel : Channel) (endLine : Bool) (values : List Value) :
    (emit setting channel endLine values).Leaves FrameStack.Confined := by
  intro before
  rw [run_emit]
  exact ⟨.refl _, Sinks.capacities_write _ _ _⟩

theorem leaves_size (arguments : List Value) : (size arguments).Leaves FrameStack.Confined := by
  unfold size
  split
  · exact leaves_pure _
  · exact leaves_pure _
  · exact leaves_fault _
  · exact leaves_fault _

theorem leaves_contents (arguments : List Value) :
    (contents setting arguments).Leaves FrameStack.Confined := by
  unfold contents
  split
  · exact leaves_pure _
  · exact leaves_fault _

theorem leaves_native (arguments : List Value) :
    (native setting arguments).Leaves FrameStack.Confined := by
  intro before
  unfold native
  split
  next type arguments =>
    split
    next => exact leaves_fault _ before
    next delegate _ =>
      rw [run_get_bind, run_set_bind]
      split
      · exact ⟨.refl _, rfl⟩
      · exact ⟨.refl _, rfl⟩
  next => exact leaves_fault _ before

theorem leaves_builtin (name : String) (arguments : List Value) :
    (builtin setting name arguments).Leaves FrameStack.Confined := by
  unfold builtin
  split
  · exact leaves_emit setting _ _ _
  · exact leaves_emit setting _ _ _
  · exact leaves_emit setting _ _ _
  · exact leaves_emit setting _ _ _
  · exact leaves_size _
  · exact leaves_contents setting _
  · exact leaves_native setting _
  · exact leaves_fault _

/-- Calls of operations are confined. -/
def ConfinedCalls (invoke : Invoke) : Prop :=
  ∀ op arguments, (invoke op arguments).Leaves FrameStack.Confined

variable {invoke : Invoke}

theorem leaves_call (confined : ConfinedCalls invoke) (name : String) (arguments : List Value) :
    (call setting invoke name arguments).Leaves FrameStack.Confined := by
  unfold call
  split
  · exact confined _ _
  · exact leaves_builtin setting _ _

mutual

theorem leaves_expr (confined : ConfinedCalls invoke) :
    ∀ e : Expr, (expr setting invoke e).Leaves FrameStack.Confined
  | .integer value => by
      rw [expr]
      exact leaves_pure _
  | .real value => by
      rw [expr]
      exact leaves_pure _
  | .text value => by
      rw [expr]
      exact leaves_pure _
  | .boolean value => by
      rw [expr]
      exact leaves_pure _
  | .null => by
      rw [expr]
      exact leaves_pure _
  | .name name => by
      rw [expr]
      exact leaves_lookup setting name
  | .unary op operand => by
      rw [expr]
      exact (leaves_expr confined operand).bind fun value => leaves_ofResult _
  | .binary op left right => by
      have leftLeaves := leaves_expr confined left
      have rightLeaves := leaves_expr confined right
      by_cases isAnd : op = .and
      · subst isAnd
        rw [expr]
        refine leftLeaves.bind fun value => (leaves_asCondition value).bind fun first => ?_
        split
        · exact rightLeaves.bind fun value => (leaves_asCondition value).bind fun _ =>
            leaves_pure _
        · exact leaves_pure _
      by_cases isOr : op = .or
      · subst isOr
        rw [expr]
        refine leftLeaves.bind fun value => (leaves_asCondition value).bind fun first => ?_
        split
        · exact leaves_pure _
        · exact rightLeaves.bind fun value => (leaves_asCondition value).bind fun _ =>
            leaves_pure _
      · rw [expr]
        · exact leftLeaves.bind fun a => rightLeaves.bind fun b => leaves_ofResult _
        · exact isAnd
        · exact isOr
  | .call name arguments => by
      rw [expr]
      exact (leaves_exprs confined arguments).bind fun values =>
        leaves_call setting confined name values

theorem leaves_exprs (confined : ConfinedCalls invoke) :
    ∀ es : List Expr, (exprs setting invoke es).Leaves FrameStack.Confined
  | [] => by
      rw [exprs]
      exact leaves_pure _
  | e :: rest => by
      rw [exprs]
      exact (leaves_expr confined e).bind fun value =>
        (leaves_exprs confined rest).bind fun values => leaves_pure _

end

theorem leaves_condition (confined : ConfinedCalls invoke) (e : Expr) :
    (condition setting invoke e).Leaves FrameStack.Confined :=
  (leaves_expr setting confined e).bind fun value => leaves_asCondition value

/-- However many turns a loop takes, it is as confined as its body. -/
theorem leaves_whileHolds {test : Eval Bool} {body : Eval Flow}
    (confinedTest : test.Leaves FrameStack.Confined)
    (confinedBody : body.Leaves FrameStack.Confined) (turns : Nat) :
    (whileHolds test body turns).Leaves FrameStack.Confined := by
  induction turns with
  | zero => exact fun before => ⟨.refl before.frames, rfl⟩
  | succ turns ih =>
      rw [whileHolds]
      refine confinedTest.bind fun holds => ?_
      split
      · refine confinedBody.bind fun flow => ?_
        cases flow with
        | next => exact ih
        | returned value => exact leaves_pure _
      · exact leaves_pure _

mutual

/-- A statement may declare a variable in the scope that it runs in. -/
theorem leaves_stmt (confined : ConfinedCalls invoke) :
    ∀ s : Stmt, (stmt setting invoke s).Leaves FrameStack.ConfinedAround
  | .var name none => by
      rw [stmt]
      exact (leaves_declareLocal _).bind fun _ => leaves_pure _
  | .var name (some e) => by
      rw [stmt]
      exact (leaves_expr setting confined e).around.bind fun value =>
        (leaves_declareLocal _).bind fun _ => leaves_pure _
  | .assign name e => by
      rw [stmt]
      exact ((leaves_expr setting confined e).bind fun value =>
        (leaves_assign name value).bind fun _ => leaves_pure _).around
  | .ret none => by
      rw [stmt]
      exact leaves_pure _
  | .ret (some e) => by
      rw [stmt]
      exact ((leaves_expr setting confined e).bind fun value => leaves_pure _).around
  | .cond test yes no => by
      have inYes := leaves_inScope (leaves_block confined yes)
      have inNo := leaves_inScope (leaves_block confined no)
      rw [stmt]
      refine ((leaves_condition setting confined test).bind fun holds => ?_).around
      split
      · exact inYes
      · exact inNo
  | .loop test body => by
      have inBody := leaves_inScope (leaves_block confined body)
      rw [stmt]
      exact (leaves_whileHolds (leaves_condition setting confined test) inBody _).around
  | .expr e => by
      rw [stmt]
      exact ((leaves_expr setting confined e).bind fun value => leaves_pure _).around

theorem leaves_block (confined : ConfinedCalls invoke) :
    ∀ body : List Stmt, (block setting invoke body).Leaves FrameStack.ConfinedAround
  | [] => by
      rw [block]
      exact leaves_pure _
  | s :: rest => by
      have first := leaves_stmt confined s
      have others := leaves_block confined rest
      rw [block]
      refine first.bind fun flow => ?_
      cases flow with
      | next => exact others
      | returned value => exact leaves_pure _

end

/-- The induction is on how many calls may still become active. -/
theorem leaves_invoke (room : Nat) : ConfinedCalls (Eval.invoke setting room) := by
  induction room with
  | zero =>
      intro op arguments
      rw [Eval.invoke]
      split
      · exact leaves_fault _
      · exact leaves_fault _
  | succ room ih =>
      intro op arguments
      rw [Eval.invoke]
      split
      · exact leaves_fault _
      · have body : (do
            declareAll (bindings op arguments)
            block setting (Eval.invoke setting room) op.body).Leaves
              FrameStack.ConfinedAround :=
          (leaves_declareAll _).bind fun _ => leaves_block setting ih op.body
        exact (leaves_inScope body).bind fun flow => leaves_pure _

theorem leaves_script : (script setting).Leaves FrameStack.Confined :=
  (leaves_inScope (leaves_block setting (leaves_invoke setting maxCallDepth) _)).bind
    fun _ => leaves_pure _

theorem leaves_operation (name : String) (arguments : List Value) :
    (operation setting name arguments).Leaves FrameStack.Confined := by
  unfold operation
  split
  · exact leaves_invoke setting maxCallDepth _ _
  · exact leaves_fault _

end Confined

end Eval
end Script

namespace ScriptEngine

/-- What may become of an engine and of the resources when its program is evaluated: scopes are
confined, and nothing else changes but what sinks received and the count of host objects. -/
structure Confined (before after : ScriptEngine × Resources) : Prop where
  frames : before.1.context.frames.Confined after.1.context.frames
  engine : after.1 =
    { before.1 with context := { before.1.context with frames := after.1.context.frames } }
  resources : after.2 =
    { before.2 with sinks := after.2.sinks, objectsMade := after.2.objectsMade }
  capacities : after.2.sinks.capacities = before.2.sinks.capacities

/-- Without a program nothing is evaluated. -/
theorem apply_evaluate_none {engine : ScriptEngine} (missing : engine.program = none)
    (body : Script.Setting → Script.Eval Value) (resources : Resources) :
    Act.apply (evaluate body) (engine, resources) =
      (.error (.runtime .noProgram), engine, resources) := by
  obtain ⟨context, program, problems, source, turns⟩ := engine
  cases missing
  rfl

/-- What variables, sinks and host objects there are when an engine begins to evaluate. -/
def scratch (engine : ScriptEngine) (resources : Resources) : Script.Scratch where
  frames := engine.context.frames
  sinks := resources.sinks
  objectsMade := resources.objectsMade

/-- A program is evaluated on the variables of the context and on the resources. -/
theorem apply_evaluate_some {engine : ScriptEngine} {program : Script.Program}
    (found : engine.program = some program) (body : Script.Setting → Script.Eval Value)
    (resources : Resources) :
    Act.apply (evaluate body) (engine, resources) =
      let ran := (body (engine.setting program resources.models)).run.run
        (engine.scratch resources)
      (ran.1, { engine with context := { engine.context with frames := ran.2.frames } },
        { resources with sinks := ran.2.sinks, objectsMade := ran.2.objectsMade }) := by
  obtain ⟨context, program, problems, source, turns⟩ := engine
  cases found
  rfl

theorem confined_evaluate {body : Script.Setting → Script.Eval Value}
    (leaves : ∀ setting, (body setting).Leaves FrameStack.Confined)
    (engine : ScriptEngine) (resources : Resources) :
    Confined (engine, resources) (Act.apply (evaluate body) (engine, resources)).2 := by
  cases program : engine.program with
  | none =>
      rw [apply_evaluate_none program]
      exact ⟨.refl _, rfl, rfl, rfl⟩
  | some found =>
      rw [apply_evaluate_some program]
      have kept := leaves (engine.setting found resources.models) (engine.scratch resources)
      exact ⟨kept.frames, rfl, rfl, kept.capacities⟩

/-- Whether the program of an engine is run or one of its operations is called, and however that
ends: the frame stack is as deep as before, every scope keeps the names of its variables and which
of them cannot be assigned to, these keep their values, and models, delegates and streams are the
same. -/
theorem evaluation_confined (engine : ScriptEngine) (resources : Resources) :
    Confined (engine, resources) (Act.apply execute (engine, resources)).2 ∧
      ∀ name arguments,
        Confined (engine, resources)
          (Act.apply (invokeOperation name arguments) (engine, resources)).2 :=
  ⟨confined_evaluate Script.Eval.leaves_script engine resources, fun name arguments =>
    confined_evaluate (fun setting => Script.Eval.leaves_operation setting name arguments)
      engine resources⟩

end ScriptEngine
end StagedScript
