import StagedScript.Context
import StagedScript.Resources
import StagedScript.Script.Operators

/-!
# Evaluation

Programs run against a fixed setting, the program itself, models, delegates and streams, and change
variables, the contents of sinks and the count of host objects made. An error leaves what was
changed before it.

Expressions, statements and blocks are walked by structural recursion over the program, with the
call of an operation as a parameter. Calls may be `maxCallDepth` deep; the call that a body sees has
one level less, and at the last level every call is refused. A loop ends after the turns of the
setting, which is an error of its own.
-/

namespace StagedScript
namespace Script

/-- How many calls of operations may be active at once. -/
def maxCallDepth : Nat :=
  256

/-- What a program runs against and does not change. -/
structure Setting where
  program : Program
  repository : Repository
  models : ModelStore
  delegates : List NativeDelegate
  output : Stream
  warning : Stream
  error : Stream
  /-- How many turns a loop may take. -/
  turns : Nat

namespace Setting

def stream (setting : Setting) : Channel → Stream
  | .output => setting.output
  | .warning => setting.warning
  | .error => setting.error

end Setting

/-- What a program changes. -/
structure Scratch where
  frames : FrameStack
  sinks : Sinks
  objectsMade : Nat

/-- A computation of a program. -/
abbrev Eval :=
  ExceptT EngineError (StateM Scratch)

/-- How a sequence of statements ended. -/
inductive Flow where
  | next
  | returned (value : Value)

namespace Flow

/-- The value of an operation or a script that ended so; null unless it was left with a value. -/
def value : Flow → Value
  | .next => .null
  | .returned value => value

end Flow

namespace Eval

/-- Fail with a fault of the program. -/
def fault (cause : RuntimeFault) : Eval α :=
  throw (.runtime cause)

def ofResult : Except RuntimeFault α → Eval α
  | .ok value => pure value
  | .error cause => fault cause

def modifyFrames (change : FrameStack → FrameStack) : Eval Unit :=
  modify fun scratch => { scratch with frames := change scratch.frames }

/-- Run in a local scope of its own, which is closed whatever the outcome. -/
def inScope (body : Eval α) : Eval α := ExceptT.mk do
  modify fun scratch => { scratch with frames := scratch.frames.enterLocal }
  let outcome ← body.run
  modify fun scratch => { scratch with frames := scratch.frames.leaveLocal }
  return outcome

/-- Declare variables in the innermost scope, one after the other. -/
def declareAll : List Variable → Eval Unit
  | [] => pure ()
  | v :: rest => do
      modifyFrames fun frames => frames.declareLocal v
      declareAll rest

/-- The value of a name: the innermost variable, else the model that goes by it. -/
def lookup (setting : Setting) (name : String) : Eval Value := do
  match (← get).frames.get? name with
  | some v => return v.value
  | none =>
      match setting.repository.find? name with
      | some model => return .model model
      | none => fault (.undefinedVariable name)

/-- Assign to the variable that a name means. -/
def assign (name : String) (value : Value) : Eval Unit := do
  let scratch ← get
  match scratch.frames.get? name with
  | none => fault (.undefinedVariable name)
  | some v =>
      if v.readOnly then
        fault (.readOnlyVariable name)
      else
        match scratch.frames.set? name value with
        | some frames => set { scratch with frames := frames }
        | none => fault (.undefinedVariable name)

def asCondition : Value → Eval Bool
  | .boolean b => pure b
  | other => fault (.conditionType other.typeName)

/-- Print values to a channel, one after the other, and perhaps a line feed. -/
def emit (setting : Setting) (channel : Channel) (endLine : Bool) (values : List Value) :
    Eval Value := do
  let text := String.join (values.map Value.display)
  let stream := setting.stream channel
  let scratch ← get
  let (result, sinks) :=
    if endLine then stream.writeLine text scratch.sinks else stream.writeText text scratch.sinks
  set { scratch with sinks := sinks }
  match result with
  | .ok () => return .null
  | .error cause => fault (.writeFailed cause)

def size : List Value → Eval Value
  | [.list items] => return .integer (Int64.ofNat items.length)
  | [.text text] => return .integer (Int64.ofNat text.length)
  | [other] => fault (.sizeType other.typeName)
  | _ => fault .sizeArity

def contents (setting : Setting) : List Value → Eval Value
  | [.model model] => return .list (setting.models.contents model)
  | _ => fault .contentsArguments

/-- Make a host object of a named type. -/
def native (setting : Setting) : List Value → Eval Value
  | .text type :: arguments => do
      match NativeDelegate.find? setting.delegates type with
      | none => fault (.unknownNative type)
      | some delegate =>
          let scratch ← get
          set { scratch with objectsMade := scratch.objectsMade + 1 }
          match delegate.create scratch.objectsMade type arguments with
          | some value => return value
          | none => fault (.refusedNative type)
  | _ => fault .nativeName

/-- Call what the language itself provides. -/
def builtin (setting : Setting) (name : String) (arguments : List Value) : Eval Value :=
  match name with
  | "print" => emit setting .output false arguments
  | "println" => emit setting .output true arguments
  | "warn" => emit setting .warning true arguments
  | "error" => emit setting .error true arguments
  | "size" => size arguments
  | "contents" => contents setting arguments
  | "native" => native setting arguments
  | name => fault (.undefinedOperation name)

/-- How an operation of the program is called. -/
abbrev Invoke :=
  Operation → List Value → Eval Value

/-- Call an operation of the program or, if it has none of the name, a built-in one. -/
def call (setting : Setting) (invoke : Invoke) (name : String) (arguments : List Value) :
    Eval Value :=
  match setting.program.operation? name with
  | some op => invoke op arguments
  | none => builtin setting name arguments

mutual

def expr (setting : Setting) (invoke : Invoke) : Expr → Eval Value
  | .integer value => pure (.integer value)
  | .real value => pure (.real value)
  | .text value => pure (.text value)
  | .boolean value => pure (.boolean value)
  | .null => pure .null
  | .name name => lookup setting name
  | .unary op operand => do
      let value ← expr setting invoke operand
      ofResult (unaryOp op value)
  | .binary .and left right => do
      let first ← asCondition (← expr setting invoke left)
      if first then
        let second ← asCondition (← expr setting invoke right)
        return .boolean second
      else
        return .boolean false
  | .binary .or left right => do
      let first ← asCondition (← expr setting invoke left)
      if first then
        return .boolean true
      else
        let second ← asCondition (← expr setting invoke right)
        return .boolean second
  | .binary op left right => do
      let a ← expr setting invoke left
      let b ← expr setting invoke right
      ofResult (binaryOp op a b)
  | .call name arguments => do
      let values ← exprs setting invoke arguments
      call setting invoke name values

/-- The values of expressions, from left to right. -/
def exprs (setting : Setting) (invoke : Invoke) : List Expr → Eval (List Value)
  | [] => pure []
  | e :: rest => do
      let value ← expr setting invoke e
      let values ← exprs setting invoke rest
      return value :: values

end

/-- The value of an expression that must be a condition. -/
def condition (setting : Setting) (invoke : Invoke) (e : Expr) : Eval Bool := do
  asCondition (← expr setting invoke e)

/-- Repeat a body as long as a test holds, for a number of turns at most. -/
def whileHolds (test : Eval Bool) (body : Eval Flow) : Nat → Eval Flow
  | 0 => throw .unfinished
  | turns + 1 => do
      if ← test then
        match ← body with
        | .returned value => return .returned value
        | .next => whileHolds test body turns
      else
        return .next

mutual

/-- Run a statement. -/
def stmt (setting : Setting) (invoke : Invoke) : Stmt → Eval Flow
  | .var name none => do
      modifyFrames fun frames => frames.declareLocal (.mutable name .null)
      return .next
  | .var name (some e) => do
      let value ← expr setting invoke e
      modifyFrames fun frames => frames.declareLocal (.mutable name value)
      return .next
  | .assign name e => do
      let value ← expr setting invoke e
      assign name value
      return .next
  | .ret none => return .returned .null
  | .ret (some e) => do
      let value ← expr setting invoke e
      return .returned value
  | .cond test yes no => do
      if ← condition setting invoke test then
        inScope (block setting invoke yes)
      else
        inScope (block setting invoke no)
  | .loop test body =>
      whileHolds (condition setting invoke test) (inScope (block setting invoke body))
        setting.turns
  | .expr e => do
      let _ ← expr setting invoke e
      return .next

/-- Run statements until one returns. -/
def block (setting : Setting) (invoke : Invoke) : List Stmt → Eval Flow
  | [] => return .next
  | s :: rest => do
      match ← stmt setting invoke s with
      | .returned value => return .returned value
      | .next => block setting invoke rest

end

/-- The parameters of an operation bound to arguments. -/
def bindings (op : Operation) (arguments : List Value) : List Variable :=
  List.zipWith Variable.mutable op.params arguments

/-- Call an operation, with room for the given number of active calls. -/
def invoke (setting : Setting) : Nat → Invoke
  | room, op, arguments => do
      if arguments.length ≠ op.params.length then
        fault (.argumentCount op.name op.params.length arguments.length)
      else
        match room with
        | 0 => fault (.callDepth op.name)
        | room + 1 =>
            let flow ← inScope do
              declareAll (bindings op arguments)
              block setting (invoke setting room) op.body
            return flow.value

/-- Run the statements of the program in a local scope. -/
def script (setting : Setting) : Eval Value := do
  let flow ← inScope (block setting (invoke setting maxCallDepth) setting.program.statements)
  return flow.value

def operation (setting : Setting) (name : String) (arguments : List Value) : Eval Value :=
  match setting.program.operation? name with
  | some op => invoke setting maxCallDepth op arguments
  | none => fault (.undefinedOperation name)

end Eval
end Script
end StagedScript
