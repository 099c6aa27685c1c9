import StagedScript.Run.Controller

/-!
# Outcomes of deferred runs

A controller can be run where it stands or on a thread of its own. A thread hands over its outcome
through a channel that holds one message; the handle of the run takes it out. The outcome carries
the controller with it, and no handle has it twice.

The thread runs the controller, sends the outcome and lets go of the channel, one step after the
other. Between its steps the holder of the handle can call. A call that has to wait lets the thread
go on, since nobody else can do anything meanwhile.
-/

namespace StagedScript

structure RunOutcome (σ ρ : Type) where
  controller : Controller σ ρ
  result : Except ScriptError ρ

namespace RunOutcome

variable {σ ρ : Type}

/-- Whether the run did not fail. -/
def completed (outcome : RunOutcome σ ρ) : Bool :=
  outcome.result.isOk

def error? (outcome : RunOutcome σ ρ) : Option ScriptError :=
  match outcome.result with
  | .ok _ => none
  | .error error => some error

def result? (outcome : RunOutcome σ ρ) : Option ρ :=
  outcome.result.toOption

def dispose (outcome : RunOutcome σ ρ) : InWorld (RunOutcome σ ρ) := do
  return { outcome with controller := ← outcome.controller.dispose }

end RunOutcome

namespace Controller

def runInline (controller : Controller σ ρ) : InWorld (RunOutcome σ ρ) := do
  let (result, controller) ← controller.run
  return ⟨controller, result⟩

end Controller

/-- How far the thread of a run came. -/
inductive RunThread (σ ρ : Type) where
  /-- It has not finished the run. -/
  | running (controller : Controller σ ρ)
  /-- It finished the run and has not sent the outcome. -/
  | finished (outcome : RunOutcome σ ρ)
  /-- It sent the outcome and still holds its end of the channel. -/
  | sent
  /-- It let go of the channel. -/
  | ended

namespace RunThread

variable {σ ρ : Type}

def hasSent : RunThread σ ρ → Bool
  | .running _ => false
  | .finished _ => false
  | .sent => true
  | .ended => true

/-- How many steps are left to the thread. -/
def stepsLeft : RunThread σ ρ → Nat
  | .running _ => 3
  | .finished _ => 2
  | .sent => 1
  | .ended => 0

end RunThread

/-- The handle of a run on a thread of its own, with the message that waits in the channel. -/
structure RunHandle (σ ρ : Type) where
  thread : RunThread σ ρ
  waiting : Option (RunOutcome σ ρ)

namespace RunHandle

variable {σ ρ : Type}

/-- Run a controller on a thread of its own. -/
def spawn (controller : Controller σ ρ) : RunHandle σ ρ :=
  ⟨.running controller, none⟩

/-- The error of a handle whose outcome is gone. -/
def lostOutcome : ScriptError :=
  .engine (.runtime .lostOutcome)

/-- One step of the thread. It sends once, so the channel has room for what it sends. -/
def threadStep (handle : RunHandle σ ρ) : InWorld (RunHandle σ ρ) := do
  match handle.thread with
  | .running controller => return { handle with thread := .finished (← controller.runInline) }
  | .finished outcome => return ⟨.sent, some outcome⟩
  | .sent => return { handle with thread := .ended }
  | .ended => return handle

/-- Let the thread make some steps. -/
def goOn (handle : RunHandle σ ρ) : Nat → InWorld (RunHandle σ ρ)
  | 0 => return handle
  | steps + 1 => do goOn (← handle.threadStep) steps

/-- Wait for the thread to end. -/
def join (handle : RunHandle σ ρ) : InWorld (RunHandle σ ρ) :=
  handle.goOn handle.thread.stepsLeft

/-- What the channel has for its receiver: the message that waits, or, if there is none and none can
come any more, the error that it is gone. There is nothing as long as the thread may send one. -/
def received? (handle : RunHandle σ ρ) : Option (Except ScriptError (RunOutcome σ ρ)) :=
  match handle.waiting, handle.thread with
  | some outcome, _ => some (.ok outcome)
  | none, .ended => some (.error lostOutcome)
  | none, _ => none

/-- Take the outcome out of the channel if it is there. Who gets an answer waits for the thread to
end. -/
def poll (handle : RunHandle σ ρ) :
    InWorld (Option (Except ScriptError (RunOutcome σ ρ)) × RunHandle σ ρ) := do
  match handle.received? with
  | none => return (none, handle)
  | some answer => return (some answer, ← join { handle with waiting := none })

/-- Let the thread go on until the channel has something for its receiver, for a number of steps at
most. -/
def untilReceived (handle : RunHandle σ ρ) : Nat → InWorld (RunHandle σ ρ)
  | 0 => return handle
  | steps + 1 =>
      if handle.received?.isSome then
        return handle
      else do
        untilReceived (← handle.threadStep) steps

/-- Wait for the outcome to come through the channel, and then for the thread to end. A thread that
ended leaves nobody waiting, so the steps that are left to it are enough. -/
def wait (handle : RunHandle σ ρ) : InWorld (Except ScriptError (RunOutcome σ ρ)) := do
  let ready ← handle.untilReceived handle.thread.stepsLeft
  let _ ← join { ready with waiting := none }
  return ready.received?.getD (.error lostOutcome)

end RunHandle
end StagedScript
