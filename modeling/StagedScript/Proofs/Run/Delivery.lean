import StagedScript.Run.Outcome

/-!
# The outcome of a run is delivered once

The thread of a run and the holder of its handle take turns in any order: the thread makes a step,
or the holder polls. A poll is kept with whether the outcome had been sent when it was made.

Beside the handle stands how many calls were answered since the outcome was sent. It says what is in
the channel: the outcome as long as no call was answered, nothing from then on (`Stands`). The order
in which the thread sends and lets go does not matter to it, nor does a poll between the two.

**Results.** Polls find nothing until the outcome is sent. The first call after that, a poll or the
wait, gets the outcome that the controller has where it stands, and every later one learns that it
is gone (`outcome_delivered_once`).
-/

namespace StagedScript

/-- What happens next to a run on a thread of its own: a step of the thread, or a poll. -/
inductive Turn where
  | thread
  | poll
deriving DecidableEq

/-- A poll: whether the outcome had been sent, and what came of the poll. -/
structure AnsweredPoll (σ ρ : Type) where
  sent : Bool
  answer : Option (Except ScriptError (RunOutcome σ ρ))

namespace RunHandle

variable {σ ρ : Type}

/-- Let thread and holder take turns: the polls, and the handle in the end. -/
def takeTurns (handle : RunHandle σ ρ) :
    List Turn → InWorld (List (AnsweredPoll σ ρ) × RunHandle σ ρ)
  | [] => return ([], handle)
  | .thread :: rest => do takeTurns (← handle.threadStep) rest
  | .poll :: rest => do
      let (answer, next) ← handle.poll
      let (polls, last) ← takeTurns next rest
      return (⟨handle.thread.hasSent, answer⟩ :: polls, last)

/-- What a call gets after the outcome was sent, by how many calls got something before it. -/
def delivery (outcome : RunOutcome σ ρ) : Nat → Except ScriptError (RunOutcome σ ρ)
  | 0 => .ok outcome
  | _ + 1 => .error lostOutcome

section Steps

variable {controller : Controller σ ρ} {world : World}

/-- How a handle can stand in a world, by how many calls were answered since the outcome was sent:
the thread has the controller, or it ran in the first world and the outcome is on its way to the
holder. -/
inductive Stands (controller : Controller σ ρ) (world : World) :
    Nat → RunHandle σ ρ → World → Prop
  | running : Stands controller world 0 ⟨.running controller, none⟩ world
  | finished : Stands controller world 0
      ⟨.finished (controller.runInline.run world).1, none⟩ (controller.runInline.run world).2
  | sent : Stands controller world 0
      ⟨.sent, some (controller.runInline.run world).1⟩ (controller.runInline.run world).2
  | ended : Stands controller world 0
      ⟨.ended, some (controller.runInline.run world).1⟩ (controller.runInline.run world).2
  | taken (answered : Nat) : Stands controller world (answered + 1)
      ⟨.ended, none⟩ (controller.runInline.run world).2

variable {answered : Nat} {handle : RunHandle σ ρ} {now : World}

theorem Stands.threadStep (stands : Stands controller world answered handle now) :
    Stands controller world answered (handle.threadStep.run now).1
      (handle.threadStep.run now).2 := by
  cases stands with
  | running => exact .finished
  | finished => exact .sent
  | sent => exact .ended
  | ended => exact .ended
  | taken => exact .taken _

/-- Before the outcome was sent a poll finds nothing and changes nothing. -/
theorem Stands.poll_unsent (stands : Stands controller world answered handle now)
    (unsent : handle.thread.hasSent = false) : handle.poll.run now = ((none, handle), now) := by
  cases stands with
  | running => rfl
  | finished => rfl
  | sent => cases unsent
  | ended => cases unsent
  | taken => cases unsent

/-- Once the outcome was sent a poll is answered, and the thread has ended when it returns. -/
theorem Stands.poll_sent (stands : Stands controller world answered handle now)
    (sent : handle.thread.hasSent = true) :
    (handle.poll.run now).1.1 = some (delivery (controller.runInline.run world).1 answered) ∧
      Stands controller world (answered + 1) (handle.poll.run now).1.2 (handle.poll.run now).2 ∧
      (handle.poll.run now).1.2.thread = .ended := by
  cases stands with
  | running => cases sent
  | finished => cases sent
  | sent => exact ⟨rfl, .taken 0, rfl⟩
  | ended => exact ⟨rfl, .taken 0, rfl⟩
  | taken => exact ⟨rfl, .taken _, rfl⟩

/-- To wait is to be the next call that is answered, whether the outcome was sent or not. -/
theorem Stands.wait (stands : Stands controller world answered handle now) :
    handle.wait.run now =
      (delivery (controller.runInline.run world).1 answered,
        (controller.runInline.run world).2) := by
  cases stands <;> rfl

theorem hasSent_iff (thread : RunThread σ ρ) : thread.hasSent = true ↔ thread.stepsLeft ≤ 1 := by
  cases thread <;> simp [RunThread.hasSent, RunThread.stepsLeft]

theorem stepsLeft_threadStep (handle : RunHandle σ ρ) (now : World) :
    (handle.threadStep.run now).1.thread.stepsLeft = handle.thread.stepsLeft - 1 := by
  obtain ⟨thread, waiting⟩ := handle
  cases thread <;> rfl

/-- What the polls after the outcome was sent come to, the first of them with `answered` calls
before it. -/
def answers (outcome : RunOutcome σ ρ) (answered count : Nat) : List (AnsweredPoll σ ρ) :=
  (List.range' answered count).map fun n => ⟨true, some (delivery outcome n)⟩

theorem run_takeTurns_poll (handle : RunHandle σ ρ) (rest : List Turn) (now : World) :
    (handle.takeTurns (.poll :: rest)).run now =
      let polled := handle.poll.run now
      let later := (polled.1.2.takeTurns rest).run polled.2
      ((⟨handle.thread.hasSent, polled.1.1⟩ :: later.1.1, later.1.2), later.2) :=
  rfl

/-- Polls find nothing up to some point, where the outcome was sent. The calls after it get what is
due to them. -/
theorem Stands.takeTurns (turns : List Turn) :
    ∀ {answered : Nat} {handle : RunHandle σ ρ} {now : World},
      Stands controller world answered handle now →
      let taken := (handle.takeTurns turns).run now
      ∃ unsent sent, unsent + sent = turns.count .poll ∧
        taken.1.1 = List.replicate unsent ⟨false, none⟩ ++
          answers (controller.runInline.run world).1 answered sent ∧
        Stands controller world (answered + sent) taken.1.2 taken.2 ∧
        (handle.thread.hasSent = true → unsent = 0) ∧
        (taken.1.2.thread.hasSent = true ↔ handle.thread.stepsLeft ≤ turns.count .thread + 1) := by
  induction turns with
  | nil =>
      intro answered handle now stands taken
      exact ⟨0, 0, rfl, rfl, stands, fun _ => rfl, hasSent_iff _⟩
  | cons turn rest ih =>
      intro answered handle now stands taken
      cases turn with
      | thread =>
          obtain ⟨unsent, sent, count, polls, last, before, after⟩ := ih stands.threadStep
          rw [hasSent_iff, stepsLeft_threadStep] at before
          rw [stepsLeft_threadStep] at after
          refine ⟨unsent, sent, by simpa using count, polls, last, fun already => before ?_,
            after.trans ?_⟩
          · have soon := (hasSent_iff _).1 already
            omega
          · rw [List.count_cons_self]
            omega
      | poll =>
          have polled := run_takeTurns_poll handle rest now
          dsimp only at polled
          cases already : handle.thread.hasSent with
          | false =>
              obtain ⟨unsent, sent, count, polls, last, -, after⟩ := ih stands
              rw [stands.poll_unsent already, already] at polled
              rw [show taken = _ from polled]
              refine ⟨unsent + 1, sent, ?_, congrArg (⟨false, none⟩ :: ·) polls, last, nofun, ?_⟩
              · rw [List.count_cons_self]
                omega
              · rwa [List.count_cons_of_ne (by decide)]
          | true =>
              obtain ⟨answer, next, ended⟩ := stands.poll_sent already
              obtain ⟨unsent, sent, count, polls, last, before, after⟩ := ih next
              rw [ended] at before after
              obtain rfl : unsent = 0 := before rfl
              rw [answer, already] at polled
              rw [show taken = _ from polled]
              refine ⟨0, sent + 1, ?_, congrArg (_ :: ·) polls, ?_, fun _ => rfl, after.trans ?_⟩
              · rw [List.count_cons_self]
                omega
              · rwa [Nat.add_right_comm] at last
              · have soon := (hasSent_iff _).1 already
                have none : (RunThread.ended : RunThread σ ρ).stepsLeft = 0 := rfl
                rw [List.count_cons_of_ne (by decide)]
                omega

end Steps

/-- Whatever turns a thread and the holder of its handle take, the polls that were made before the
outcome was sent found nothing. The calls after that, the polls and then a wait, are answered each
by what is due to it: the first gets what the controller comes to where it stands, and those after
it learn that the outcome is gone. A wait also comes to an end if it was not sent before. -/
theorem outcome_delivered_once (controller : Controller σ ρ) (turns : List Turn) (world : World) :
    let inline := controller.runInline.run world
    let taken := ((spawn controller).takeTurns turns).run world
    (taken.1.2.thread.hasSent = true ↔ 2 ≤ turns.count .thread) ∧
      ∃ unsent sent, unsent + sent = turns.count .poll ∧
        taken.1.1 = List.replicate unsent ⟨false, none⟩ ++ answers inline.1 0 sent ∧
        taken.1.2.wait.run taken.2 = (delivery inline.1 sent, inline.2) := by
  intro inline taken
  obtain ⟨unsent, sent, count, polls, last, -, after⟩ :=
    Stands.takeTurns turns (.running : Stands controller world 0 (spawn controller) world)
  rw [Nat.zero_add] at last
  refine ⟨after.trans ?_, unsent, sent, count, polls, last.wait⟩
  change 3 ≤ _ ↔ _
  omega

end RunHandle
end StagedScript
