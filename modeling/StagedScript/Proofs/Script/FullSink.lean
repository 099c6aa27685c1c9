import StagedScript.Proofs.Script.Construction
import StagedScript.Proofs.Script.Writing

/-!
# Printing to a sink that gets full

A sink may take some number of bytes and no more. A program that prints to it runs as it would run
with a sink that takes everything, up to the first print that does not fit: what fits of that is
kept, and the program fails. So two runs stand beside each other in every evaluation, the whole one
and the one that may be cut short, with the same state apart from the capacity until then
(`Script.Eval.CutRun`).

**Results.** A run whose output sink has enough room is the whole run. With less room it fails, the
sink has received the front of what it would receive that fits, every other sink a front of its own,
and the frame stack is as deep as before (`ScriptEngine.full_sink_keeps_front`).
-/

namespace StagedScript

namespace Sink

/-- The sink with another capacity. -/
def taking (sink : Sink) (capacity : Option Nat) : Sink :=
  { sink with capacity := capacity }

theorem write_of_fits {sink : Sink} {total : Nat} {bytes : ByteArray}
    (fits : (sink.received ++ bytes).size ≤ total) :
    (sink.taking (some total)).write bytes =
      (.ok (), { received := sink.received ++ bytes, capacity := some total }) := by
  have all : (sink.taking (some total)).fitting bytes.size = bytes.size := by
    rw [ByteArray.size_append] at fits
    simp only [fitting, taking]
    omega
  rw [write, if_pos all]
  rfl

theorem write_of_beyond {sink : Sink} {total : Nat} {bytes : ByteArray}
    (room : sink.received.size ≤ total) (beyond : total < (sink.received ++ bytes).size) :
    (sink.taking (some total)).write bytes =
      (.error .sinkFull,
        { received := (sink.received ++ bytes).extract 0 total, capacity := some total }) := by
  rw [ByteArray.size_append] at beyond
  have front : (sink.taking (some total)).fitting bytes.size = total - sink.received.size := by
    simp only [fitting, taking]
    omega
  have short : total - sink.received.size ≠ bytes.size := by omega
  have kept := extract_append_front sink.received bytes (total - sink.received.size)
  rw [Nat.add_sub_cancel' room] at kept
  rw [write, front, if_neg short, kept]
  rfl

end Sink

namespace Sinks

/-- The sinks, one of them with another capacity. -/
def limit (sinks : Sinks) (id : SinkId) (capacity : Option Nat) : Sinks :=
  sinks.put id ((sinks.get id).taking capacity)

theorem get_limit_self {sinks : Sinks} {id : SinkId} (inUse : id < sinks.all.length)
    (capacity : Option Nat) :
    (sinks.limit id capacity).get id = (sinks.get id).taking capacity :=
  get_put_self inUse _

theorem received_limit (sinks : Sinks) (id : SinkId) (capacity : Option Nat) (other : SinkId) :
    ((sinks.limit id capacity).get other).received = (sinks.get other).received := by
  by_cases same : id = other
  · subst same
    by_cases inUse : id < sinks.all.length
    · rw [get_limit_self inUse]
      rfl
    · rw [limit, put_of_unused (Nat.le_of_not_lt inUse)]
  · rw [limit, get_put_of_ne sinks _ same]

theorem limit_limit (sinks : Sinks) (id : SinkId) (first second : Option Nat) :
    (sinks.limit id first).limit id second = sinks.limit id second := by
  by_cases inUse : id < sinks.all.length
  · rw [limit, get_limit_self inUse, limit, put_put]
    rfl
  · have unused := Nat.le_of_not_lt inUse
    rw [limit, limit, limit, put_of_unused unused, put_of_unused unused]

theorem capacity_limit_none (sinks : Sinks) (id : SinkId) :
    ((sinks.limit id none).get id).capacity = none := by
  by_cases inUse : id < sinks.all.length
  · rw [get_limit_self inUse]
    rfl
  · have unused := Nat.le_of_not_lt inUse
    rw [limit, put_of_unused unused, get_of_unused unused]
    rfl

/-- What sinks have received may become more, and is never lost. -/
def Grows (before after : Sinks) : Prop :=
  ∀ id, ∃ rest, (after.get id).received = (before.get id).received ++ rest

theorem Grows.refl (sinks : Sinks) : sinks.Grows sinks :=
  fun _ => ⟨ByteArray.empty, ByteArray.append_empty.symm⟩

theorem Grows.trans {first second third : Sinks} (left : first.Grows second)
    (right : second.Grows third) : first.Grows third := by
  intro id
  obtain ⟨more, middle⟩ := left id
  obtain ⟨rest, last⟩ := right id
  exact ⟨more ++ rest, by rw [last, middle, ByteArray.append_assoc]⟩

theorem grows_write (sinks : Sinks) (id : SinkId) (bytes : ByteArray) :
    sinks.Grows (sinks.write id bytes).2 := by
  intro other
  by_cases same : id = other
  · subst same
    by_cases inUse : id < sinks.all.length
    · rw [get_write_self inUse, Sink.snd_write]
      exact ⟨_, rfl⟩
    · rw [write_eq_put, put_of_unused (Nat.le_of_not_lt inUse)]
      exact Grows.refl sinks id
  · rw [get_write_of_ne sinks bytes same]
    exact Grows.refl sinks other

section Cut

variable {out : SinkId} {total : Nat}

/-- A sink takes everything, and has not received more than so many bytes. -/
structure Room (out : SinkId) (total : Nat) (sinks : Sinks) : Prop where
  unlimited : (sinks.get out).capacity = none
  within : (sinks.get out).received.size ≤ total

/-- Sinks of a run that was cut short, beside those of the whole run: one sink has the bytes that
fit, every other one what it had received when the run ended. -/
structure CutShort (out : SinkId) (total : Nat) (cut whole : Sinks) : Prop where
  beyond : total < (whole.get out).received.size
  kept : (cut.get out).received = (whole.get out).received.extract 0 total
  grows : cut.Grows whole

/-- Whatever the whole run goes on to print. -/
theorem CutShort.trans {cut whole later : Sinks} (short : CutShort out total cut whole)
    (grows : whole.Grows later) : CutShort out total cut later := by
  obtain ⟨rest, more⟩ := grows out
  have beyond := short.beyond
  have none : rest.extract 0 0 = ByteArray.empty := by
    rw [ByteArray.extract_eq_empty_iff]
    omega
  refine ⟨?_, ?_, short.grows.trans grows⟩
  · rw [more, ByteArray.size_append]
    omega
  · rw [more, ByteArray.extract_append, Nat.zero_sub,
      Nat.sub_eq_zero_of_le (Nat.le_of_lt beyond), none, ByteArray.append_empty]
    exact short.kept

/-- A write of which only so many bytes may be kept, beside the whole one: it comes to the same, or
it does not fit. -/
inductive CutWrite (out : SinkId) (total : Nat) :
    Except IoError Unit × Sinks → Except IoError Unit × Sinks → Prop
  | fits (answer : Except IoError Unit) {after : Sinks} :
      after.Room out total →
      CutWrite out total (answer, after.limit out (some total)) (answer, after)
  | full {answer : Except IoError Unit} {cut whole : Sinks} :
      CutShort out total cut whole → CutWrite out total (.error .sinkFull, cut) (answer, whole)

variable {sinks : Sinks} {bytes : ByteArray}

theorem Room.write_eq (room : sinks.Room out total) (bytes : ByteArray) :
    sinks.write out bytes = (.ok (), sinks.put out
      { sinks.get out with received := (sinks.get out).received ++ bytes }) := by
  rw [write_eq_put, Sink.write_unlimited room.unlimited]

theorem cutWrite_of_ne {id : SinkId} (different : out ≠ id) (room : sinks.Room out total) :
    CutWrite out total ((sinks.limit out (some total)).write id bytes) (sinks.write id bytes) := by
  have same : (sinks.write id bytes).2.get out = sinks.get out :=
    get_write_of_ne sinks bytes different.symm
  have cut : (sinks.limit out (some total)).write id bytes =
      ((sinks.write id bytes).1, (sinks.write id bytes).2.limit out (some total)) := by
    rw [limit, limit, same, write_eq_put, get_put_of_ne _ _ different, put_comm _ _ _ different]
    rfl
  rw [cut]
  exact .fits _ ⟨by rw [same, room.unlimited], by rw [same]; exact room.within⟩

/-- A sink that is not there receives nothing and is never full. -/
theorem cutWrite_of_unused (unused : sinks.all.length ≤ out) (room : sinks.Room out total) :
    CutWrite out total ((sinks.limit out (some total)).write out bytes)
      (sinks.write out bytes) := by
  have cut : sinks.limit out (some total) = sinks := put_of_unused unused _
  have same := CutWrite.fits (.ok ()) room
  rw [cut] at same
  rwa [cut, write_of_unused unused]

theorem cutWrite_of_fits (inUse : out < sinks.all.length) (room : sinks.Room out total)
    (fits : ((sinks.get out).received ++ bytes).size ≤ total) :
    CutWrite out total ((sinks.limit out (some total)).write out bytes)
      (sinks.write out bytes) := by
  have cut : (sinks.limit out (some total)).write out bytes = (.ok (), sinks.put out
      { received := (sinks.get out).received ++ bytes, capacity := some total }) := by
    rw [write_eq_put, get_limit_self inUse, Sink.write_of_fits fits, limit, put_put]
  have after : (sinks.put out
      { sinks.get out with received := (sinks.get out).received ++ bytes }).Room out total := by
    constructor
    · rw [get_put_self inUse, room.unlimited]
    · rw [get_put_self inUse]
      exact fits
  have same := CutWrite.fits (.ok ()) after
  rw [limit, get_put_self inUse, put_put] at same
  rw [cut, room.write_eq]
  exact same

theorem cutWrite_of_beyond (inUse : out < sinks.all.length) (room : sinks.Room out total)
    (beyond : total < ((sinks.get out).received ++ bytes).size) :
    CutWrite out total ((sinks.limit out (some total)).write out bytes)
      (sinks.write out bytes) := by
  have cut : (sinks.limit out (some total)).write out bytes = (.error .sinkFull, sinks.put out
      { received := ((sinks.get out).received ++ bytes).extract 0 total,
        capacity := some total }) := by
    rw [write_eq_put, get_limit_self inUse, Sink.write_of_beyond room.within beyond, limit, put_put]
  rw [cut, room.write_eq]
  refine .full ⟨?_, ?_, fun id => ?_⟩
  · rwa [get_put_self inUse]
  · rw [get_put_self inUse, get_put_self inUse]
  · by_cases same : out = id
    · subst same
      rw [get_put_self inUse, get_put_self inUse]
      refine ⟨((sinks.get out).received ++ bytes).extract total
        ((sinks.get out).received ++ bytes).size, ?_⟩
      rw [ByteArray.extract_append_extract, Nat.zero_min, Nat.max_eq_right (Nat.le_of_lt beyond),
        ByteArray.extract_zero_size]
    · rw [get_put_of_ne _ _ same, get_put_of_ne _ _ same]
      exact Grows.refl sinks id

theorem cutWrite (id : SinkId) (bytes : ByteArray) (room : sinks.Room out total) :
    CutWrite out total ((sinks.limit out (some total)).write id bytes) (sinks.write id bytes) := by
  by_cases different : out ≠ id
  · exact cutWrite_of_ne different room
  obtain rfl : out = id := not_not.1 different
  by_cases inUse : out < sinks.all.length
  · by_cases fits : ((sinks.get out).received ++ bytes).size ≤ total
    · exact cutWrite_of_fits inUse room fits
    · exact cutWrite_of_beyond inUse room (Nat.lt_of_not_le fits)
  · exact cutWrite_of_unused (Nat.le_of_not_lt inUse) room

end Cut

end Sinks

namespace Script

/-- What a program changes, with another capacity of a sink. -/
def Scratch.limit (scratch : Scratch) (id : SinkId) (capacity : Option Nat) : Scratch :=
  { scratch with sinks := scratch.sinks.limit id capacity }

namespace Eval

variable {α β : Type} {setting : Setting} {out : SinkId} {total : Nat}

/-- An evaluation that may be cut short by a full sink, beside the whole one: it comes to the same,
or it fails at the first print that does not fit. -/
inductive CutRun (out : SinkId) (total : Nat) :
    Except EngineError α × Scratch → Except EngineError α × Scratch → Prop
  | fits {answer : Except EngineError α} (after : Scratch) :
      after.sinks.Room out total →
      CutRun out total (answer, after.limit out (some total)) (answer, after)
  | full {answer : Except EngineError α} {cut whole : Scratch} :
      Sinks.CutShort out total cut.sinks whole.sinks →
      CutRun out total (.error (.runtime (.writeFailed .sinkFull)), cut) (answer, whole)

theorem Quiet.sinks {m : Eval α} (quiet : m.Quiet) (before : Scratch) :
    (m.run.run before).2.sinks = before.sinks :=
  congrArg (fun ran => ran.2.sinks) (quiet before before.sinks)

/-- What sinks have received is never lost. -/
theorem Built.grows {m : Eval α} (built : Built setting m) :
    ∀ before : Scratch, before.sinks.Grows (m.run.run before).2.sinks := by
  induction built with
  | quiet quiet =>
      intro before
      rw [quiet.sinks]
      exact .refl _
  | emit channel endLine values =>
      intro before
      rw [run_emit]
      exact Sinks.grows_write _ _ _
  | @bind α β m f _ _ first next =>
      intro before
      have start := first before
      rw [run_bind]
      generalize m.run.run before = ran at start ⊢
      obtain ⟨error | a, middle⟩ := ran
      · exact start
      · exact start.trans (next a middle)
  | inScope _ inside =>
      intro before
      exact inside { before with frames := before.frames.enterLocal }

/-- A print is cut short if it does not fit. -/
theorem cutRun_emit (channel : Channel) (endLine : Bool) (values : List Value) {before : Scratch}
    (room : before.sinks.Room out total) :
    CutRun out total
      ((emit setting channel endLine values).run.run (before.limit out (some total)))
      ((emit setting channel endLine values).run.run before) := by
  have written := Sinks.cutWrite (setting.stream channel).sink (printed endLine values).toUTF8 room
  rw [run_emit, run_emit]
  unfold Stream.writeText Scratch.limit
  dsimp only
  generalize (before.sinks.limit out (some total)).write _ _ = cut at written ⊢
  generalize before.sinks.write _ _ = whole at written ⊢
  cases written with
  | fits answer room => exact .fits { before with sinks := _ } room
  | full short => exact .full short

/-- What becomes of the variables does not matter to the sinks. -/
theorem CutRun.withFrames {cut whole : Except EngineError α × Scratch}
    (run : CutRun out total cut whole) (change : FrameStack → FrameStack) :
    CutRun out total (cut.1, { cut.2 with frames := change cut.2.frames })
      (whole.1, { whole.2 with frames := change whole.2.frames }) := by
  cases run with
  | fits after room => exact .fits { after with frames := change after.frames } room
  | full short => exact .full short

/-- Up to the first print that does not fit, an evaluation goes as with a sink that takes
everything. -/
theorem Built.cutRun {m : Eval α} (built : Built setting m) :
    ∀ before : Scratch, before.sinks.Room out total →
      CutRun out total (m.run.run (before.limit out (some total))) (m.run.run before) := by
  induction built with
  | quiet quiet =>
      intro before room
      rw [Scratch.limit, quiet, ← quiet.sinks before]
      exact .fits _ (by rwa [quiet.sinks])
  | emit channel endLine values => exact fun before room => cutRun_emit channel endLine values room
  | @bind α β m f _ later first next =>
      intro before room
      have start := first before room
      rw [run_bind, run_bind]
      generalize m.run.run (before.limit out (some total)) = cut at start ⊢
      generalize m.run.run before = whole at start ⊢
      cases start with
      | @fits answer after room =>
          cases answer with
          | ok a => exact next a after room
          | error error => exact .fits after room
      | @full answer cut whole short =>
          cases answer with
          | ok a => exact .full (short.trans ((later a).grows whole))
          | error error => exact .full short
  | inScope _ inside =>
      intro before room
      have ran := inside { before with frames := before.frames.enterLocal } room
      exact ran.withFrames FrameStack.leaveLocal

end Eval
end Script

namespace Resources

/-- The resources, one sink with another capacity. -/
def limit (resources : Resources) (id : SinkId) (capacity : Option Nat) : Resources :=
  { resources with sinks := resources.sinks.limit id capacity }

end Resources

namespace ScriptEngine

/-- What an action of an engine comes to if the output sink takes `room` more bytes. The action with
a sink that takes everything stands beside it, and what that prints decides. -/
def KeepsFront (action : Act ScriptEngine (EngineResult Value)) (engine : ScriptEngine)
    (resources : Resources) (room : Nat) : Prop :=
  let out := engine.context.output.sink
  let received := (resources.sinks.get out).received
  let total := received.size + room
  let whole := Act.apply action (engine, resources.limit out none)
  let cut := Act.apply action (engine, resources.limit out (some total))
  ∃ written, (whole.2.2.sinks.get out).received = received ++ written ∧
    (written.size ≤ room → cut = (whole.1, whole.2.1, whole.2.2.limit out (some total))) ∧
    (room < written.size →
      (∃ fault, cut.1 = .error (.runtime fault) ∧
        fault.message = "Failed to write output: sink full") ∧
      (cut.2.2.sinks.get out).received = received ++ written.extract 0 room ∧
      cut.2.2.sinks.Grows whole.2.2.sinks ∧
      cut.2.1.context.frames.depth = engine.context.frames.depth)

/-- An engine and the resources when an evaluation ended, with its answer. -/
def ended (engine : ScriptEngine) (resources : Resources)
    (ran : EngineResult Value × Script.Scratch) : EngineResult Value × ScriptEngine × Resources :=
  (ran.1, { engine with context := { engine.context with frames := ran.2.frames } },
    { resources with sinks := ran.2.sinks, objectsMade := ran.2.objectsMade })

/-- An evaluation goes as with a sink that takes everything, or it is cut short. -/
theorem cut_evaluate {body : Script.Setting → Script.Eval Value}
    (built : ∀ setting, Script.Eval.Built setting (body setting)) (engine : ScriptEngine)
    {resources : Resources} {out : SinkId} {total : Nat} (room : resources.sinks.Room out total) :
    let whole := Act.apply (evaluate body) (engine, resources)
    let cut := Act.apply (evaluate body) (engine, resources.limit out (some total))
    resources.sinks.Grows whole.2.2.sinks ∧
      ((whole.2.2.sinks.Room out total ∧
          cut = (whole.1, whole.2.1, whole.2.2.limit out (some total))) ∨
        (cut.1 = .error (.runtime (.writeFailed .sinkFull)) ∧
          Sinks.CutShort out total cut.2.2.sinks whole.2.2.sinks)) := by
  intro whole cut
  cases found : engine.program with
  | none =>
      have noProgram := apply_evaluate_none found body
      rw [show whole = _ from noProgram resources, show cut = _ from noProgram _]
      exact ⟨.refl _, .inl ⟨room, rfl⟩⟩
  | some program =>
      have made := built (engine.setting program resources.models)
      have grows := made.grows (engine.scratch resources)
      have ran := made.cutRun (engine.scratch resources) room
      have wholeEnded : whole = engine.ended resources
          ((body (engine.setting program resources.models)).run.run (engine.scratch resources)) :=
        apply_evaluate_some found body resources
      have cutEnded : cut = engine.ended (resources.limit out (some total))
          ((body (engine.setting program resources.models)).run.run
            ((engine.scratch resources).limit out (some total))) :=
        apply_evaluate_some found body (resources.limit out (some total))
      rw [wholeEnded, cutEnded]
      refine ⟨grows, ?_⟩
      generalize (body _).run.run ((engine.scratch resources).limit _ _) = cutRan at ran ⊢
      generalize (body _).run.run (engine.scratch resources) = wholeRan at ran ⊢
      cases ran with
      | fits _ within => exact .inl ⟨within, rfl⟩
      | full short => exact .inr ⟨rfl, short⟩

/-- Whether a program is run or one of its operations is called. -/
theorem keepsFront_evaluate {body : Script.Setting → Script.Eval Value}
    (built : ∀ setting, Script.Eval.Built setting (body setting))
    (leaves : ∀ setting, (body setting).Leaves FrameStack.Confined) (engine : ScriptEngine)
    (resources : Resources) (room : Nat) :
    KeepsFront (evaluate body) engine resources room := by
  let out := engine.context.output.sink
  let received := (resources.sinks.get out).received
  let unlimited := resources.limit out none
  have same : (unlimited.sinks.get out).received = received :=
    Sinks.received_limit resources.sinks out none out
  have fits : unlimited.sinks.Room out (received.size + room) :=
    ⟨Sinks.capacity_limit_none resources.sinks out, by rw [same]; exact Nat.le_add_right _ _⟩
  have again : unlimited.limit out (some (received.size + room)) =
      resources.limit out (some (received.size + room)) :=
    congrArg (fun sinks => { resources with sinks := sinks }) (Sinks.limit_limit _ _ _ _)
  obtain ⟨grows, ends⟩ := cut_evaluate built engine fits
  obtain ⟨written, whole⟩ := grows out
  rw [same] at whole
  rw [again] at ends
  refine ⟨written, whole, ?_⟩
  rcases ends with ⟨within, same⟩ | ⟨failed, short⟩
  · have all : written.size ≤ room := by
      have size := within.within
      rw [whole, ByteArray.size_append] at size
      omega
    exact ⟨fun _ => same, fun beyond => absurd all (Nat.not_le_of_lt beyond)⟩
  · have beyond : room < written.size := by
      have size := short.beyond
      rw [whole, ByteArray.size_append] at size
      omega
    refine ⟨fun all => absurd all (Nat.not_le_of_lt beyond), fun _ => ⟨?_, ?_, ?_, ?_⟩⟩
    · exact ⟨_, failed, rfl⟩
    · rw [short.kept, whole]
      exact Sink.extract_append_front received written room
    · exact short.grows
    · exact (confined_evaluate leaves engine _).frames.depth_eq

/-- A program whose output sink gets full keeps the front of what it prints that fits and fails at
the print that does not; with room for everything it runs as with a sink that takes everything. The
same holds of a call of an operation. -/
theorem full_sink_keeps_front (engine : ScriptEngine) (resources : Resources) (room : Nat) :
    KeepsFront execute engine resources room ∧
      ∀ name arguments, KeepsFront (invokeOperation name arguments) engine resources room :=
  ⟨keepsFront_evaluate Script.Eval.built_script Script.Eval.leaves_script engine resources room,
    fun name arguments => keepsFront_evaluate
      (fun setting => Script.Eval.built_operation setting name arguments)
      (fun setting => Script.Eval.leaves_operation setting name arguments) engine resources room⟩

end ScriptEngine
end StagedScript
