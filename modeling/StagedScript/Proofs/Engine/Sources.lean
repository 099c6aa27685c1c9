import StagedScript.Proofs.Engine.Contexts
import StagedScript.Proofs.Script.Confinement
import StagedScript.Proofs.Script.Runner

/-!
# The source of a script engine

An engine is given sources as texts and as files; in between its program is run, its operations are
called, its context is changed, and files come and go. A parse fails if its file cannot be read, and
then it is as if it had not been called for.

**Results.** After any calls, an engine runs the program of the last source that it could read, or
nothing if that was not accepted, has the problems of that source and knows the path that it came
from; a parse that fails leaves everything as it was (`EngineCall.follows_last_source`). A new
engine that could read none has nothing to run (`EngineCall.idle_of_noneParses`).
-/

namespace StagedScript

namespace ScriptEngine

/-! ## What an engine holds -/

/-- What comes of evaluating a program in the context of an engine. -/
def evaluated (engine : ScriptEngine) (program : Script.Program)
    (body : Script.Setting → Script.Eval Value) (resources : Resources) :
    EngineResult Value × (ScriptEngine × Resources) :=
  let ran := (body (engine.setting program resources.models)).run.run (engine.scratch resources)
  (ran.1, { engine with context := { engine.context with frames := ran.2.frames } },
    { resources with sinks := ran.2.sinks, objectsMade := ran.2.objectsMade })

/-- The program is the one that the engine executes and whose operations it has and invokes. -/
structure Runs (engine : ScriptEngine) (program : Script.Program) : Prop where
  held : engine.program = some program
  execute : ∀ resources, Act.apply execute (engine, resources) =
    engine.evaluated program Script.Eval.script resources
  operations : ∀ name, engine.hasOperation name = (program.operation? name).isSome
  invoke : ∀ name arguments resources,
    Act.apply (invokeOperation name arguments) (engine, resources) =
      engine.evaluated program (fun setting => Script.Eval.operation setting name arguments)
        resources

/-- An action of an engine fails for want of a program, and changes nothing. -/
def Lacks (engine : ScriptEngine) (action : Act ScriptEngine (EngineResult Value)) : Prop :=
  ∀ resources, ∃ fault : EngineError,
    Act.apply action (engine, resources) = (.error fault, engine, resources) ∧
      fault.message = "No program has been parsed"

/-- The engine has nothing to run: there are no operations, and to execute or to invoke fails. -/
structure Idle (engine : ScriptEngine) : Prop where
  held : engine.program = none
  execute : engine.Lacks execute
  operations : ∀ name, engine.hasOperation name = false
  invoke : ∀ name arguments, engine.Lacks (invokeOperation name arguments)

theorem runs_of_program {engine : ScriptEngine} {program : Script.Program}
    (held : engine.program = some program) : engine.Runs program where
  held := held
  execute := apply_evaluate_some held Script.Eval.script
  operations name := by rw [hasOperation, held]
  invoke name arguments :=
    apply_evaluate_some held fun setting => Script.Eval.operation setting name arguments

theorem lacks_evaluate {engine : ScriptEngine} (held : engine.program = none)
    (body : Script.Setting → Script.Eval Value) : engine.Lacks (evaluate body) :=
  fun resources => ⟨.runtime .noProgram, apply_evaluate_none held body resources, rfl⟩

theorem idle_of_program {engine : ScriptEngine} (held : engine.program = none) : engine.Idle where
  held := held
  execute := lacks_evaluate held Script.Eval.script
  operations name := by rw [hasOperation, held]
  invoke name arguments :=
    lacks_evaluate held fun setting => Script.Eval.operation setting name arguments

/-- The engine is in the state that a text from some place puts it in. -/
structure Adopted (engine : ScriptEngine) (text : String) (origin : Option String) : Prop where
  source : engine.source = origin
  accepted : ∀ program, Script.parse text = .ok program →
    engine.Runs program ∧ engine.problems = []
  refused : ∀ problems, Script.parse text = .error problems →
    engine.Idle ∧ engine.problems = problems

/-- To parse a text puts the engine in the state of that text, whatever it was in before. -/
theorem adopted_parsed (engine : ScriptEngine) (text : String) (origin : Option String) :
    (engine.parsed text origin).2.Adopted text origin := by
  unfold parsed
  cases parse : Script.parse text with
  | ok program =>
      refine ⟨rfl, fun found accepted => ?_, fun problems refused => ?_⟩
      · cases parse.symm.trans accepted
        exact ⟨runs_of_program rfl, rfl⟩
      · exact nomatch parse.symm.trans refused
  | error problems =>
      refine ⟨rfl, fun program accepted => ?_, fun found refused => ?_⟩
      · exact nomatch parse.symm.trans accepted
      · cases parse.symm.trans refused
        exact ⟨idle_of_program rfl, rfl⟩

/-- The engine answers whether the text is a program. -/
theorem fst_parsed (engine : ScriptEngine) (text : String) (origin : Option String) :
    (engine.parsed text origin).1 = (Script.parse text).isOk := by
  unfold parsed
  cases Script.parse text <;> rfl

/-- The program, the problems and the source are the same. -/
structure SameSource (before after : ScriptEngine) : Prop where
  program : after.program = before.program
  problems : after.problems = before.problems
  source : after.source = before.source

theorem SameSource.refl (engine : ScriptEngine) : SameSource engine engine :=
  ⟨rfl, rfl, rfl⟩

theorem SameSource.trans {first second third : ScriptEngine} (left : SameSource first second)
    (right : SameSource second third) : SameSource first third :=
  ⟨right.program.trans left.program, right.problems.trans left.problems,
    right.source.trans left.source⟩

theorem Adopted.of_same {before after : ScriptEngine} {text : String} {origin : Option String}
    (adopted : before.Adopted text origin) (same : SameSource before after) :
    after.Adopted text origin where
  source := same.source.trans adopted.source
  accepted program parse := by
    obtain ⟨runs, problems⟩ := adopted.accepted program parse
    exact ⟨runs_of_program (same.program.trans runs.held), same.problems.trans problems⟩
  refused found parse := by
    obtain ⟨idle, problems⟩ := adopted.refused found parse
    exact ⟨idle_of_program (same.program.trans idle.held), same.problems.trans problems⟩

theorem sameSource_evaluate (body : Script.Setting → Script.Eval Value) (engine : ScriptEngine)
    (resources : Resources) :
    SameSource engine (Act.apply (evaluate body) (engine, resources)).2.1 := by
  cases held : engine.program with
  | none =>
      rw [apply_evaluate_none held]
      exact .refl engine
  | some program =>
      rw [apply_evaluate_some held]
      exact ⟨rfl, rfl, rfl⟩

end ScriptEngine

/-! ## Calls -/

/-- A call to an engine, or something that happens to the resources between two calls. -/
inductive EngineCall where
  | parseCode (code : String)
  | parseFile (path : String)
  | execute
  | invoke (name : String) (arguments : List Value)
  | changeContext (change : Context → Context)
  | elsewhere (change : Resources → Resources)

/-- What a call to an engine answers. -/
inductive EngineAnswer where
  | parsed (answer : EngineResult Bool)
  | evaluated (answer : EngineResult Value)
  | done

namespace EngineCall

open ScriptEngine

def perform : EngineCall → Act ScriptEngine EngineAnswer
  | .parseCode code => EngineAnswer.parsed <$> ScriptEngine.parseCode code
  | .parseFile path => EngineAnswer.parsed <$> ScriptEngine.parseFile path
  | .execute => EngineAnswer.evaluated <$> ScriptEngine.execute
  | .invoke name arguments => EngineAnswer.evaluated <$> invokeOperation name arguments
  | .changeContext change => do
      EngineModule.modifyContext change
      return .done
  | .elsewhere change => do
      modifyThe Resources change
      return .done

def answer (call : EngineCall) (state : ScriptEngine × Resources) : EngineAnswer :=
  (Act.apply call.perform state).1

/-- The engine and the resources after a call. -/
def take (state : ScriptEngine × Resources) (call : EngineCall) : ScriptEngine × Resources :=
  (Act.apply call.perform state).2

def takeAll (state : ScriptEngine × Resources) (calls : List EngineCall) :
    ScriptEngine × Resources :=
  calls.foldl take state

theorem takeAll_append (state : ScriptEngine × Resources) (front rest : List EngineCall) :
    takeAll state (front ++ rest) = takeAll (takeAll state front) rest :=
  List.foldl_append

/-- The text that a call has the engine parse, and the path that it comes from. -/
inductive Reads (files : FileTree) : EngineCall → String → Option String → Prop
  | code (text : String) : Reads files (.parseCode text) text none
  | file {path text : String} : files.readText path = .ok text →
      Reads files (.parseFile path) text (some path)

/-- No call is a parse that does not fail. -/
def NoneParses : ScriptEngine × Resources → List EngineCall → Prop
  | _, [] => True
  | state, call :: rest =>
      (∀ accepted, call.answer state ≠ .parsed (.ok accepted)) ∧ NoneParses (take state call) rest

variable {state : ScriptEngine × Resources}

theorem apply_perform_parseFile (path : String) (state : ScriptEngine × Resources) :
    Act.apply (perform (.parseFile path)) state =
      (.parsed (Act.apply (ScriptEngine.parseFile path) state).1,
        (Act.apply (ScriptEngine.parseFile path) state).2) :=
  rfl

/-- A parse of a text that can be read answers whether it is a program, and does nothing else but to
take it. -/
theorem apply_perform_of_reads {call : EngineCall} {text : String} {origin : Option String}
    (reads : call.Reads state.2.files text origin) :
    Act.apply call.perform state =
      (.parsed (.ok (state.1.parsed text origin).1), (state.1.parsed text origin).2, state.2) := by
  cases reads with
  | code => rfl
  | file read => rw [apply_perform_parseFile, apply_parseFile_ok read]

/-- A parse of a file that cannot be read fails and does nothing. -/
theorem apply_perform_of_unread {path : String} {cause : IoError}
    (unread : state.2.files.readText path = .error cause) :
    Act.apply (perform (.parseFile path)) state =
      (.parsed (.error (.io path cause)), state) := by
  rw [apply_perform_parseFile, apply_parseFile_error unread]

/-- A parse that does not fail is one of a text that can be read. -/
theorem reads_of_answer {call : EngineCall} {accepted : Bool}
    (answered : call.answer state = .parsed (.ok accepted)) :
    ∃ text origin, call.Reads state.2.files text origin := by
  cases call with
  | parseCode code => exact ⟨code, none, .code code⟩
  | parseFile path =>
      cases read : state.2.files.readText path with
      | ok text => exact ⟨text, some path, .file read⟩
      | error cause =>
          rw [answer, apply_perform_of_unread read] at answered
          exact nomatch answered
  | execute => exact nomatch answered
  | invoke name arguments => exact nomatch answered
  | changeContext change => exact nomatch answered
  | elsewhere change => exact nomatch answered

/-- A parse of a text answers whether it is a program, and puts the engine in its state. -/
theorem adopted_take {call : EngineCall} {accepted : Bool}
    (answered : call.answer state = .parsed (.ok accepted)) :
    ∃ text origin, call.Reads state.2.files text origin ∧
      accepted = (Script.parse text).isOk ∧
      (take state call).1.Adopted text origin := by
  obtain ⟨text, origin, reads⟩ := reads_of_answer answered
  have performed := apply_perform_of_reads reads
  rw [answer, performed] at answered
  cases answered
  refine ⟨text, origin, reads, fst_parsed state.1 text origin, ?_⟩
  rw [take, performed]
  exact adopted_parsed state.1 text origin

/-- A parse of a file that fails changes nothing. -/
theorem take_of_failed {path : String} {fault : EngineError}
    (failed : (parseFile path).answer state = .parsed (.error fault)) :
    take state (.parseFile path) = state := by
  cases read : state.2.files.readText path with
  | ok text =>
      rw [answer, apply_perform_of_reads (.file read)] at failed
      exact nomatch failed
  | error cause => exact congrArg Prod.snd (apply_perform_of_unread read)

/-- A call that is no parse, or one that fails, leaves the program, the problems and the source. -/
theorem sameSource_take {call : EngineCall}
    (unparsed : ∀ accepted, call.answer state ≠ .parsed (.ok accepted)) :
    SameSource state.1 (take state call).1 := by
  cases call with
  | parseCode code => exact absurd rfl (unparsed (state.1.parsed code none).1)
  | parseFile path =>
      cases read : state.2.files.readText path with
      | ok text =>
          exact absurd (congrArg Prod.fst (apply_perform_of_reads (.file read))) (unparsed _)
      | error cause =>
          rw [take, apply_perform_of_unread read]
          exact .refl state.1
  | execute => exact sameSource_evaluate Script.Eval.script state.1 state.2
  | invoke name arguments =>
      exact sameSource_evaluate (fun setting => Script.Eval.operation setting name arguments)
        state.1 state.2
  | changeContext change => exact ⟨rfl, rfl, rfl⟩
  | elsewhere change => exact .refl state.1

theorem sameSource_takeAll {calls : List EngineCall} (unparsed : NoneParses state calls) :
    SameSource state.1 (takeAll state calls).1 := by
  induction calls generalizing state with
  | nil => exact .refl state.1
  | cons call rest ih =>
      obtain ⟨first, others⟩ := unparsed
      exact (sameSource_take first).trans (ih others)

/-- An engine that has read no source has nothing to run and no problems. -/
theorem idle_of_noneParses {turns : Nat} {resources : Resources} {calls : List EngineCall}
    (unparsed : NoneParses (new turns, resources) calls) :
    let engine := (takeAll (new turns, resources) calls).1
    engine.Idle ∧ engine.problems = [] ∧ engine.source = none := by
  have same := sameSource_takeAll unparsed
  exact ⟨idle_of_program same.program, same.problems, same.source⟩

/-- After any calls to a new engine, the last parse that did not fail was one of a text; it answered
whether the text is a program, and the engine is in the state that this text puts it in. A parse of
a file that fails leaves the engine as it was, and the resources as well. -/
theorem follows_last_source (turns : Nat) (resources : Resources) :
    let after := takeAll (new turns, resources)
    (∀ earlier call later accepted,
      call.answer (after earlier) = .parsed (.ok accepted) →
      NoneParses (after (earlier ++ [call])) later →
      ∃ text origin, call.Reads (after earlier).2.files text origin ∧
        accepted = (Script.parse text).isOk ∧
        (after (earlier ++ call :: later)).1.Adopted text origin) ∧
      ∀ calls path fault,
        (EngineCall.parseFile path).answer (after calls) = .parsed (.error fault) →
        after (calls ++ [.parseFile path]) = after calls := by
  have after_append := takeAll_append (new turns, resources)
  intro after
  constructor
  · intro earlier call later accepted answered unparsed
    obtain ⟨text, origin, reads, truly, adopted⟩ := adopted_take answered
    have taken : take (after earlier) call = after (earlier ++ [call]) :=
      (after_append earlier [call]).symm
    have whole : takeAll (after (earlier ++ [call])) later = after (earlier ++ call :: later) := by
      rw [List.append_cons earlier call later]
      exact (after_append (earlier ++ [call]) later).symm
    -- what comes after the parse keeps what it put in place
    have same := sameSource_takeAll unparsed
    rw [whole] at same
    rw [taken] at adopted
    exact ⟨text, origin, reads, truly, adopted.of_same same⟩
  · intro calls path fault failed
    exact (after_append calls [.parseFile path]).trans (take_of_failed failed)

/-- A refused source, an accepted one, a file that is not there and a run. -/
theorem follows_last_source_absent :
    (takeAll (new 9, .initial)
      [.parseCode "var", .parseCode "return 1;", .parseFile "absent", .execute]).1.Adopted
        "return 1;" none := by
  have performed (state : ScriptEngine × Resources) (text : String) :
      Act.apply (perform (.parseCode text)) state =
        (.parsed (.ok (state.1.parsed text none).1), (state.1.parsed text none).2, state.2) :=
    apply_perform_of_reads (.code text)
  have isProgram : (Script.parse "return 1;").isOk = true := by decide +kernel
  have answered : answer (.parseCode "return 1;") (takeAll (new 9, .initial) [.parseCode "var"]) =
      .parsed (.ok true) := by
    rw [answer, performed, fst_parsed, isProgram]
  have idle (state : ScriptEngine × Resources) (accepted : Bool) :
      answer .execute state ≠ .parsed (.ok accepted) :=
    nofun
  have kept (state : ScriptEngine × Resources) (text : String) :
      (take state (.parseCode text)).2 = state.2 :=
    congrArg (fun ran => ran.2.2) (performed state text)
  have unread : (takeAll (new 9, .initial)
      ([.parseCode "var"] ++ [.parseCode "return 1;"])).2.files.readText "absent" =
        .error .notFound := by
    have untouched : (takeAll (new 9, .initial)
        ([.parseCode "var"] ++ [.parseCode "return 1;"])).2 = Resources.initial :=
      (kept _ _).trans (kept _ _)
    rw [untouched]
    rfl
  have unparsed : NoneParses (takeAll (new 9, .initial)
      ([.parseCode "var"] ++ [.parseCode "return 1;"])) [.parseFile "absent", .execute] := by
    refine ⟨fun accepted failed => ?_, idle _, trivial⟩
    rw [answer, apply_perform_of_unread unread] at failed
    exact nomatch failed
  obtain ⟨text, origin, reads, -, adopted⟩ := (follows_last_source 9 .initial).1 [.parseCode "var"]
    (.parseCode "return 1;") [.parseFile "absent", .execute] true answered unparsed
  cases reads
  exact adopted

end EngineCall
end StagedScript
