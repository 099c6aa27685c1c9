import Mathlib.Data.List.Nodup
import StagedScript.Proofs.Engine.Contexts

/-!
# Parameters and their order

Parameters have names, but a binding that the caller made keeps the name that it has. So two
parameters with different names can be bound to the same global name, and then the one that is
bound later replaces the other.

**Results.** Of several bindings with one name the last one counts
(`FrameStack.global?_putGlobals`). The order of the parameters is irrelevant exactly if they have at
most one binding for each name (`ExecutorBase.addParameters_order_irrelevant_iff`). That is so if
every binding has the name of its parameter (`Parameters.agree_of_named`), as bare values do.
-/

namespace StagedScript

namespace FrameStack

/-- A name means globally the last of the new bindings that have it, or what it meant before. -/
theorem global?_putGlobals (more : List Variable) (name : String) :
    ∀ frames : FrameStack, (frames.putGlobals more).global? name =
      (more.reverse.find? fun v => v.name = name).or (frames.global? name) := by
  induction more with
  | nil => exact fun frames => rfl
  | cons new rest ih =>
      intro frames
      have first : (frames.putGlobals [new]).global? name =
          if new.name = name then some new else frames.global? name :=
        Scope.get?_put new frames.globals name
      change ((frames.putGlobals [new]).putGlobals rest).global? name = _
      rw [ih, first, List.reverse_cons, List.find?_append, Option.or_assoc, List.find?_singleton]
      by_cases same : new.name = name <;> simp [same]

end FrameStack

namespace Parameters

/-- No two parameters are bound differently under one name. -/
def Agree (parameters : Parameters) : Prop :=
  ∀ one ∈ parameters.toVariables, ∀ other ∈ parameters.toVariables,
    one.name = other.name → one = other

/-- Parameters agree if each of them is bound under its own name. -/
theorem agree_of_named {parameters : Parameters} (once : parameters.names.Nodup)
    (named : ∀ entry ∈ parameters, (entry.2.toVariable entry.1).name = entry.1) :
    parameters.Agree := by
  intro one hasOne other hasOther same
  obtain ⟨first, isFirst, rfl⟩ := List.mem_map.1 hasOne
  obtain ⟨second, isSecond, rfl⟩ := List.mem_map.1 hasOther
  rw [named first isFirst, named second isSecond] at same
  rw [List.inj_on_of_nodup_map once isFirst isSecond same]

/-- The binding that counts, by a name. -/
def last? (parameters : Parameters) (name : String) : Option Variable :=
  parameters.toVariables.reverse.find? fun v => v.name = name

theorem last?_of_mem {parameters : Parameters} (agree : parameters.Agree) {v : Variable}
    (bound : v ∈ parameters.toVariables) : parameters.last? v.name = some v := by
  have found : (parameters.last? v.name).isSome := by
    rw [last?, List.find?_isSome]
    exact ⟨v, List.mem_reverse.2 bound, decide_eq_true rfl⟩
  obtain ⟨other, last⟩ := Option.isSome_iff_exists.1 found
  have same : other.name = v.name := by simpa using List.find?_some last
  have isOther := List.mem_reverse.1 (List.mem_of_find?_eq_some last)
  rw [last, agree other isOther v bound same]

theorem last?_eq_none {parameters : Parameters} {name : String} :
    parameters.last? name = none ↔ ∀ v ∈ parameters.toVariables, v.name ≠ name := by
  rw [last?, List.find?_eq_none]
  simp

theorem last?_append_singleton (parameters : Parameters) (entry : String × Parameter) :
    (parameters ++ [entry]).last? (entry.2.toVariable entry.1).name =
      some (entry.2.toVariable entry.1) := by
  simp [last?, toVariables]

theorem Agree.of_perm {parameters order : Parameters} (agree : parameters.Agree)
    (perm : order.Perm parameters) : order.Agree := by
  have same := perm.map fun entry => entry.2.toVariable entry.1
  exact fun one hasOne other hasOther =>
    agree one (same.mem_iff.1 hasOne) other (same.mem_iff.1 hasOther)

/-- Parameters that agree are bound the same in every order. -/
theorem Agree.last?_of_perm {parameters order : Parameters} (agree : parameters.Agree)
    (perm : order.Perm parameters) (name : String) : order.last? name = parameters.last? name := by
  have same := perm.map fun entry => entry.2.toVariable entry.1
  by_cases bound : ∃ v ∈ parameters.toVariables, v.name = name
  · obtain ⟨v, member, rfl⟩ := bound
    rw [last?_of_mem agree member, last?_of_mem (agree.of_perm perm) (same.mem_iff.2 member)]
  · have unbound : ∀ v ∈ parameters.toVariables, v.name ≠ name :=
      fun v member here => bound ⟨v, member, here⟩
    rw [last?_eq_none.2 unbound, last?_eq_none]
    exact fun v member => unbound v (same.mem_iff.1 member)

/-- Any binding of the parameters is the last one in some order. -/
theorem exists_perm_last? {parameters : Parameters} {v : Variable}
    (bound : v ∈ parameters.toVariables) :
    ∃ order : Parameters, order.Perm parameters ∧ order.last? v.name = some v := by
  obtain ⟨entry, member, rfl⟩ := List.mem_map.1 bound
  obtain ⟨front, back, rfl⟩ := List.append_of_mem member
  refine ⟨front ++ back ++ [entry], ?_, last?_append_singleton _ entry⟩
  rw [List.append_assoc]
  exact (List.perm_append_singleton entry back).append_left front

end Parameters

namespace ExecutorBase

variable {μ : Type} [EngineModule μ]

/-- The globals that a module has after it was handed parameters. -/
def globalsAfter (base : ExecutorBase μ) (parameters : Parameters) (state : μ × Resources)
    (name : String) : Option Variable :=
  (EngineModule.context (Act.apply (base.addParameters parameters) state).2.1).frames.global? name

variable [LawfulEngineModule μ]

theorem globalsAfter_ofModule (language : Language) (parameters : Parameters)
    (state : μ × Resources) (name : String) :
    (ofModule language).globalsAfter parameters state name =
      (parameters.last? name).or ((EngineModule.context state.1).frames.global? name) := by
  unfold globalsAfter
  change (EngineModule.context (EngineModule.withContext _ _)).frames.global? name = _
  rw [LawfulEngineModule.context_withContext]
  exact FrameStack.global?_putGlobals parameters.toVariables name _

/-- The order in which parameters are handed over is irrelevant for the globals, exactly if no two
of them are bound differently under one name. -/
theorem addParameters_order_irrelevant_iff (language : Language) (parameters : Parameters)
    (state : μ × Resources) :
    (∀ order : Parameters, order.Perm parameters → ∀ name,
      (ofModule language).globalsAfter order state name =
        (ofModule language).globalsAfter parameters state name) ↔
    parameters.Agree := by
  constructor
  · intro irrelevant one hasOne other hasOther same
    obtain ⟨first, perm, lastOne⟩ := Parameters.exists_perm_last? hasOne
    obtain ⟨second, perm', lastOther⟩ := Parameters.exists_perm_last? hasOther
    have bindings := (irrelevant first perm one.name).trans (irrelevant second perm' one.name).symm
    rw [globalsAfter_ofModule, globalsAfter_ofModule, lastOne, same, lastOther] at bindings
    exact Option.some.inj bindings
  · intro agree order perm name
    rw [globalsAfter_ofModule, globalsAfter_ofModule, agree.last?_of_perm perm]

/-- A bare value and a binding of another name, handed to the script engine in any order. -/
theorem addParameters_order_irrelevant_distinct :
    let parameters : Parameters :=
      [("limit", .bare (.integer 3)), ("b", .binding (.mutable "x" (.integer 1)))]
    ∀ order : Parameters, order.Perm parameters → ∀ name,
      (ofModule .eol).globalsAfter order (ScriptEngine.new 8, Resources.initial) name =
        (ofModule .eol).globalsAfter parameters (ScriptEngine.new 8, Resources.initial) name := by
  intro parameters
  refine (addParameters_order_irrelevant_iff .eol parameters _).2 ?_
  intro one hasOne other hasOther same
  simp only [parameters, Parameters.toVariables, List.map, List.mem_cons, List.not_mem_nil,
    or_false] at hasOne hasOther
  rcases hasOne with rfl | rfl <;> rcases hasOther with rfl | rfl <;>
    first | rfl | exact absurd same (by decide)

/-- Two bindings of one name under two names: either order leaves another value of it. -/
theorem addParameters_order_relevant :
    let parameters : Parameters :=
      [("a", .binding (.mutable "x" (.integer 1))), ("b", .binding (.mutable "x" (.integer 2)))]
    let order := parameters.reverse
    parameters.names.Nodup ∧ order.Perm parameters ∧
      (ofModule .eol).globalsAfter parameters (ScriptEngine.new 8, Resources.initial) "x" =
        some (.mutable "x" (.integer 2)) ∧
      (ofModule .eol).globalsAfter order (ScriptEngine.new 8, Resources.initial) "x" =
        some (.mutable "x" (.integer 1)) :=
  ⟨by decide, List.reverse_perm _, rfl, rfl⟩

end ExecutorBase
end StagedScript
