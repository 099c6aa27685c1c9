import StagedScript.Proofs.Model.Disposal
import StagedScript.Proofs.Run.Effects

/-!
# Repositories as ordered sets

A repository is a list of handles in which no model occurs twice. Models are told apart by their
handles; names and aliases can be shared, and then the order in which the models were added decides:
a removal and a lookup both go to the earliest model that fits, the removal by its own name only and
the lookup by aliases as well.

**Results.** Calls keep the models of a repository distinct (`distinct_takeAll`). Adding models
appends the first occurrences of those that are not there (`addAll_eq`); a removal takes out the
earliest model of a name (`remove_cases`), and a lookup finds the earliest one that goes by it
(`find?_cases`). Together they hold after any calls (`ordered_set`).
-/

namespace StagedScript

namespace ModelHandle

theorem same_comm (model other : ModelHandle) : model.same other = other.same model :=
  decide_eq_decide.2 eq_comm

theorem answersTo_iff {model : ModelHandle} {name : String} :
    model.answersTo name = true ↔ model.name = name ∨ name ∈ model.properties.aliases := by
  simp [answersTo]

end ModelHandle

namespace Repository

variable {repository : Repository} {model : ModelHandle} {name : String}

/-- No model occurs twice. -/
def Distinct (repository : Repository) : Prop :=
  repository.Pairwise fun model later => model.same later = false

/-- A model is the earliest one with a property, between the models in front of it and behind. -/
structure Earliest (property : ModelHandle → Prop) (repository front : Repository)
    (model : ModelHandle) (back : Repository) : Prop where
  split : repository = front ++ model :: back
  has : property model
  first : ∀ other ∈ front, ¬property other

section Additions

theorem holds_eq_false_iff :
    repository.holds model = false ↔ ∀ held ∈ repository, held.same model = false := by
  simp [holds]

theorem holds_append_singleton (repository : Repository) (new model : ModelHandle) :
    holds (repository ++ [new]) model = (repository.holds model || new.same model) := by
  simp [holds]

theorem addAll_addAll_eq (repository : Repository) (first second : List ModelHandle) :
    (repository.addAll first).addAll second = repository.addAll (first ++ second) :=
  List.foldl_append.symm

/-- Adding models appends the first occurrences of those that are not there yet, in their order. -/
theorem addAll_eq (models : List ModelHandle) (repository : Repository) :
    repository.addAll models = repository ++
      (models.filter fun model => !repository.holds model).eraseDupsBy ModelHandle.same := by
  induction models generalizing repository with
  | nil => exact (List.append_nil repository).symm
  | cons model rest ih =>
      change (repository.add model).addAll rest = _
      cases held : repository.holds model with
      | true => rw [add_of_holds held, ih, List.filter_cons_of_neg (by simp [held])]
      | false =>
          -- the models that are left to add are neither held before nor the new one
          have fresh (other : ModelHandle) : (!holds (repository ++ [model]) other) =
              (decide (other.same model = false) && !repository.holds other) := by
            rw [holds_append_singleton, model.same_comm other]
            cases repository.holds other <;> cases other.same model <;> rfl
          rw [add, if_neg (by simp [held]), ih, List.filter_cons_of_pos (by simp [held]),
            List.eraseDupsBy_cons, List.filter_filter, List.append_assoc, List.singleton_append]
          simp only [fresh]

theorem Distinct.add (distinct : repository.Distinct) (model : ModelHandle) :
    (repository.add model).Distinct := by
  unfold Repository.add
  split
  next => exact distinct
  next unheld =>
    have apart := holds_eq_false_iff.1 (Bool.eq_false_iff.2 unheld)
    refine List.pairwise_append.2 ⟨distinct, List.pairwise_singleton _ _, ?_⟩
    intro held inside new isNew
    rw [List.mem_singleton.1 isNew]
    exact apart held inside

theorem Distinct.addAll (distinct : repository.Distinct) (models : List ModelHandle) :
    (repository.addAll models).Distinct := by
  induction models generalizing repository with
  | nil => exact distinct
  | cons model rest ih => exact ih (distinct.add model)

end Additions

section Names

/-- A removal takes out the earliest model of the name, and does nothing if there is none. -/
theorem remove_cases (repository : Repository) (name : String) :
    (∃ front model back, Earliest (fun model => model.name = name) repository front model back ∧
      repository.remove name = (some model, front ++ back)) ∨
    (∀ model ∈ repository, model.name ≠ name) ∧ repository.remove name = (none, repository) := by
  rw [remove]
  cases found : List.find? (fun model => decide (model.name = name)) repository with
  | some model =>
      obtain ⟨named, front, back, split, others⟩ := List.find?_eq_some_iff_append.1 found
      have first : ∀ other ∈ front, ¬other.name = name := by simpa using others
      refine .inl ⟨front, model, back, ⟨split, of_decide_eq_true named, first⟩, ?_⟩
      have taken : (model :: back).eraseP (fun model => model.name = name) = back :=
        List.eraseP_cons_of_pos named
      rw [split, List.eraseP_append_right _ (by simpa using first), taken]
  | none =>
      have none : ∀ model ∈ repository, model.name ≠ name := by simpa using found
      refine .inr ⟨none, ?_⟩
      rw [List.eraseP_of_forall_not (by simpa using none)]

/-- A lookup finds the earliest model that goes by the name, if there is one. -/
theorem find?_cases (repository : Repository) (name : String) :
    (∃ front model back,
      Earliest (fun model => model.name = name ∨ name ∈ model.properties.aliases)
        repository front model back ∧
      repository.find? name = some model) ∨
    (∀ model ∈ repository, ¬(model.name = name ∨ name ∈ model.properties.aliases)) ∧
      repository.find? name = none := by
  simp only [← ModelHandle.answersTo_iff]
  cases found : repository.find? name with
  | some model =>
      obtain ⟨answers, front, back, split, others⟩ := List.find?_eq_some_iff_append.1 found
      exact .inl ⟨front, model, back, ⟨split, answers, by simpa using others⟩, rfl⟩
  | none => exact .inr ⟨List.find?_eq_none.1 found, rfl⟩

theorem Distinct.remove (distinct : repository.Distinct) (name : String) :
    (repository.remove name).2.Distinct :=
  distinct.sublist List.eraseP_sublist

end Names

end Repository

/-- A call to a repository. -/
inductive RepositoryCall where
  | addAll (models : List ModelHandle)
  | remove (name : String)
  | clear
  | dispose

namespace RepositoryCall

def perform : RepositoryCall → Act Repository Unit
  | .addAll models => modify fun repository => repository.addAll models
  | .remove name => modify fun repository => (repository.remove name).2
  | .clear => set ([] : Repository)
  | .dispose => do
      StateT.lift (Repository.disposeAll (← get))
      set ([] : Repository)

/-- The repository and the resources after a call. -/
def take (state : Repository × Resources) (call : RepositoryCall) : Repository × Resources :=
  (Act.apply call.perform state).2

def takeAll (state : Repository × Resources) (calls : List RepositoryCall) :
    Repository × Resources :=
  calls.foldl take state

variable {state : Repository × Resources}

/-- A call keeps the models of a repository distinct. -/
theorem distinct_take (distinct : state.1.Distinct) (call : RepositoryCall) :
    (take state call).1.Distinct := by
  cases call with
  | addAll models => exact distinct.addAll models
  | remove name => exact distinct.remove name
  | clear => exact .nil
  | dispose => exact .nil

theorem distinct_takeAll (distinct : state.1.Distinct) (calls : List RepositoryCall) :
    (takeAll state calls).1.Distinct := by
  induction calls generalizing state with
  | nil => exact distinct
  | cons call rest ih => exact ih (distinct_take distinct call)

end RepositoryCall

namespace Repository

/-- After any calls no model occurs twice; adding models appends the first occurrences of those that
are not there, so that it can be done in parts and a second time changes nothing; a removal takes
out the earliest model whose own name it is given, and a lookup finds the earliest one whose name or
alias it is given. -/
theorem ordered_set (calls : List RepositoryCall) (resources : Resources) :
    let repository := (RepositoryCall.takeAll ([], resources) calls).1
    repository.Distinct ∧
      (∀ models, repository.addAll models = repository ++
        (models.filter fun model => !repository.holds model).eraseDupsBy ModelHandle.same) ∧
      (∀ first second,
        (repository.addAll first).addAll second = repository.addAll (first ++ second)) ∧
      (∀ models, (repository.addAll models).addAll models = repository.addAll models) ∧
      (∀ name,
        (∃ front model back,
          Earliest (fun model => model.name = name) repository front model back ∧
          repository.remove name = (some model, front ++ back)) ∨
        (∀ model ∈ repository, model.name ≠ name) ∧
          repository.remove name = (none, repository)) ∧
      ∀ name,
        (∃ front model back,
          Earliest (fun model => model.name = name ∨ name ∈ model.properties.aliases)
            repository front model back ∧
          repository.find? name = some model) ∨
        (∀ model ∈ repository, ¬(model.name = name ∨ name ∈ model.properties.aliases)) ∧
          repository.find? name = none := by
  intro repository
  have empty : Distinct [] := .nil
  have distinct : repository.Distinct := RepositoryCall.distinct_takeAll empty calls
  exact ⟨distinct, fun models => addAll_eq models repository, addAll_addAll_eq repository,
    addAll_addAll repository, remove_cases repository, find?_cases repository⟩

/-- A name that is an alias of one model and a later one's own: the lookup finds the first of them,
and the removal takes out the second. -/
example :
    let aliased : ModelHandle := ⟨0, { ModelProperties.named "B" with aliases := ["A"] }⟩
    let named : ModelHandle := ⟨1, .named "A"⟩
    let repository := addAll [] [aliased, named, aliased]
    repository.find? "A" = some aliased ∧ repository.remove "A" = (some named, [aliased]) := by
  decide

end Repository
end StagedScript
