import StagedScript.Model.Repository

/-!
# Repositories and disposal

Models that are added to a repository are in it, once. Disposing a repository disposes what is in
it; a store never forgets a model, and a model that was disposed stays so.

**Results.** Adding models again changes nothing (`Repository.addAll_addAll`). When a repository was
disposed, so were its models (`Repository.isDisposed_disposeAll`).
-/

namespace StagedScript

namespace Repository

theorem add_of_holds {repository : Repository} {model : ModelHandle}
    (held : repository.holds model = true) : repository.add model = repository := by
  rw [add, if_pos held]

theorem holds_add_self (repository : Repository) (model : ModelHandle) :
    (repository.add model).holds model = true := by
  unfold add
  split
  next held => exact held
  next => simp [holds, ModelHandle.same]

theorem holds_add {repository : Repository} {model : ModelHandle}
    (held : repository.holds model = true) (new : ModelHandle) :
    (repository.add new).holds model = true := by
  unfold add
  split
  · exact held
  · rw [holds, List.any_append]
    exact Bool.or_eq_true_iff.2 (.inl held)

theorem holds_addAll {model : ModelHandle} (models : List ModelHandle) :
    ∀ repository : Repository, repository.holds model = true ∨ model ∈ models →
      (repository.addAll models).holds model = true := by
  induction models with
  | nil => exact fun repository here => here.resolve_right List.not_mem_nil
  | cons new rest ih =>
      intro repository here
      refine ih (repository.add new) ?_
      rcases here with held | asked
      · exact .inl (holds_add held new)
      · rcases List.mem_cons.1 asked with rfl | later
        · exact .inl (holds_add_self repository model)
        · exact .inr later

theorem addAll_of_holds {repository : Repository} {models : List ModelHandle}
    (held : ∀ model ∈ models, repository.holds model = true) :
    repository.addAll models = repository := by
  induction models with
  | nil => rfl
  | cons model rest ih =>
      change (repository.add model).addAll rest = repository
      rw [add_of_holds (held model List.mem_cons_self)]
      exact ih fun other later => held other (List.mem_cons_of_mem _ later)

/-- Models that were added are not added again. -/
theorem addAll_addAll (repository : Repository) (models : List ModelHandle) :
    (repository.addAll models).addAll models = repository.addAll models :=
  addAll_of_holds fun _ asked => holds_addAll models repository (.inr asked)

end Repository

namespace ModelStore

/-- Whether a store has a state for a model. -/
def Has (store : ModelStore) (model : ModelHandle) : Prop :=
  model.id < store.all.length

/-- Setting the state of a model changes whether it is disposed, if the store has it. -/
theorem isDisposed_set (store : ModelStore) (model other : ModelHandle) (state : ModelState) :
    (store.set model state).isDisposed other =
      if model.id = other.id ∧ model.id < store.all.length then state.disposed
      else store.isDisposed other := by
  unfold isDisposed get set
  rw [List.getD_eq_getElem?_getD, List.getElem?_set]
  by_cases same : model.id = other.id
  · by_cases inUse : model.id < store.all.length
    · rw [if_pos same, if_pos inUse, if_pos ⟨same, inUse⟩]
      rfl
    · have missing : store.all[other.id]? = none := by
        rw [← same]
        exact List.getElem?_eq_none (Nat.le_of_not_lt inUse)
      rw [if_pos same, if_neg inUse, if_neg (fun both => inUse both.2)]
      rw [List.getD_eq_getElem?_getD, missing]
  · rw [if_neg same, if_neg (fun both => same both.1), ← List.getD_eq_getElem?_getD]

/-- What may become of a store: it keeps its models, and what was disposed stays so. -/
structure Ages (before after : ModelStore) : Prop where
  has : ∀ model, before.Has model → after.Has model
  disposed : ∀ model, before.isDisposed model = true → after.isDisposed model = true

theorem Ages.refl (store : ModelStore) : store.Ages store :=
  ⟨fun _ has => has, fun _ disposed => disposed⟩

theorem Ages.trans {first second third : ModelStore} (left : first.Ages second)
    (right : second.Ages third) : first.Ages third :=
  ⟨fun model has => right.has model (left.has model has),
    fun model disposed => right.disposed model (left.disposed model disposed)⟩

end ModelStore

namespace Shared

variable {α β : Type}

/-- The resources that a computation leaves. -/
def left (m : Shared α) (resources : Resources) : Resources :=
  (m.run resources).value.2

theorem left_bind (m : Shared α) (f : α → Shared β) (resources : Resources) :
    (m >>= f).left resources = (f (m.run resources).value.1).left (m.left resources) :=
  rfl

end Shared

namespace ModelHandle

/-- To store a model is to write its file, if it is to be stored and the file can be written. -/
theorem left_store (model : ModelHandle) (contents : ModelContents) (resources : Resources) :
    (model.store contents).left resources =
      { resources with
        files := (model.storage? contents).elim resources.files fun target =>
          (resources.files.write target.1 target.2.toUTF8).toOption.getD resources.files } := by
  unfold store
  cases model.storage? contents with
  | none => rfl
  | some target =>
      obtain ⟨path, text⟩ := target
      rw [Option.elim_some]
      dsimp only
      rw [Shared.left_bind]
      have held : ((get : Shared Resources).run resources).value.1 = resources := rfl
      rw [held]
      cases resources.files.write path text.toUTF8 <;> rfl

/-- On its first disposal a model is marked and stored; later ones do nothing. -/
theorem left_dispose (model : ModelHandle) (resources : Resources) :
    model.dispose.left resources =
      if resources.models.isDisposed model then resources
      else (model.store (resources.models.get model).contents).left
        { resources with
          models := resources.models.set model
            { resources.models.get model with disposed := true } } := by
  unfold dispose
  rw [Shared.left_bind]
  change Shared.left (if resources.models.isDisposed model = true then _ else _) resources = _
  split <;> rfl

theorem models_dispose (model : ModelHandle) (resources : Resources) :
    (model.dispose.left resources).models =
      if resources.models.isDisposed model then resources.models
      else resources.models.set model { resources.models.get model with disposed := true } := by
  rw [left_dispose]
  split
  · rfl
  · rw [left_store]

theorem ages_dispose (model : ModelHandle) (resources : Resources) :
    resources.models.Ages (model.dispose.left resources).models := by
  rw [models_dispose]
  split
  · exact .refl _
  · refine ⟨fun other has => ?_, fun other disposed => ?_⟩
    · rw [ModelStore.Has, ModelStore.set, List.length_set]
      exact has
    · rw [ModelStore.isDisposed_set]
      split
      · rfl
      · exact disposed

theorem isDisposed_dispose {model : ModelHandle} {resources : Resources}
    (has : resources.models.Has model) :
    (model.dispose.left resources).models.isDisposed model = true := by
  rw [models_dispose]
  split
  next disposed => exact disposed
  next => rw [ModelStore.isDisposed_set, if_pos ⟨rfl, has⟩]

end ModelHandle

namespace Repository

theorem left_disposeAll_cons (model : ModelHandle) (rest : Repository) (resources : Resources) :
    (disposeAll (model :: rest)).left resources =
      (disposeAll rest).left (model.dispose.left resources) :=
  rfl

/-- A disposal writes to no sink. -/
theorem sinks_disposeAll (repository : Repository) :
    ∀ resources : Resources, ((disposeAll repository).left resources).sinks = resources.sinks := by
  induction repository with
  | nil => exact fun resources => rfl
  | cons model rest ih =>
      intro resources
      rw [left_disposeAll_cons, ih, ModelHandle.left_dispose]
      split
      · rfl
      · rw [ModelHandle.left_store]

theorem ages_disposeAll (repository : Repository) :
    ∀ resources : Resources,
      resources.models.Ages ((disposeAll repository).left resources).models := by
  induction repository with
  | nil => exact fun resources => .refl _
  | cons model rest ih =>
      intro resources
      rw [left_disposeAll_cons]
      exact (model.ages_dispose resources).trans (ih _)

/-- The models of a repository are disposed with it. -/
theorem isDisposed_disposeAll {model : ModelHandle} {repository : Repository}
    (held : repository.holds model = true) :
    ∀ resources : Resources, resources.models.Has model →
      ((disposeAll repository).left resources).models.isDisposed model = true := by
  induction repository with
  | nil => cases held
  | cons first rest ih =>
      intro resources has
      have aged := first.ages_dispose resources
      rw [left_disposeAll_cons]
      rw [holds, List.any_cons, Bool.or_eq_true] at held
      rcases held with same | later
      · have first_eq : first.id = model.id := of_decide_eq_true same
        have hasFirst : resources.models.Has first := by
          rw [ModelStore.Has, first_eq]
          exact has
        have disposed := ModelHandle.isDisposed_dispose hasFirst
        refine (ages_disposeAll rest _).disposed model ?_
        rwa [ModelStore.isDisposed, ModelStore.get, ← first_eq]
      · exact ih later _ (aged.has model has)

end Repository
end StagedScript
