import StagedScript.Model.Builder
import StagedScript.Proofs.Files.ReadBack
import StagedScript.Proofs.Model.Disposal

/-!
# Models persist what they held

Models are pushed to, read and disposed through their handles and through the repositories that
share them, in any order. A model is written by the first of its disposals, if it is to be stored,
with the elements that it holds then; the writings of a history of calls are listed in the order in
which they are made (`ModelCall.writings`), and what becomes of the files and of the log is what the
writings make of them (`Writing.applyAll`).

**Results.** A model is written at most once in a history, by its first disposal, and a writing that
succeeds is read back by a builder (`persisted_once`).
-/

namespace StagedScript

namespace ModelStore

/-- Setting the state of a model changes what the store has for it, and for no other. -/
theorem get_set {store : ModelStore} {model : ModelHandle} (has : store.Has model)
    (other : ModelHandle) (state : ModelState) :
    (store.set other state).get model = if other.same model then state else store.get model := by
  unfold get set
  rw [List.getD_eq_getElem?_getD, List.getElem?_set]
  by_cases same : other.id = model.id
  · rw [if_pos same, if_pos (same ▸ has), ModelHandle.same, if_pos (decide_eq_true same)]
    rfl
  · rw [if_neg same, if_neg (by simpa [ModelHandle.same] using same),
      ← List.getD_eq_getElem?_getD]

theorem has_set {store : ModelStore} {model : ModelHandle} (other : ModelHandle)
    (state : ModelState) : (store.set other state).Has model ↔ store.Has model := by
  rw [Has, Has, set, List.length_set]

end ModelStore

/-- An attempt to write a model to its file. -/
structure Writing where
  model : ModelHandle
  path : String
  text : String

namespace Writing

/-- What a writing makes of the files, and the warning that it leaves if it fails. -/
def apply (writing : Writing) (files : FileTree) : FileTree × List LogRecord :=
  match files.write writing.path writing.text.toUTF8 with
  | .ok after => (after, [])
  | .error cause =>
      (files, [⟨.warn, "Failed to store model " ++ writing.model.name ++ " on disposal: " ++
        (EngineError.io writing.path cause).message⟩])

/-- What writings make of the files, one after the other, and the warnings that they leave. -/
def applyAll : List Writing → FileTree → FileTree × List LogRecord
  | [], files => (files, [])
  | writing :: rest, files =>
      let first := writing.apply files
      let later := applyAll rest first.1
      (later.1, first.2 ++ later.2)

theorem applyAll_append (front rest : List Writing) (files : FileTree) :
    applyAll (front ++ rest) files =
      let first := applyAll front files
      let later := applyAll rest first.1
      (later.1, first.2 ++ later.2) := by
  induction front generalizing files with
  | nil => rfl
  | cons writing front ih =>
      rw [List.cons_append, applyAll, ih]
      dsimp only [applyAll]
      rw [List.append_assoc]

theorem applyAll_singleton (writing : Writing) (files : FileTree) :
    applyAll [writing] files = writing.apply files := by
  rw [applyAll, applyAll, List.append_nil]

end Writing

namespace Shared

variable {α β : Type}

/-- What a computation makes of the files, and the records of it that are not for debugging. -/
def account (m : Shared α) (resources : Resources) : FileTree × List LogRecord :=
  ((m.left resources).files,
    (m.run resources).records.filter fun record => record.level ≠ .debug)

/-- A computation writes as listed. -/
def Writes (m : Shared α) (resources : Resources) (writings : List Writing) : Prop :=
  m.account resources = Writing.applyAll writings resources.files

theorem Writes.bind {m : Shared α} {f : α → Shared β} {resources : Resources}
    {first later : List Writing} (start : m.Writes resources first)
    (next : (f (m.run resources).value.1).Writes (m.left resources) later) :
    (m >>= f).Writes resources (first ++ later) := by
  unfold Writes account at *
  rw [Writing.applyAll_append, ← start]
  dsimp only
  rw [← next]
  refine Prod.ext rfl ?_
  change List.filter _ (_ ++ _) = _
  rw [List.filter_append]
  rfl

end Shared

namespace ModelHandle

/-- What a disposal of a model writes: nothing if it was disposed before or is not to be stored. -/
def writings (model : ModelHandle) (resources : Resources) : List Writing :=
  if resources.models.isDisposed model then []
  else
    ((model.storage? (resources.models.get model).contents).map fun target =>
      ⟨model, target.1, target.2⟩).toList

theorem writes_store (model : ModelHandle) (contents : ModelContents) (resources : Resources) :
    (model.store contents).Writes resources
      ((model.storage? contents).map fun target => Writing.mk model target.1 target.2).toList := by
  unfold store
  cases model.storage? contents with
  | none => rfl
  | some target =>
      obtain ⟨path, text⟩ := target
      rw [Shared.Writes, Option.map_some, Option.toList_some, Writing.applyAll_singleton,
        Writing.apply]
      dsimp only
      have looked : ∀ f : Resources → Shared Unit,
          (get >>= f).account resources = (f resources).account resources := fun _ => rfl
      rw [looked]
      cases resources.files.write path text.toUTF8 <;> rfl

theorem writes_dispose (model : ModelHandle) (resources : Resources) :
    model.dispose.Writes resources (model.writings resources) := by
  unfold dispose writings
  have looked : ∀ (f : Resources → Shared Unit) (writings : List Writing),
      (f resources).Writes resources writings → (get >>= f).Writes resources writings :=
    fun _ _ writes => writes
  refine looked _ _ ?_
  by_cases disposed : resources.models.isDisposed model = true
  · rw [if_pos disposed]
    dsimp only
    rw [if_pos (show (resources.models.get model).disposed = true from disposed)]
    rfl
  · rw [if_neg disposed]
    dsimp only
    rw [if_neg (show ¬(resources.models.get model).disposed = true from disposed)]
    have marks : (modify fun resources' : Resources =>
        { resources' with
          models := resources'.models.set model
            { resources.models.get model with disposed := true } } : Shared PUnit).Writes
        resources [] := rfl
    exact marks.bind (writes_store model _ _)

theorem has_dispose {model : ModelHandle} {resources : Resources}
    (has : resources.models.Has model) (other : ModelHandle) :
    (other.dispose.left resources).models.Has model :=
  (other.ages_dispose resources).has model has

/-- A disposal marks the model as disposed, and changes no other one. -/
theorem get_dispose {model : ModelHandle} {resources : Resources}
    (has : resources.models.Has model) (other : ModelHandle) :
    (other.dispose.left resources).models.get model =
      { resources.models.get model with
        disposed := (resources.models.get model).disposed || other.same model } := by
  rw [models_dispose]
  by_cases same : other.same model = true
  · have sameState : resources.models.get other = resources.models.get model := by
      unfold ModelStore.get
      rw [of_decide_eq_true same]
    rw [same, Bool.or_true]
    split
    next disposed =>
      rw [ModelStore.isDisposed, sameState] at disposed
      rw [← disposed]
    next =>
      rw [ModelStore.get_set has, if_pos same, sameState]
  · rw [Bool.eq_false_iff.2 same, Bool.or_false]
    split
    next => rfl
    next => rw [ModelStore.get_set has, if_neg same]

/-- The writing of a model with elements, if it is to be stored. -/
def stored (model : ModelHandle) (items : List Json) : List Writing :=
  match model.properties.storeOnDisposal, model.properties.modelPath with
  | true, some path => [⟨model, path, storedText items⟩]
  | _, _ => []

theorem writings_eq {model : ModelHandle} {resources : Resources} {items : List Json}
    {disposed : Bool} (held : resources.models.get model = ⟨.elements items, disposed⟩) :
    model.writings resources = if disposed then [] else model.stored items := by
  unfold writings
  rw [ModelStore.isDisposed, held]
  cases disposed with
  | true => rfl
  | false =>
      unfold storage? stored
      cases model.properties.modelPath with
      | none => cases model.properties.storeOnDisposal <;> rfl
      | some path => cases model.properties.storeOnDisposal <;> rfl

theorem text_of_mem_stored {model : ModelHandle} {items : List Json} {path text : String}
    (mem : ⟨model, path, text⟩ ∈ model.stored items) : text = storedText items := by
  unfold stored at mem
  split at mem
  next =>
    cases List.mem_singleton.1 mem
    rfl
  next => cases mem

theorem model_of_mem_writings {model : ModelHandle} {resources : Resources} {writing : Writing}
    (mem : writing ∈ model.writings resources) : writing.model = model := by
  unfold writings at mem
  split at mem
  next => cases mem
  next =>
    obtain ⟨target, -, rfl⟩ := Option.map_eq_some_iff.1 (Option.mem_toList.1 mem)
    rfl

end ModelHandle

namespace Repository

/-- What the disposal of a repository writes. -/
def writings : Repository → Resources → List Writing
  | [], _ => []
  | model :: rest, resources =>
      model.writings resources ++ writings rest (model.dispose.left resources)

theorem holds_cons (first model : ModelHandle) (rest : Repository) :
    holds (first :: rest) model = (first.same model || rest.holds model) :=
  rfl

theorem writes_disposeAll (repository : Repository) :
    ∀ resources : Resources, repository.disposeAll.Writes resources
      (repository.writings resources) := by
  induction repository with
  | nil => exact fun resources => rfl
  | cons model rest ih =>
      intro resources
      have logs : (Shared.log .debug ("Disposing model " ++ model.name)).Writes resources [] := rfl
      exact logs.bind ((model.writes_dispose resources).bind (ih _))

theorem has_disposeAll {model : ModelHandle} (repository : Repository) {resources : Resources}
    (has : resources.models.Has model) : (repository.disposeAll.left resources).models.Has model :=
  (ages_disposeAll repository resources).has model has

theorem get_disposeAll {model : ModelHandle} (repository : Repository) :
    ∀ {resources : Resources}, resources.models.Has model →
      (repository.disposeAll.left resources).models.get model =
        { resources.models.get model with
          disposed := (resources.models.get model).disposed || repository.holds model } := by
  induction repository with
  | nil =>
      intro resources has
      rw [holds, List.any_nil, Bool.or_false]
      rfl
  | cons first rest ih =>
      intro resources has
      rw [left_disposeAll_cons, ih (ModelHandle.has_dispose has first),
        ModelHandle.get_dispose has, Bool.or_assoc]
      rfl

/-- In a repository a model is written when it is first met, if it was not disposed before. -/
theorem filter_writings {model : ModelHandle} {items : List Json} (repository : Repository)
    (known : ∀ other ∈ repository, other.same model = true → other = model) :
    ∀ {resources : Resources} {disposed : Bool}, resources.models.Has model →
      resources.models.get model = ⟨.elements items, disposed⟩ →
      (repository.writings resources).filter (fun writing => writing.model.same model) =
        if !disposed && repository.holds model then model.stored items else [] := by
  induction repository with
  | nil =>
      intro resources disposed has held
      rw [holds, List.any_nil, Bool.and_false]
      rfl
  | cons first rest ih =>
      intro resources disposed has held
      have later := ih (fun other mem => known other (List.mem_cons_of_mem _ mem))
        (ModelHandle.has_dispose has first)
        ((ModelHandle.get_dispose has first).trans (by rw [held]))
      rw [writings, List.filter_append, later, holds_cons]
      cases same : first.same model with
      | true =>
          obtain rfl := known first List.mem_cons_self same
          have all : (first.writings resources).filter (fun writing => writing.model.same first) =
              first.writings resources := by
            rw [List.filter_eq_self]
            intro writing mem
            rw [ModelHandle.model_of_mem_writings mem, same]
          rw [all, ModelHandle.writings_eq held]
          cases disposed <;> simp
      | false =>
          have none : (first.writings resources).filter
              (fun writing => writing.model.same model) = [] := by
            rw [List.filter_eq_nil_iff]
            intro writing mem
            rw [ModelHandle.model_of_mem_writings mem, same]
            exact Bool.false_ne_true
          rw [none, Bool.or_false, Bool.false_or]
          rfl

end Repository

/-- A call on a model, or on the models that a repository has at the time. -/
inductive ModelCall where
  | push (model : ModelHandle) (element : Json)
  | contents (model : ModelHandle)
  | dispose (model : ModelHandle)
  | disposeAll (repository : Repository)

namespace ModelCall

def perform : ModelCall → Shared Unit
  | .push model element =>
      modify fun resources => { resources with models := resources.models.push model element }
  | .contents model => do
      let _ ← (fun resources : Resources => resources.models.contents model) <$> get
      return
  | .dispose model => model.dispose
  | .disposeAll repository => repository.disposeAll

/-- The models that a call disposes, one after the other. -/
def disposals : ModelCall → Repository
  | .dispose model => [model]
  | .disposeAll repository => repository
  | .push _ _ => []
  | .contents _ => []

/-- What a call adds to the elements of a model. -/
def pushes (model : ModelHandle) : ModelCall → List Json
  | .push other element => if other.same model then [element] else []
  | .contents _ => []
  | .dispose _ => []
  | .disposeAll _ => []

theorem writes_perform (call : ModelCall) (resources : Resources) :
    call.perform.Writes resources (call.disposals.writings resources) := by
  cases call with
  | push model element => rfl
  | contents model => rfl
  | dispose model =>
      change model.dispose.Writes resources (model.writings resources ++ [])
      rw [List.append_nil]
      exact model.writes_dispose resources
  | disposeAll repository => exact repository.writes_disposeAll resources

variable {model : ModelHandle} {resources : Resources} {items : List Json} {disposed : Bool}

theorem has_perform (has : resources.models.Has model) (call : ModelCall) :
    (call.perform.left resources).models.Has model := by
  cases call with
  | push other element => exact (ModelStore.has_set other _).2 has
  | contents other => exact has
  | dispose other => exact ModelHandle.has_dispose has other
  | disposeAll repository => exact repository.has_disposeAll has

/-- What becomes of a model with elements in a call. -/
theorem get_perform (has : resources.models.Has model)
    (held : resources.models.get model = ⟨.elements items, disposed⟩) (call : ModelCall) :
    (call.perform.left resources).models.get model =
      ⟨.elements (items ++ call.pushes model), disposed || call.disposals.holds model⟩ := by
  have kept : ModelState.mk (.elements items) disposed =
      ⟨.elements (items ++ []), disposed || false⟩ := by
    rw [List.append_nil, Bool.or_false]
  cases call with
  | push other element =>
      change (resources.models.push other element).get model = _
      rw [ModelStore.push, ModelStore.get_set has, pushes]
      split
      next same =>
        have sameState : resources.models.get other = resources.models.get model := by
          unfold ModelStore.get
          rw [of_decide_eq_true same]
        rw [sameState, held]
        exact congrArg _ (Bool.or_false _).symm
      next => exact held.trans kept
  | contents other => exact held.trans kept
  | dispose other =>
      change (other.dispose.left resources).models.get model = _
      rw [ModelHandle.get_dispose has, held, pushes, List.append_nil]
      exact congrArg _ (congrArg _ (Bool.or_false _).symm)
  | disposeAll repository =>
      change (repository.disposeAll.left resources).models.get model = _
      rw [repository.get_disposeAll has, held, pushes, List.append_nil]
      rfl

/-- Perform calls one after the other. -/
def performAll : List ModelCall → Shared Unit
  | [] => return
  | call :: rest => do
      call.perform
      performAll rest

/-- What calls write, in the order in which it is written. -/
def writings : List ModelCall → Resources → List Writing
  | [], _ => []
  | call :: rest, resources =>
      call.disposals.writings resources ++ writings rest (call.perform.left resources)

/-- The elements that a model holds at its first disposal, if calls dispose it. -/
def heldAtDisposal? (model : ModelHandle) : List ModelCall → List Json → Option (List Json)
  | [], _ => none
  | call :: rest, items =>
      if call.disposals.holds model then some items
      else heldAtDisposal? model rest (items ++ call.pushes model)

theorem left_performAll_cons (call : ModelCall) (rest : List ModelCall) (resources : Resources) :
    (performAll (call :: rest)).left resources =
      (performAll rest).left (call.perform.left resources) :=
  rfl

theorem left_performAll_append (front rest : List ModelCall) :
    ∀ resources : Resources, (performAll (front ++ rest)).left resources =
      (performAll rest).left ((performAll front).left resources) := by
  induction front with
  | nil => exact fun resources => rfl
  | cons call front ih =>
      intro resources
      rw [List.cons_append, left_performAll_cons, left_performAll_cons, ih]

theorem writes_performAll (calls : List ModelCall) :
    ∀ resources : Resources, (performAll calls).Writes resources (writings calls resources) := by
  induction calls with
  | nil => exact fun resources => rfl
  | cons call rest ih =>
      exact fun resources => (writes_perform call resources).bind (ih _)

theorem has_performAll (calls : List ModelCall) :
    ∀ {resources : Resources}, resources.models.Has model →
      ((performAll calls).left resources).models.Has model := by
  induction calls with
  | nil => exact fun has => has
  | cons call rest ih => exact fun has => ih (has_perform has call)

/-- What becomes of a model with elements in a history of calls. -/
theorem get_performAll (calls : List ModelCall) :
    ∀ {resources : Resources} {items : List Json} {disposed : Bool},
      resources.models.Has model → resources.models.get model = ⟨.elements items, disposed⟩ →
      ((performAll calls).left resources).models.get model =
        ⟨.elements (items ++ calls.flatMap (pushes model)),
          disposed || (heldAtDisposal? model calls items).isSome⟩ := by
  induction calls with
  | nil =>
      intro resources items disposed has held
      rw [List.flatMap_nil, List.append_nil, heldAtDisposal?, Option.isSome_none, Bool.or_false]
      exact held
  | cons call rest ih =>
      intro resources items disposed has held
      rw [left_performAll_cons, ih (has_perform has call) (get_perform has held call),
        heldAtDisposal?, List.flatMap_cons, List.append_assoc]
      cases call.disposals.holds model with
      | true => rw [Bool.or_true, Bool.true_or, if_pos rfl, Option.isSome_some, Bool.or_true]
      | false => rw [Bool.or_false, if_neg Bool.false_ne_true]

/-- Among the writings of calls is that of a model by its first disposal, and no other of it. -/
theorem filter_writings (calls : List ModelCall)
    (known : ∀ call ∈ calls, ∀ other ∈ call.disposals, other.same model = true → other = model) :
    ∀ {resources : Resources} {items : List Json} {disposed : Bool},
      resources.models.Has model → resources.models.get model = ⟨.elements items, disposed⟩ →
      (writings calls resources).filter (fun writing => writing.model.same model) =
        if disposed then [] else (heldAtDisposal? model calls items).elim [] model.stored := by
  induction calls with
  | nil =>
      intro resources items disposed has held
      cases disposed <;> rfl
  | cons call rest ih =>
      intro resources items disposed has held
      have first := call.disposals.filter_writings (known call List.mem_cons_self) has held
      have later := ih (fun other mem => known other (List.mem_cons_of_mem _ mem))
        (has_perform has call) (get_perform has held call)
      rw [writings, List.filter_append, first, later, heldAtDisposal?]
      cases disposed <;> cases call.disposals.holds model <;> simp

end ModelCall

namespace Writing

theorem apart_apply {files : FileTree} {first second : String} (apart : files.Apart first second)
    (writing : Writing) : (writing.apply files).1.Apart first second := by
  unfold apply
  cases written : files.write writing.path writing.text.toUTF8 with
  | ok after => exact apart.write written
  | error cause => exact apart

theorem apart_applyAll {first second : String} (writings : List Writing) :
    ∀ {files : FileTree}, files.Apart first second →
      (applyAll writings files).1.Apart first second := by
  induction writings with
  | nil => exact fun apart => apart
  | cons writing rest ih => exact fun apart => ih (apart_apply apart writing)

/-- Writings to other places leave a file as it is. -/
theorem readBytes_applyAll {path : String} {bytes : ByteArray} (writings : List Writing) :
    ∀ {files : FileTree}, (∀ writing ∈ writings, files.Apart writing.path path) →
      files.readBytes path = .ok bytes →
      (applyAll writings files).1.readBytes path = .ok bytes := by
  induction writings with
  | nil => exact fun _ read => read
  | cons writing rest ih =>
      intro files apart read
      refine ih (fun other mem => apart_apply (apart other (List.mem_cons_of_mem _ mem)) writing) ?_
      unfold apply
      cases written : files.write writing.path writing.text.toUTF8 with
      | ok after =>
          exact FileTree.readBytes_write_of_apart written (apart writing List.mem_cons_self) read
      | error cause => exact read

end Writing

/-- A model is built from its file if it is to be read and the file can be parsed. -/
theorem ModelProperties.build_of_readText {properties : ModelProperties} {files : FileTree}
    {path text : String} {items : List Json} (named : Text.isBlankText properties.name = false)
    (loads : properties.readOnLoad = true) (atPath : properties.modelPath = some path)
    (read : files.readText path = .ok text) (parses : Json.parse? text = some (.array items)) :
    properties.build files = .ok ⟨properties, .elements items⟩ := by
  unfold build
  rw [named, if_neg Bool.false_ne_true, atPath, loads]
  dsimp only
  rw [readElements, read]
  dsimp only
  rw [parses]
  rfl

/-- What a history of calls makes of a model that holds elements. -/
structure PersistedOnce (model : ModelHandle) (items : List Json) (calls : List ModelCall)
    (resources : Resources) : Prop where
  /-- It is disposed afterwards exactly if a call disposes it. -/
  disposed : ((ModelCall.performAll calls).left resources).models.isDisposed model =
    (ModelCall.heldAtDisposal? model calls items).isSome
  /-- Once it is disposed it stays so and is not written any more. -/
  stays : ∀ front rest, calls = front ++ rest →
    let between := (ModelCall.performAll front).left resources
    between.models.isDisposed model = true →
      ((ModelCall.performAll calls).left resources).models.isDisposed model = true ∧
        (ModelCall.writings rest between).filter (fun writing => writing.model.same model) = []
  /-- The files are as the writings of the calls make them, and a writing that fails is a warning
  and nothing else. -/
  accounts : (ModelCall.performAll calls).Writes resources (ModelCall.writings calls resources)
  /-- Its one writing is that of the elements that it holds at its first disposal. -/
  once : (ModelCall.writings calls resources).filter (fun writing => writing.model.same model) =
    (ModelCall.heldAtDisposal? model calls items).elim [] model.stored
  /-- If its writing succeeds and later ones go to other places, a model built from the file has
  these elements, as far as the reader of JSON takes back what the printer wrote. -/
  readBack : ∀ front path text rest,
    ModelCall.writings calls resources = front ++ ⟨model, path, text⟩ :: rest →
    ((Writing.applyAll front resources.files).1.write path text.toUTF8).isOk = true →
    (∀ writing ∈ rest, resources.files.Apart writing.path path) →
    ∃ held, ModelCall.heldAtDisposal? model calls items = some held ∧
      text = ModelHandle.storedText held ∧
      (Json.parse? text = some (.array held) →
        ∀ properties : ModelProperties, Text.isBlankText properties.name = false →
          properties.readOnLoad = true → properties.modelPath = some path →
          properties.build ((ModelCall.performAll calls).left resources).files =
            .ok ⟨properties, .elements held⟩)

/-- Whatever is called on a model and on the repositories that share it, the model is written once,
by its first disposal, with the elements that it holds then, if it is to be stored; it stays
disposed, and its file as it is. The properties of a model never change, so all handles that the
calls dispose it through are the same. -/
theorem persisted_once {model : ModelHandle} {resources : Resources} {items : List Json}
    (has : resources.models.Has model)
    (fresh : resources.models.get model = ⟨.elements items, false⟩) (calls : List ModelCall)
    (known : ∀ call ∈ calls, ∀ other ∈ call.disposals, other.same model = true → other = model) :
    PersistedOnce model items calls resources := by
  have accounts := ModelCall.writes_performAll calls resources
  have once := ModelCall.filter_writings calls known has fresh
  rw [if_neg Bool.false_ne_true] at once
  have states := ModelCall.get_performAll calls has fresh
  refine ⟨congrArg ModelState.disposed states, ?_, accounts, once, ?_⟩
  · rintro front rest rfl between disposed
    have hasBetween := ModelCall.has_performAll front has
    have held := ModelCall.get_performAll front has fresh
    have isDisposed : (ModelCall.heldAtDisposal? model front items).isSome = true :=
      (congrArg ModelState.disposed held).symm.trans disposed
    rw [Bool.false_or, isDisposed] at held
    constructor
    · rw [ModelCall.left_performAll_append]
      exact congrArg ModelState.disposed (ModelCall.get_performAll rest hasBetween held)
    · exact ModelCall.filter_writings rest
        (fun call mem => known call (List.mem_append_right front mem)) hasBetween held
  · intro front path text rest split succeeds apart
    -- The writing is the one that is filtered out for the model.
    have mem : ⟨model, path, text⟩ ∈
        (ModelCall.heldAtDisposal? model calls items).elim [] model.stored := by
      rw [← once, split, List.mem_filter]
      exact ⟨List.mem_append_right _ List.mem_cons_self, decide_eq_true rfl⟩
    cases atDisposal : ModelCall.heldAtDisposal? model calls items with
    | none =>
        rw [atDisposal] at mem
        cases mem
    | some held =>
        rw [atDisposal] at mem
        refine ⟨held, rfl, ModelHandle.text_of_mem_stored mem, ?_⟩
        intro parses properties named loads atPath
        refine ModelProperties.build_of_readText named loads atPath ?_ parses
        have files : ((ModelCall.performAll calls).left resources).files =
            (Writing.applyAll rest (Writing.apply ⟨model, path, text⟩
              (Writing.applyAll front resources.files).1).1).1 := by
          refine (congrArg Prod.fst accounts).trans ?_
          rw [split, Writing.applyAll_append]
          rfl
        rw [files]
        refine FileTree.readText_of_readBytes (Writing.readBytes_applyAll rest ?_ ?_)
        · exact fun writing mem =>
            Writing.apart_apply (Writing.apart_applyAll front (apart writing mem)) _
        · unfold Writing.apply
          cases written : (Writing.applyAll front resources.files).1.write path text.toUTF8 with
          | ok after => exact FileTree.readBytes_write written
          | error cause =>
              rw [written] at succeeds
              cases succeeds

/-- A model that is disposed through its handle and then, with another element, through a
repository is written with the one element that it held at first. -/
theorem persisted_once_pushed :
    let model : ModelHandle :=
      ⟨0, { ModelProperties.named "M" with storeOnDisposal := true, modelPath := some "m.json" }⟩
    let resources := { Resources.initial with models := ⟨[⟨.elements [], false⟩]⟩ }
    let calls : List ModelCall := [.push model (.integer 1), .contents model, .dispose model,
      .push model (.integer 2), .disposeAll [model]]
    (ModelCall.writings calls resources).filter (fun writing => writing.model.same model) =
      [⟨model, "m.json", ModelHandle.storedText [.integer 1]⟩] := by
  intro model resources calls
  have has : resources.models.Has model := Nat.zero_lt_one
  have known : ∀ call ∈ calls, ∀ other ∈ call.disposals, other.same model = true →
      other = model := by
    simp [calls, ModelCall.disposals]
  exact (persisted_once has rfl calls known).once

end StagedScript
