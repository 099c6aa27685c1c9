import Mathlib.Data.List.Nodup
import StagedScript.Frames

/-!
# Which binding a name means

The scopes of a frame stack are searched from the innermost one outwards, the globals last. Looking
a name up and writing through it are two searches; both end at the first scope that has the name,
and in a scope that has each of its names once there is one binding for it.

**Results.** A name is bound at one site or nowhere (`unbound_or_boundAt`); a lookup finds the
variable at the site, a write through the name changes this variable and nothing else, and neither
finds a name that is not bound (`oneBinding`). A declaration changes the innermost scope
(`scopes_declareLocal`).
-/

namespace StagedScript

namespace Scope

variable {new v : Variable} {scope front back : Scope} {name : String}

theorem names_append (scope rest : Scope) : names (scope ++ rest) = scope.names ++ rest.names :=
  List.map_append

theorem get?_eq_none_iff : scope.get? name = none ↔ name ∉ scope.names := by
  simp [get?, names]

theorem put_append_of_mem (held : new.name ∈ scope.names) (rest : Scope) :
    Scope.put new (scope ++ rest) = scope.put new ++ rest := by
  induction scope with
  | nil => cases held
  | cons v scope ih =>
      rw [List.cons_append, put, put]
      split
      next => rfl
      next other =>
        have later : new.name ∈ names scope := (List.mem_cons.1 held).resolve_left (Ne.symm other)
        rw [ih later, List.cons_append]

theorem put_append_of_not_mem (absent : new.name ∉ scope.names) (rest : Scope) :
    Scope.put new (scope ++ rest) = scope ++ rest.put new := by
  induction scope with
  | nil => rfl
  | cons v scope ih =>
      obtain ⟨here, later⟩ := not_or.1 (mt List.mem_cons.2 absent)
      rw [List.cons_append, put, if_neg (Ne.symm here), ih later, List.cons_append]

theorem names_put_of_mem (held : new.name ∈ scope.names) :
    (scope.put new).names = scope.names := by
  induction scope with
  | nil => cases held
  | cons v scope ih =>
      rw [put]
      split
      next same => exact congrArg (· :: names scope) same.symm
      next other =>
        have later : new.name ∈ names scope := (List.mem_cons.1 held).resolve_left (Ne.symm other)
        exact congrArg (v.name :: ·) (ih later)

theorem put_of_not_mem (absent : new.name ∉ scope.names) : scope.put new = scope ++ [new] := by
  have appended := put_append_of_not_mem absent []
  rwa [List.append_nil] at appended

theorem mem_names_put : name ∈ (scope.put new).names ↔ name = new.name ∨ name ∈ scope.names := by
  by_cases held : new.name ∈ scope.names
  · rw [names_put_of_mem held]
    constructor
    · exact .inr
    · rintro (rfl | inside)
      · exact held
      · exact inside
  · rw [put_of_not_mem held, names_append, List.mem_append, or_comm]
    simp [names]

/-- A declaration keeps a scope free of repeated names. -/
theorem nodup_names_put (distinct : scope.names.Nodup) : (scope.put new).names.Nodup := by
  by_cases held : new.name ∈ scope.names
  · rwa [names_put_of_mem held]
  · rw [put_of_not_mem held, names_append]
    refine List.nodup_append.2 ⟨distinct, List.nodup_singleton _, ?_⟩
    rintro name inside _ here rfl
    exact held (List.mem_singleton.1 here ▸ inside)

/-- A variable that is found in a scope with distinct names is the only one of its name. -/
theorem exists_split (distinct : scope.names.Nodup) (found : scope.get? name = some v) :
    ∃ front back, scope = front ++ v :: back ∧ v.name = name ∧ name ∉ names front ∧
      name ∉ names back := by
  obtain ⟨named, front, back, rfl, -⟩ := List.find?_eq_some_iff_append.1 found
  have named : v.name = name := of_decide_eq_true named
  have split : names (front ++ v :: back) = names front ++ name :: names back := by
    rw [names_append, ← named]
    rfl
  rw [split] at distinct
  obtain ⟨-, rest, apart⟩ := List.nodup_append.1 distinct
  refine ⟨front, back, rfl, named, ?_, (List.nodup_cons.1 rest).1⟩
  exact fun inside => apart name inside name List.mem_cons_self rfl

theorem assign_of_not_mem (value : Value) (absent : name ∉ scope.names) :
    scope.assign name value = scope := by
  refine (List.map_congr_left fun v inside => ?_).trans (List.map_id scope)
  have other : v.name ≠ name := fun same => absent (same ▸ List.mem_map_of_mem inside)
  exact if_neg other

/-- An assignment to the only variable of a name replaces it. -/
theorem assign_split (value : Value) (named : v.name = name) (beforeIt : name ∉ names front)
    (behindIt : name ∉ names back) :
    assign name value (front ++ v :: back) = front ++ { v with value := value } :: back := by
  have whole : assign name value (front ++ v :: back) =
      front.assign name value ++ { v with value := value } :: back.assign name value := by
    simp [assign, named]
  rw [whole, assign_of_not_mem value beforeIt, assign_of_not_mem value behindIt]

end Scope

namespace FrameStack

variable {frames after : FrameStack} {inner outer : List Scope} {name : String} {v : Variable}
  {value : Value}

/-- The scopes from the innermost one outwards, the globals last. -/
def scopes (frames : FrameStack) : List Scope :=
  frames.locals ++ [frames.globals]

/-- What is around one variable: the scopes that are searched before its own, the other variables of
its own scope, and the scopes behind. -/
structure Site where
  inner : List Scope
  front : Scope
  back : Scope
  outer : List Scope

/-- The scopes with a variable at the site. -/
def Site.holding (site : Site) (v : Variable) : List Scope :=
  site.inner ++ (site.front ++ v :: site.back) :: site.outer

/-- The name belongs to the variable at the site: no scope further in has the name, and its own
scope has it once. -/
structure BoundAt (scopes : List Scope) (name : String) (site : Site) (v : Variable) : Prop where
  holding : scopes = site.holding v
  named : v.name = name
  hidden : ∀ scope ∈ site.inner, name ∉ scope.names
  beforeIt : name ∉ Scope.names site.front
  behindIt : name ∉ Scope.names site.back

/-- No scope has a variable of the name. -/
def Unbound (scopes : List Scope) (name : String) : Prop :=
  ∀ scope ∈ scopes, name ∉ scope.names

/-- Every scope has each of its names once. -/
def Distinct (scopes : List Scope) : Prop :=
  ∀ scope ∈ scopes, scope.names.Nodup

section Searches

variable {scopes changed : List Scope}

/-! Both searches go through the scopes one after the other. -/

theorem localGet?_cons (scope : Scope) (outer : List Scope) (name : String) :
    localGet? (scope :: outer) name = (scope.get? name).or (localGet? outer name) := by
  rw [localGet?]
  cases scope.get? name <;> rfl

theorem localGet?_append (inner outer : List Scope) (name : String) :
    localGet? (inner ++ outer) name = (localGet? inner name).or (localGet? outer name) := by
  induction inner with
  | nil => rfl
  | cons scope inner ih =>
      rw [List.cons_append, localGet?_cons, localGet?_cons, ih, Option.or_assoc]

theorem localSet?_append (inner outer : List Scope) (name : String) (value : Value) :
    localSet? (inner ++ outer) name value =
      ((localSet? inner name value).map (· ++ outer)).or
        ((localSet? outer name value).map (inner ++ ·)) := by
  induction inner with
  | nil => simp [localSet?]
  | cons scope inner ih =>
      rw [List.cons_append, localSet?, localSet?]
      cases scope.get? name with
      | some v => rfl
      | none =>
          dsimp only
          rw [ih]
          cases localSet? inner name value <;> cases localSet? outer name value <;> rfl

theorem localGet?_eq_none_iff : localGet? scopes name = none ↔ Unbound scopes name := by
  induction scopes with
  | nil => simp [localGet?, Unbound]
  | cons scope scopes ih =>
      rw [localGet?_cons, Option.or_eq_none_iff, ih, Scope.get?_eq_none_iff]
      simp [Unbound]

/-- A write that finds its name assigns to it in the first scope that has it. -/
theorem exists_of_localSet? (assigned : localSet? scopes name value = some changed) :
    ∃ inner scope outer v, scopes = inner ++ scope :: outer ∧ localGet? inner name = none ∧
      scope.get? name = some v ∧ changed = inner ++ scope.assign name value :: outer := by
  induction scopes generalizing changed with
  | nil => cases assigned
  | cons scope scopes ih =>
      rw [localSet?] at assigned
      cases found : scope.get? name with
      | some v =>
          rw [found] at assigned
          cases assigned
          exact ⟨[], scope, scopes, v, rfl, rfl, found, rfl⟩
      | none =>
          rw [found] at assigned
          dsimp only at assigned
          obtain ⟨further, later, rfl⟩ := Option.map_eq_some_iff.1 assigned
          obtain ⟨inner, holder, outer, v, rfl, unbound, held, rfl⟩ := ih later
          refine ⟨scope :: inner, holder, outer, v, rfl, ?_, held, rfl⟩
          rw [localGet?_cons, found, unbound]
          rfl

theorem localSet?_eq_none_iff : localSet? scopes name value = none ↔ Unbound scopes name := by
  rw [← localGet?_eq_none_iff]
  induction scopes with
  | nil => simp [localSet?, localGet?]
  | cons scope scopes ih =>
      rw [localSet?, localGet?_cons, Option.or_eq_none_iff, ← ih]
      cases scope.get? name <;> simp

/-- A write keeps the names of all scopes. -/
theorem map_names_localSet? (assigned : localSet? scopes name value = some changed) :
    changed.map Scope.names = scopes.map Scope.names := by
  obtain ⟨inner, scope, outer, v, rfl, -, -, rfl⟩ := exists_of_localSet? assigned
  simp

/-- After a write, its name means the variable with the new value, and every other name what it
meant before. -/
theorem localGet?_localSet? (assigned : localSet? scopes name value = some changed)
    (other : String) :
    localGet? changed other =
      if name = other then (localGet? scopes name).map fun v => { v with value := value }
      else localGet? scopes other := by
  obtain ⟨inner, scope, outer, v, rfl, unbound, found, rfl⟩ := exists_of_localSet? assigned
  simp only [localGet?_append, localGet?_cons, Scope.get?_assign]
  by_cases same : name = other
  · subst same
    rw [if_pos rfl, if_pos rfl, unbound, found]
    rfl
  · rw [if_neg same, if_neg same]

end Searches

section Sites

variable {scopes : List Scope}

/-- A name is bound at a site or nowhere. -/
theorem unbound_or_boundAt (distinct : Distinct scopes) (name : String) :
    Unbound scopes name ∨ ∃ site v, BoundAt scopes name site v := by
  induction scopes with
  | nil => exact .inl nofun
  | cons scope scopes ih =>
      obtain ⟨here, further⟩ := List.forall_mem_cons.1 distinct
      cases found : scope.get? name with
      | some v =>
          obtain ⟨front, back, rfl, named, beforeIt, behindIt⟩ := Scope.exists_split here found
          exact .inr ⟨⟨[], front, back, scopes⟩, v, rfl, named, nofun, beforeIt, behindIt⟩
      | none =>
          have absent := Scope.get?_eq_none_iff.1 found
          rcases ih further with unbound | ⟨site, v, rfl, named, hidden, beforeIt, behindIt⟩
          · exact .inl (List.forall_mem_cons.2 ⟨absent, unbound⟩)
          · exact .inr ⟨{ site with inner := scope :: site.inner }, v, rfl, named,
              List.forall_mem_cons.2 ⟨absent, hidden⟩, beforeIt, behindIt⟩

variable {site : Site} (bound : BoundAt scopes name site v)

include bound

theorem BoundAt.get?_scope : Scope.get? (site.front ++ v :: site.back) name = some v := by
  rw [Scope.get?, List.find?_append, ← Scope.get?, Scope.get?_eq_none_iff.2 bound.beforeIt]
  simp [bound.named]

/-- A lookup of a name finds the variable at its site. -/
theorem BoundAt.localGet? : FrameStack.localGet? scopes name = some v := by
  rw [bound.holding, Site.holding, localGet?_append, localGet?_eq_none_iff.2 bound.hidden,
    localGet?_cons, bound.get?_scope]
  rfl

/-- A write through a name changes the variable at its site. -/
theorem BoundAt.localSet? (value : Value) :
    FrameStack.localSet? scopes name value = some (site.holding { v with value := value }) := by
  rw [bound.holding, Site.holding, localSet?_append, localSet?_eq_none_iff.2 bound.hidden,
    FrameStack.localSet?, bound.get?_scope]
  dsimp only
  rw [Scope.assign_split value bound.named bound.beforeIt bound.behindIt]
  rfl

end Sites

section Frames

/-! The globals are looked up and written to like a last scope. -/

theorem get?_eq_localGet? (frames : FrameStack) (name : String) :
    frames.get? name = localGet? frames.scopes name := by
  rw [get?, scopes, localGet?_append, localGet?_cons]
  cases localGet? frames.locals name with
  | some v => rfl
  | none => exact (Option.or_none).symm

theorem scopes_set? (frames : FrameStack) (name : String) (value : Value) :
    (frames.set? name value).map scopes = localSet? frames.scopes name value := by
  rw [set?, scopes, localSet?_append, localSet?]
  cases localSet? frames.locals name value with
  | some changed => rfl
  | none => cases frames.globals.get? name <;> rfl

/-- After a write, its name means the variable with the new value, and every other name what it
meant before. -/
theorem get?_set? (assigned : frames.set? name value = some after) (other : String) :
    after.get? other =
      if name = other then (frames.get? name).map fun v => { v with value := value }
      else frames.get? other := by
  have scopes : localSet? frames.scopes name value = some after.scopes := by
    rw [← scopes_set?, assigned]
    rfl
  simp only [get?_eq_localGet?, localGet?_localSet? scopes]

/-- A declaration changes the innermost scope. -/
theorem scopes_declareLocal (frames : FrameStack) :
    ∃ scope outer, frames.scopes = scope :: outer ∧
      ∀ new, (frames.declareLocal new).scopes = scope.put new :: outer := by
  obtain ⟨globals, locals⟩ := frames
  cases locals with
  | nil => exact ⟨globals, [], rfl, fun new => rfl⟩
  | cons scope outer => exact ⟨scope, outer ++ [globals], rfl, fun new => rfl⟩

/-- A name is read and written at one place. It is bound nowhere, and found by neither; or it is
bound at a site, where a lookup finds the variable and a write leaves it with the new value. Nothing
else is changed, and no other name means another variable. -/
def OneBinding (frames : FrameStack) (name : String) : Prop :=
  (Unbound frames.scopes name ∧ frames.get? name = none ∧
    ∀ value, frames.set? name value = none) ∨
  ∃ site v, BoundAt frames.scopes name site v ∧ frames.get? name = some v ∧
    ∀ value, ∃ after, frames.set? name value = some after ∧
      after.scopes = site.holding { v with value := value } ∧
      ∀ other, after.get? other =
        if name = other then some { v with value := value } else frames.get? other

theorem oneBinding (distinct : Distinct frames.scopes) (name : String) :
    frames.OneBinding name := by
  rcases unbound_or_boundAt distinct name with unbound | ⟨site, v, bound⟩
  · refine .inl ⟨unbound, ?_, fun value => ?_⟩
    · exact (get?_eq_localGet? frames name).trans (localGet?_eq_none_iff.2 unbound)
    · exact Option.map_eq_none_iff.1
        ((scopes_set? frames name value).trans (localSet?_eq_none_iff.2 unbound))
  · have found := (get?_eq_localGet? frames name).trans bound.localGet?
    refine .inr ⟨site, v, bound, found, fun value => ?_⟩
    obtain ⟨after, assigned, scopes⟩ := Option.map_eq_some_iff.1
      ((scopes_set? frames name value).trans (bound.localSet? value))
    refine ⟨after, assigned, scopes, fun other => ?_⟩
    rw [get?_set? assigned, found]
    rfl

end Frames

end FrameStack
end StagedScript
