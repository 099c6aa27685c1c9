import StagedScript.Proofs.Frames.Bindings

/-!
# Scopes that are closed again

The scopes of a frame stack change one step at a time. A scope is restored when the steps between
its opening and its closing stay inside: they declare variables, open and close further scopes, and
write to names. A write stays inside if its name was declared since the opening, in a scope that is
still open; any other one goes past the scope, to what the name means outside (`Inside`).

**Results.** The scopes of a stack have distinct names after any steps (`distinct_takeAll`). What a
scope leaves behind are the writes that went past it (`takeAll_inside`); so a scope without such
writes leaves the stack as it was (`bindings_takeAll`).
-/

namespace StagedScript

/-- What is done to a frame stack. -/
inductive FrameStep
  | putGlobals (more : List Variable)
  | enterLocal
  | leaveLocal
  | declareLocal (new : Variable)
  | write (name : String) (value : Value)

/-- Steps inside a scope in which names are known: they close what they open, and a name that is
declared is known from there to the end of its scope. Last come the writes to names that are not
known, which go past the scope. -/
inductive Inside : List String → List FrameStep → List FrameStep → Prop
  | done {known : List String} : Inside known [] []
  | declare {known : List String} {new : Variable} {rest past : List FrameStep} :
      Inside (new.name :: known) rest past → Inside known (.declareLocal new :: rest) past
  | write {known : List String} {name : String} {value : Value} {rest past : List FrameStep} :
      name ∈ known → Inside known rest past → Inside known (.write name value :: rest) past
  | writePast {known : List String} {name : String} {value : Value} {rest past : List FrameStep} :
      name ∉ known → Inside known rest past →
      Inside known (.write name value :: rest) (.write name value :: past)
  | scope {known : List String} {body past rest later : List FrameStep} :
      Inside known body past → Inside known rest later →
      Inside known (.enterLocal :: (body ++ .leaveLocal :: rest)) (past ++ later)

namespace FrameStack

variable {frames : FrameStack} {scopes changed : List Scope}

/-- One step. A write to a name that is not found does nothing. -/
def take (frames : FrameStack) : FrameStep → FrameStack
  | .putGlobals more => frames.putGlobals more
  | .enterLocal => frames.enterLocal
  | .leaveLocal => frames.leaveLocal
  | .declareLocal new => frames.declareLocal new
  | .write name value => (frames.set? name value).getD frames

/-- One step after the other. -/
def takeAll (frames : FrameStack) (steps : List FrameStep) : FrameStack :=
  steps.foldl take frames

theorem takeAll_append (frames : FrameStack) (front rest : List FrameStep) :
    frames.takeAll (front ++ rest) = (frames.takeAll front).takeAll rest :=
  List.foldl_append

section Distinct

theorem Distinct.of_map_names (distinct : Distinct scopes)
    (same : changed.map Scope.names = scopes.map Scope.names) : Distinct changed := by
  have names : ∀ names ∈ changed.map Scope.names, names.Nodup :=
    same ▸ List.forall_mem_map.2 distinct
  exact List.forall_mem_map.1 names

theorem distinct_putGlobals (distinct : Distinct frames.scopes) (more : List Variable) :
    Distinct (frames.putGlobals more).scopes := by
  obtain ⟨locals, globals⟩ := List.forall_mem_append.1 distinct
  have globals := globals _ (List.mem_singleton_self _)
  have renewed (globals : Scope) (distinct : globals.names.Nodup) :
      (Scope.names (more.foldl (fun scope v => scope.put v) globals)).Nodup := by
    induction more generalizing globals with
    | nil => exact distinct
    | cons new more ih => exact ih _ (Scope.nodup_names_put distinct)
  exact List.forall_mem_append.2 ⟨locals, List.forall_mem_singleton.2 (renewed _ globals)⟩

/-- A step keeps every scope free of repeated names. -/
theorem distinct_take (distinct : Distinct frames.scopes) (step : FrameStep) :
    Distinct (frames.take step).scopes := by
  cases step with
  | putGlobals more => exact distinct_putGlobals distinct more
  | enterLocal => exact List.forall_mem_cons.2 ⟨List.nodup_nil, distinct⟩
  | leaveLocal =>
      obtain ⟨locals, globals⟩ := List.forall_mem_append.1 distinct
      exact List.forall_mem_append.2
        ⟨fun scope inside => locals scope (List.mem_of_mem_tail inside), globals⟩
  | declareLocal new =>
      obtain ⟨scope, outer, scopes, declared⟩ := scopes_declareLocal frames
      rw [scopes] at distinct
      obtain ⟨here, further⟩ := List.forall_mem_cons.1 distinct
      rw [take, declared]
      exact List.forall_mem_cons.2 ⟨Scope.nodup_names_put here, further⟩
  | write name value =>
      rw [take]
      have assigned := scopes_set? frames name value
      cases written : frames.set? name value with
      | none => exact distinct
      | some after =>
          rw [written] at assigned
          exact distinct.of_map_names (map_names_localSet? assigned.symm)

theorem distinct_takeAll (distinct : Distinct frames.scopes) (steps : List FrameStep) :
    Distinct (frames.takeAll steps).scopes := by
  induction steps generalizing frames with
  | nil => exact distinct
  | cons step steps ih => exact ih (distinct_take distinct step)

theorem distinct_empty : Distinct empty.scopes :=
  List.forall_mem_singleton.2 List.nodup_nil

end Distinct

section Inner

/-! The stack while scopes are open on top of it. -/

/-- The stack with further scopes inside. -/
def within (inner : List Scope) (frames : FrameStack) : FrameStack :=
  { frames with locals := inner ++ frames.locals }

variable {inner : List Scope} {known : List String} {name : String} {value : Value}

theorem set?_within_of_some (assigned : localSet? inner name value = some changed) :
    (within inner frames).set? name value = some (within changed frames) := by
  rw [set?, within, localSet?_append, assigned]
  rfl

/-- A write to a name that the inner scopes do not have goes past them. -/
theorem set?_within_of_unbound (unbound : Unbound inner name) :
    (within inner frames).set? name value = (frames.set? name value).map (within inner) := by
  rw [set?, within, localSet?_append, localSet?_eq_none_iff.2 unbound, set?]
  cases localSet? frames.locals name value with
  | some locals => rfl
  | none =>
      dsimp only [Option.map_none]
      cases frames.globals.get? name <;> rfl

theorem take_write_of_unbound (unbound : Unbound inner name) :
    (within inner frames).take (.write name value) =
      within inner (frames.take (.write name value)) := by
  rw [take, take, set?_within_of_unbound unbound]
  cases frames.set? name value <;> rfl

/-- The names that inner scopes have are known. -/
def Knows (known : List String) (inner : List Scope) : Prop :=
  ∀ name, name ∈ known ↔ ∃ scope ∈ inner, name ∈ scope.names

theorem Knows.unbound (knows : Knows known inner) (unknown : name ∉ known) : Unbound inner name :=
  fun scope inside held => unknown ((knows name).2 ⟨scope, inside, held⟩)

theorem Knows.assigned (knows : Knows known inner) (isKnown : name ∈ known)
    (value : Value) : ∃ changed, localSet? inner name value = some changed := by
  obtain ⟨scope, inside, held⟩ := (knows name).1 isKnown
  refine Option.ne_none_iff_exists'.1 fun none => ?_
  exact localSet?_eq_none_iff.1 none scope inside held

theorem Knows.of_map_names (knows : Knows known inner)
    (same : changed.map Scope.names = inner.map Scope.names) : Knows known changed := by
  have through (scopes : List Scope) (name : String) :
      (∃ scope ∈ scopes, name ∈ scope.names) ↔ ∃ names ∈ scopes.map Scope.names, name ∈ names := by
    simp
  intro name
  rw [knows name, through, through, same]

theorem Knows.declare {scope : Scope} {outer : List Scope}
    (knows : Knows known (scope :: outer)) (new : Variable) :
    Knows (new.name :: known) (scope.put new :: outer) := by
  intro name
  rw [List.mem_cons, knows name, List.exists_mem_cons_iff, List.exists_mem_cons_iff,
    Scope.mem_names_put, or_assoc]

theorem Knows.open (knows : Knows known inner) : Knows known ([] :: inner) := by
  intro name
  rw [knows name, List.exists_mem_cons_iff]
  simp [Scope.names]

/-- Steps inside a scope change the scope itself, values further out as far as the names are known,
and of the stack outside what the writes do that go past. -/
theorem takeAll_within {body past : List FrameStep}
    (inside : Inside known body past) (frames : FrameStack) (mine : Scope) (outer : List Scope)
    (knows : Knows known (mine :: outer)) :
    ∃ mine' outer', (within (mine :: outer) frames).takeAll body =
        within (mine' :: outer') (frames.takeAll past) ∧
      outer'.map Scope.names = outer.map Scope.names := by
  -- the names that are known stay those of the inner scopes, which tells where a write goes
  induction inside generalizing frames mine outer with
  | done => exact ⟨mine, outer, rfl, rfl⟩
  | declare inside ih => exact ih frames _ outer (knows.declare _)
  | @write known name value rest past isKnown inside ih =>
      obtain ⟨changed, assigned⟩ := knows.assigned isKnown value
      have same := map_names_localSet? assigned
      obtain ⟨mine', outer', rfl, -, further⟩ := List.map_eq_cons_iff.1 same
      obtain ⟨last, others, taken, names⟩ := ih frames mine' outer' (knows.of_map_names same)
      refine ⟨last, others, ?_, names.trans further⟩
      rw [← taken]
      change ((within (mine :: outer) frames).take (.write name value)).takeAll rest = _
      rw [take, set?_within_of_some assigned]
      rfl
  | @writePast known name value rest past unknown inside ih =>
      obtain ⟨last, others, taken, names⟩ :=
        ih (frames.take (.write name value)) mine outer knows
      refine ⟨last, others, ?_, names⟩
      rw [← take_write_of_unbound (knows.unbound unknown)] at taken
      exact taken
  | @scope known body past rest later inside after ihInside ihAfter =>
      obtain ⟨mine', outer', taken, names⟩ := ihInside frames [] (mine :: outer) knows.open
      -- closing the scope drops it, and the names of the others are the ones from before
      obtain ⟨mine'', outer'', rfl, -, further⟩ := List.map_eq_cons_iff.1 names
      obtain ⟨last, others, ended, ends⟩ := ihAfter (frames.takeAll past) mine'' outer''
        (knows.of_map_names names)
      refine ⟨last, others, ?_, ends.trans further⟩
      rw [takeAll_append, ← ended]
      change ((within ([] :: mine :: outer) frames).takeAll (body ++ .leaveLocal :: rest)) = _
      rw [takeAll_append, taken]
      rfl

end Inner

/-- What a scope leaves behind are the writes that went past it. -/
theorem takeAll_inside {body past : List FrameStep} (inside : Inside [] body past)
    (frames : FrameStack) : (frames.enterLocal.takeAll body).leaveLocal = frames.takeAll past := by
  have knows : Knows [] [[]] := by
    simp [Knows, Scope.names]
  obtain ⟨mine, outer, taken, names⟩ := takeAll_within inside frames [] [] knows
  have opened : frames.enterLocal = within [[]] frames := rfl
  rw [opened, taken, List.map_eq_nil_iff.1 names]
  rfl

/-- After any steps, every name is read and written at one place, a declaration changes no scope but
the innermost one, and a scope that no write goes past leaves the stack as it was. -/
theorem bindings_takeAll (steps : List FrameStep) :
    let frames := takeAll empty steps
    (∀ name, frames.OneBinding name) ∧
      (∃ scope outer, frames.scopes = scope :: outer ∧
        ∀ new, (frames.declareLocal new).scopes = scope.put new :: outer) ∧
      ∀ body, Inside [] body [] → (frames.enterLocal.takeAll body).leaveLocal = frames := by
  intro frames
  have distinct : Distinct frames.scopes := distinct_takeAll distinct_empty steps
  exact ⟨oneBinding distinct, scopes_declareLocal frames, fun body inside =>
    takeAll_inside inside frames⟩

/-- A global that is shadowed in a scope, and again in a scope inside; all writes find a variable of
these scopes. -/
theorem bindings_takeAll_shadowed :
    let frames := takeAll empty [.putGlobals [.mutable "x" (.integer 1)]]
    (frames.enterLocal.takeAll
      [.declareLocal (.mutable "x" (.integer 2)), .enterLocal, .write "x" (.integer 3),
        .declareLocal (.mutable "x" (.integer 4)), .write "x" (.integer 5), .leaveLocal,
        .write "x" (.integer 6)]).leaveLocal = frames := by
  intro frames
  have isX : "x" ∈ ["x"] := List.mem_cons_self
  have inner : Inside ["x"] [.write "x" (.integer 3),
      .declareLocal (.mutable "x" (.integer 4)), .write "x" (.integer 5)] [] :=
    .write isX (.declare (.write List.mem_cons_self .done))
  exact (bindings_takeAll [.putGlobals [.mutable "x" (.integer 1)]]).2.2 _
    (.declare (.scope inner (.write isX .done)))

/-- A write does not stay inside because its name was declared since: the scope of the declaration
can have been closed before, and the name then means the variable outside. -/
theorem write_past_closed_scope :
    let frames := takeAll empty [.putGlobals [.mutable "x" (.integer 1)]]
    let left := (frames.enterLocal.takeAll
      [.enterLocal, .declareLocal (.mutable "x" (.integer 2)), .leaveLocal,
        .write "x" (.integer 3)]).leaveLocal
    frames.get? "x" = some (.mutable "x" (.integer 1)) ∧
      left.get? "x" = some (.mutable "x" (.integer 3)) ∧ left ≠ frames := by
  intro frames left
  have before : frames.get? "x" = some (.mutable "x" (.integer 1)) := rfl
  have after : left.get? "x" = some (.mutable "x" (.integer 3)) := rfl
  refine ⟨before, after, fun same => ?_⟩
  rw [same, before] at after
  have values : Value.integer 1 = .integer 3 := congrArg Variable.value (Option.some.inj after)
  exact absurd (Value.integer.inj values) (by decide)

end FrameStack
end StagedScript
