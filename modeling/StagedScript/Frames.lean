import StagedScript.Value

/-!
# Variable frames

Variables live in scopes: one global scope, and a stack of local ones. A name is looked up from the
innermost scope outwards, the globals last; a declaration goes to the innermost scope.

**Results.** What a scope answers after a declaration or an assignment (`Scope.get?_put`,
`Scope.get?_assign`), and that assignments keep its names (`Scope.names_assign`).
-/

namespace StagedScript

/-- The variables of one scope, each name once. -/
abbrev Scope :=
  List Variable

namespace Scope

def get? (scope : Scope) (name : String) : Option Variable :=
  scope.find? fun v => v.name = name

/-- Declare a variable; an earlier one of its name is replaced. -/
def put (new : Variable) : Scope → Scope
  | [] => [new]
  | held :: rest =>
      if held.name = new.name then new :: rest else held :: put new rest

/-- Give the variable of a name another value. -/
def assign (name : String) (value : Value) (scope : Scope) : Scope :=
  scope.map fun v => if v.name = name then { v with value := value } else v

def names (scope : Scope) : List String :=
  scope.map Variable.name

/-- A declared variable is what its name is looked up to; other names are as before. -/
theorem get?_put (new : Variable) (scope : Scope) (name : String) :
    (scope.put new).get? name =
      if new.name = name then some new else scope.get? name := by
  induction scope with
  | nil =>
      by_cases h : new.name = name <;> simp [put, get?, h]
  | cons held rest ih =>
      simp only [get?] at ih ⊢
      by_cases hheld : held.name = new.name
      · by_cases hname : new.name = name <;> simp [put, hheld, hname]
      · rw [put, if_neg hheld]
        by_cases hname : held.name = name
        · have : new.name ≠ name := fun h => hheld (hname.trans h.symm)
          simp [hname, this]
        · simp [hname, ih]

/-- An assignment changes the value of its name only. -/
theorem get?_assign (name : String) (value : Value) (scope : Scope) (other : String) :
    (scope.assign name value).get? other =
      if name = other then (scope.get? other).map fun v => { v with value := value }
      else scope.get? other := by
  induction scope with
  | nil =>
      simp [assign, get?]
  | cons held rest ih =>
      simp only [assign, get?, List.map_cons, List.find?_cons] at ih ⊢
      by_cases hname : held.name = name <;> by_cases hother : held.name = other <;>
        by_cases hsame : name = other <;> simp_all

@[simp] theorem names_assign (name : String) (value : Value) (scope : Scope) :
    (scope.assign name value).names = scope.names := by
  simp only [names, assign, List.map_map]
  apply List.map_congr_left
  intro v _
  simp only [Function.comp_apply]
  split <;> rfl

end Scope

/-- The global scope and the stack of local scopes, innermost first. -/
structure FrameStack where
  globals : Scope
  locals : List Scope

namespace FrameStack

/-- No variables and no local scope. -/
def empty : FrameStack :=
  ⟨[], []⟩

/-- Bind variables globally; each replaces an earlier one of its name. -/
def putGlobals (frames : FrameStack) (more : List Variable) : FrameStack :=
  { frames with globals := more.foldl (fun scope v => scope.put v) frames.globals }

def global? (frames : FrameStack) (name : String) : Option Variable :=
  frames.globals.get? name

/-- Open a local scope. -/
def enterLocal (frames : FrameStack) : FrameStack :=
  { frames with locals := [] :: frames.locals }

/-- Close the innermost local scope, if there is one. -/
def leaveLocal (frames : FrameStack) : FrameStack :=
  { frames with locals := frames.locals.tail }

/-- Declare a variable in the innermost scope, globally if no local scope is open. -/
def declareLocal (frames : FrameStack) (new : Variable) : FrameStack :=
  match frames.locals with
  | [] => { frames with globals := frames.globals.put new }
  | scope :: outer => { frames with locals := scope.put new :: outer }

/-- The innermost variable of a name in local scopes. -/
def localGet? : List Scope → String → Option Variable
  | [], _ => none
  | scope :: outer, name =>
      match scope.get? name with
      | some v => some v
      | none => localGet? outer name

/-- The variable that a name means: the innermost one, the global one last. -/
def get? (frames : FrameStack) (name : String) : Option Variable :=
  match localGet? frames.locals name with
  | some v => some v
  | none => frames.globals.get? name

/-- Give the innermost variable of a name another value, if a local scope has one. -/
def localSet? : List Scope → String → Value → Option (List Scope)
  | [], _, _ => none
  | scope :: outer, name, value =>
      match scope.get? name with
      | some _ => some (scope.assign name value :: outer)
      | none => (localSet? outer name value).map (scope :: ·)

/-- Give the variable that a name means another value, whether or not scripts may assign to it;
nothing if no scope has the name. -/
def set? (frames : FrameStack) (name : String) (value : Value) : Option FrameStack :=
  match localSet? frames.locals name value with
  | some locals => some { frames with locals := locals }
  | none =>
      match frames.globals.get? name with
      | some _ => some { frames with globals := frames.globals.assign name value }
      | none => none

/-- The number of local scopes. -/
def depth (frames : FrameStack) : Nat :=
  frames.locals.length

/-- A scope as diagnostics show it. -/
def describeScope (scope : Scope) : String :=
  "\x7b" ++ ", ".intercalate (scope.map fun v => Text.quoted v.name ++ ": " ++ v.describe) ++
    "\x7d"

/-- The frames as diagnostics show them, the outermost local scope first. -/
def describe (frames : FrameStack) : String :=
  "FrameStack \x7b globals: " ++ describeScope frames.globals ++ ", locals: [" ++
    ", ".intercalate (frames.locals.reverse.map describeScope) ++ "] \x7d"

end FrameStack
end StagedScript
