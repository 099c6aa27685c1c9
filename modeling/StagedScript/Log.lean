/-!
# Log records

A run leaves records with a level and a message. Operations that may log are computations in
`Logged`, which carries the records beside the value, in order; no computation can read them.

**Results.** `Logged` is a lawful monad.
-/

namespace StagedScript

inductive LogLevel where
  | debug
  | info
  | warn
  | error
deriving DecidableEq, Repr

namespace LogLevel

def name : LogLevel → String
  | .debug => "DEBUG"
  | .info => "INFO"
  | .warn => "WARN"
  | .error => "ERROR"

end LogLevel

structure LogRecord where
  level : LogLevel
  message : String
deriving DecidableEq, Repr

/-- A value and the records that its computation left. -/
structure Logged (α : Type u) where
  value : α
  records : List LogRecord

namespace Logged

def record (level : LogLevel) (message : String) : Logged PUnit :=
  ⟨⟨⟩, [⟨level, message⟩]⟩

instance : Monad Logged where
  pure value := ⟨value, []⟩
  bind first next :=
    let second := next first.value
    ⟨second.value, first.records ++ second.records⟩

@[simp] theorem value_pure (value : α) : (pure value : Logged α).value = value :=
  rfl

@[simp] theorem records_pure (value : α) : (pure value : Logged α).records = [] :=
  rfl

@[simp] theorem value_bind (first : Logged α) (next : α → Logged β) :
    (first >>= next).value = (next first.value).value :=
  rfl

@[simp] theorem records_bind (first : Logged α) (next : α → Logged β) :
    (first >>= next).records = first.records ++ (next first.value).records :=
  rfl

@[ext] theorem ext {first second : Logged α} (value : first.value = second.value)
    (records : first.records = second.records) : first = second := by
  cases first
  cases second
  simp_all

instance : LawfulMonad Logged :=
  LawfulMonad.mk' Logged
    (fun logged => by apply ext <;> simp [Functor.map])
    (fun value next => by apply ext <;> simp)
    (fun logged next more => by apply ext <;> simp [List.append_assoc])

end Logged
end StagedScript
