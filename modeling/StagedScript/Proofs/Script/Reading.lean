import StagedScript.Proofs.Script.Grammar

/-!
# What parsers read

`Yields p ts a rest` says that a parser reads a value off the front of the tokens and leaves the
rest. Each parser without a loop has one lemma here that says what it yields; the parsers of the
language are reasoned about through these lemmas and `yields_bind`.

A list of tokens in which the end of input stands once, at the end, keeps that property when
another token is taken off its front.
-/

namespace StagedScript
namespace Script

/-- Tokens that end once are some. -/
theorem EndsOnce.ne_nil {ts : List Located} (ends : EndsOnce ts) : ts ≠ [] := by
  obtain ⟨body, last, rfl, -, -⟩ := ends
  simp

/-- A token that is not the end of input may be taken off the front. -/
theorem EndsOnce.tail {l : Located} {ts : List Located} (ends : EndsOnce (l :: ts))
    (other : l.token ≠ .endOfInput) : EndsOnce ts := by
  obtain ⟨body, last, split, atEnd, inside⟩ := ends
  cases body with
  | nil =>
      obtain ⟨rfl, rfl⟩ : l = last ∧ ts = [] := by simpa using split
      exact absurd atEnd other
  | cons first body =>
      obtain ⟨rfl, rfl⟩ : l = first ∧ ts = body ++ [last] := by simpa using split
      exact ⟨body, last, rfl, atEnd, fun located h => inside located (by simp [h])⟩

/-- Where the end of input comes first, nothing follows it. -/
theorem EndsOnce.eq_singleton {l : Located} {ts : List Located} (ends : EndsOnce (l :: ts))
    (atEnd : l.token = .endOfInput) : ts = [] := by
  obtain ⟨body, last, split, -, inside⟩ := ends
  cases body with
  | nil =>
      obtain ⟨-, rfl⟩ : l = last ∧ ts = [] := by simpa using split
      rfl
  | cons first body =>
      obtain ⟨rfl, -⟩ : l = first ∧ ts = body ++ [last] := by simpa using split
      exact absurd atEnd (inside l (by simp))

theorem tokensOf_eq_cons_iff {ts : List Located} {t : Token} {word : List Token} :
    tokensOf ts = t :: word ↔ ∃ l tail, ts = l :: tail ∧ l.token = t ∧ tokensOf tail = word :=
  List.map_eq_cons_iff

theorem tokensOf_eq_append_iff {ts : List Located} {first second : List Token} :
    tokensOf ts = first ++ second ↔
      ∃ head tail, ts = head ++ tail ∧ tokensOf head = first ∧ tokensOf tail = second :=
  List.map_eq_append_iff

theorem tokensOf_eq_singleton_iff {ts : List Located} {t : Token} :
    tokensOf ts = [t] ↔ ∃ l, ts = [l] ∧ l.token = t :=
  List.map_eq_singleton_iff

/-- The next token; after the last one it is the end of input. -/
def headToken : List Located → Token
  | [] => .endOfInput
  | l :: _ => l.token

@[simp] theorem headToken_nil : headToken [] = .endOfInput :=
  rfl

@[simp] theorem headToken_cons (l : Located) (ts : List Located) :
    headToken (l :: ts) = l.token :=
  rfl

theorem headToken_append_of_tokensOf {ts rest : List Located} {t : Token} {word : List Token}
    (spelled : tokensOf ts = t :: word) : headToken (ts ++ rest) = t := by
  obtain ⟨l, tail, rfl, isToken, -⟩ := tokensOf_eq_cons_iff.1 spelled
  exact isToken

/-- A next token that is not the end of input is there. -/
theorem exists_cons_of_headToken {ts : List Located} {t : Token} (next : headToken ts = t)
    (other : t ≠ .endOfInput) : ∃ l rest, ts = l :: rest ∧ l.token = t := by
  cases ts with
  | nil => exact absurd next.symm other
  | cons l rest => exact ⟨l, rest, rfl, next⟩

namespace Parse

variable {α β : Type} {ts rest : List Located}

/-- A parser reads a value off the front of the tokens and leaves the rest. -/
def Yields (p : Parse α) (ts : List Located) (a : α) (rest : List Located) : Prop :=
  p.run.run ts = (.ok a, rest)

theorem yields_pure {a b : α} : Yields (pure a) ts b rest ↔ a = b ∧ ts = rest := by
  change ((Except.ok a, ts) : Except Problem α × List Located) = (.ok b, rest) ↔ _
  simp

/-- What one parser leaves is what the next one reads. -/
theorem yields_bind {p : Parse α} {f : α → Parse β} {b : β} :
    Yields (p >>= f) ts b rest ↔ ∃ a mid, Yields p ts a mid ∧ Yields (f a) mid b rest := by
  unfold Yields
  rw [ExceptT.run_bind, StateT.run_bind]
  rcases h : p.run.run ts with ⟨_ | a, mid⟩
  · constructor
    · intro failed
      cases congrArg Prod.fst failed
    · rintro ⟨a, mid, ⟨⟩, -⟩
  · constructor
    · intro done
      exact ⟨a, mid, rfl, done⟩
    · rintro ⟨a, mid, ⟨⟩, done⟩
      exact done

/-- A parser has one result. -/
theorem Yields.unique {p : Parse α} {a b : α} {other : List Located}
    (first : Yields p ts a rest) (second : Yields p ts b other) : a = b ∧ rest = other := by
  have same : (Except.ok a, rest) = ((.ok b, other) : Except Problem α × List Located) :=
    first.symm.trans second
  simpa using same

theorem not_yields_unexpected {expected : String} {a : α} :
    ¬ Yields (unexpected expected) ts a rest := by
  intro h
  cases ts <;> cases congrArg Prod.fst h

theorem not_yields_tooDeep {what : String} {a : α} : ¬ Yields (tooDeep what) ts a rest := by
  intro h
  cases ts <;> cases congrArg Prod.fst h

/-- A look at the next token takes nothing. -/
theorem yields_peek_bind {f : Token → Parse β} {b : β} :
    Yields (peek >>= f) ts b rest ↔ Yields (f (headToken ts)) ts b rest := by
  have look : peek.run.run ts = (.ok (headToken ts), ts) := by
    cases ts <;> rfl
  rw [yields_bind]
  constructor
  · rintro ⟨t, mid, looked, h⟩
    obtain ⟨rfl, rfl⟩ := Yields.unique look looked
    exact h
  · intro h
    exact ⟨headToken ts, ts, look, h⟩

/-- A token is passed. -/
theorem yields_advance_bind {l : Located} (inside : l.token ≠ .endOfInput) {f : Unit → Parse β}
    {b : β} : Yields (advance >>= f) (l :: ts) b rest ↔ Yields (f ()) ts b rest := by
  have step : advance.run.run (l :: ts) = (.ok (), ts) := by
    change (if l.token = .endOfInput then pure () else set ts : Parse Unit).run.run (l :: ts) = _
    rw [if_neg inside]
    rfl
  rw [yields_bind]
  constructor
  · rintro ⟨u, mid, moved, h⟩
    obtain ⟨-, rfl⟩ := Yields.unique step moved
    exact h
  · intro h
    exact ⟨(), ts, step, h⟩

theorem yields_eat_bind {t : Token} (inside : t ≠ .endOfInput) {f : Bool → Parse β} {b : β} :
    Yields (eat t >>= f) ts b rest ↔
      (∃ l tail, ts = l :: tail ∧ l.token = t ∧ Yields (f true) tail b rest) ∨
        (headToken ts ≠ t ∧ Yields (f false) ts b rest) := by
  unfold eat
  rw [bind_assoc, yields_peek_bind]
  by_cases found : headToken ts = t
  · obtain ⟨l, tail, rfl, rfl⟩ := exists_cons_of_headToken found inside
    rw [if_pos found, bind_assoc, yields_advance_bind inside, pure_bind]
    constructor
    · intro h
      exact .inl ⟨l, tail, rfl, rfl, h⟩
    · rintro (⟨l', tail', ⟨⟩, -, h⟩ | ⟨missing, -⟩)
      · exact h
      · exact absurd rfl missing
  · rw [if_neg found, pure_bind]
    constructor
    · intro h
      exact .inr ⟨found, h⟩
    · rintro (⟨l, tail, rfl, same, -⟩ | ⟨-, h⟩)
      · exact absurd same found
      · exact h

theorem yields_expect_bind {t : Token} (inside : t ≠ .endOfInput) {expected : String}
    {f : Unit → Parse β} {b : β} :
    Yields (expect t expected >>= f) ts b rest ↔
      ∃ l tail, ts = l :: tail ∧ l.token = t ∧ Yields (f ()) tail b rest := by
  unfold expect
  rw [bind_assoc, yields_eat_bind inside]
  constructor
  · rintro (⟨l, tail, rfl, rfl, h⟩ | ⟨-, h⟩)
    · rw [if_pos rfl, pure_bind] at h
      exact ⟨l, tail, rfl, rfl, h⟩
    · rw [if_neg (by simp), yields_bind] at h
      obtain ⟨a, mid, failed, -⟩ := h
      exact absurd failed not_yields_unexpected
  · rintro ⟨l, tail, rfl, rfl, h⟩
    rw [if_pos rfl, pure_bind]
    exact .inl ⟨l, tail, rfl, rfl, h⟩

theorem yields_name {expected s : String} :
    Yields (name expected) ts s rest ↔ ∃ l, ts = l :: rest ∧ l.token = .name s := by
  unfold name
  rw [yields_peek_bind]
  constructor
  · intro h
    split at h
    next found spelled =>
      obtain ⟨l, tail, rfl, same⟩ := exists_cons_of_headToken spelled (by simp)
      rw [yields_advance_bind (by simp [same])] at h
      obtain ⟨rfl, rfl⟩ := yields_pure.1 h
      exact ⟨l, rfl, same⟩
    next => exact absurd h not_yields_unexpected
  · rintro ⟨l, rfl, same⟩
    rw [headToken_cons, same]
    exact (yields_advance_bind (by simp [same])).2 (yields_pure.2 ⟨rfl, rfl⟩)

theorem yields_nested {what : String} {inner : Option (Parse α)} {a : α} :
    Yields (nested what inner) ts a rest ↔ ∃ p, inner = some p ∧ Yields p ts a rest := by
  cases inner with
  | none =>
      constructor
      · exact fun h => absurd h not_yields_tooDeep
      · rintro ⟨p, ⟨⟩, -⟩
  | some p =>
      constructor
      · exact fun h => ⟨p, rfl, h⟩
      · rintro ⟨p, ⟨⟩, h⟩
        exact h

theorem yields_checkHeight {e e' : Expr} :
    Yields (checkHeight e) ts e' rest ↔ e.height ≤ maxNesting ∧ e = e' ∧ ts = rest := by
  unfold checkHeight
  split
  next tall => exact ⟨fun h => absurd h not_yields_tooDeep, fun h => by omega⟩
  next low =>
    rw [yields_pure]
    exact ⟨fun h => ⟨by omega, h⟩, fun h => h.2⟩

/-- The token after the next one. -/
def secondToken : List Located → Token
  | _ :: l :: _ => l.token
  | _ => .endOfInput

theorem yields_assignAhead_bind {f : Bool → Parse β} {b : β} :
    Yields (assignAhead >>= f) ts b rest ↔
      Yields (f (secondToken ts = .symbol .assign)) ts b rest := by
  have look : assignAhead.run.run ts = (.ok (decide (secondToken ts = .symbol .assign)), ts) := by
    rcases ts with _ | ⟨first, _ | ⟨second, ts⟩⟩ <;> rfl
  rw [yields_bind]
  constructor
  · rintro ⟨t, mid, looked, h⟩
    obtain ⟨rfl, rfl⟩ := Yields.unique look looked
    exact h
  · intro h
    exact ⟨_, ts, look, h⟩

/-- The operators of a level by their tokens. -/
def operatorAt : Level → Token → Option BinaryOp
  | .disjunction => disjunction?
  | .conjunction => conjunction?
  | .equality => equality?
  | .comparison => comparison?
  | .additive => additive?
  | .multiplicative => multiplicative?
  | .operand | .primary => fun _ => none

theorem operatorAt_eq_some_iff {level : Level} {t : Token} {op : BinaryOp} :
    operatorAt level t = some op ↔ op.level = level ∧ op.token = t := by
  constructor
  · intro found
    cases level <;>
      simp only [operatorAt, disjunction?, conjunction?, equality?, comparison?, additive?,
        multiplicative?] at found
    case operand | primary => cases found
    all_goals split at found <;> cases found <;> exact ⟨rfl, rfl⟩
  · rintro ⟨rfl, rfl⟩
    cases op <;> rfl

theorem prefixOp?_eq_some_iff {t : Token} {op : UnaryOp} :
    prefixOp? t = some op ↔ op.token = t := by
  constructor
  · intro found
    unfold prefixOp? at found
    split at found <;> cases found <;> rfl
  · rintro rfl
    cases op <;> rfl

/-- The parser of a level over the parser of operands. -/
def atLevel (turns : Nat) (operand : Parse Expr) (level : Level) : Parse Expr :=
  let multiplicative := chain turns multiplicative? operand
  let additive := chain turns additive? multiplicative
  let comparison := chain turns comparison? additive
  let equality := chain turns equality? comparison
  let conjunction := chain turns conjunction? equality
  match level with
  | .disjunction => chain turns disjunction? conjunction
  | .conjunction => conjunction
  | .equality => equality
  | .comparison => comparison
  | .additive => additive
  | .multiplicative => multiplicative
  | .operand | .primary => operand

/-- Below the operands, a level is a chain over the next one. -/
theorem atLevel_eq_chain (turns : Nat) (operand : Parse Expr) {level : Level}
    (loose : level.rank < Level.operand.rank) :
    atLevel turns operand level =
      chain turns (operatorAt level) (atLevel turns operand level.next) := by
  cases level with
  | operand | primary => exact absurd loose (by decide)
  | _ => rfl

/-- The parser of operands one level further in, if there is one. -/
def innerUnary (turns : Nat) : Nat → Option (Parse Expr)
  | 0 => none
  | room + 1 => some (unary turns room)

theorem unary_eq (turns room : Nat) :
    unary turns room = unaryOver turns (innerUnary turns room) := by
  cases room <;> rfl

/-- The parser of statements one level further in, if there is one. -/
def innerStatement (turns : Nat) : Nat → Option (Parse Stmt)
  | 0 => none
  | room + 1 => some (statement turns room)

theorem statement_eq (turns room : Nat) :
    statement turns room =
      statementOver turns (expression turns room)
        (blockOver turns (innerStatement turns room)) := by
  cases room <;> rfl

theorem block_eq (turns room : Nat) :
    block turns room = blockOver turns (innerStatement turns room) := by
  cases room <;> rfl

end Parse
end Script
end StagedScript
