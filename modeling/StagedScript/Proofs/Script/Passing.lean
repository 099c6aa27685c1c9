import StagedScript.Proofs.Script.ExpressionCompleteness

/-!
# What parsers pass

A parser passes some of the tokens and either yields a value or fails; a failure reports the next
token, which is the first one that was not passed. `Passes allowed least p` says so of a parser,
with the kind of tokens that it may pass and the number of tokens that it passes at least before it
yields. There is one rule for each way to build a parser.

**Results.** An expression passes tokens of expressions only (`passes_expression`). No parser passes
the end of input, and an item that is yielded has passed a token (`passes_item`).
-/

namespace StagedScript
namespace Script

theorem inExpression_binary (op : BinaryOp) : InExpression op.token := by
  cases op <;> simp [BinaryOp.token, InExpression]

theorem inExpression_unary (op : UnaryOp) : InExpression op.token := by
  cases op <;> simp [UnaryOp.token, InExpression]

theorem InExpression.ne_endOfInput {t : Token} (inside : InExpression t) : t ≠ .endOfInput := by
  rintro rfl
  exact inside

/-- The place of the next token. -/
def headPosition : List Located → Position
  | [] => .first
  | l :: _ => l.position

/-- The problem of a next token that is not what was expected. -/
def unexpectedAt (expected : String) (ts : List Located) : Problem :=
  .error (headPosition ts)
    ("expected " ++ expected ++ " but found " ++ (headToken ts).description)

namespace Parse

variable {α β : Type} {ts rest mid : List Located} {t : Token}

/-- A parser fails with a problem and leaves the tokens that it has not passed. -/
def Fails (p : Parse α) (ts : List Located) (problem : Problem) (rest : List Located) : Prop :=
  p.run.run ts = (.error problem, rest)

theorem fails_unexpected (expected : String) :
    Fails (unexpected expected : Parse α) ts (unexpectedAt expected ts) ts := by
  cases ts <;> rfl

theorem fails_tooDeep (what : String) :
    Fails (tooDeep what : Parse α) ts (.error (headPosition ts) (what ++ " nested too deeply"))
      ts := by
  cases ts <;> rfl

/-! What the first of two parsers does decides where the second one starts. -/

theorem run_bind_of_yields {p : Parse α} {f : α → Parse β} {a : α} (read : Yields p ts a mid) :
    (p >>= f).run.run ts = (f a).run.run mid := by
  unfold Yields at read
  rw [ExceptT.run_bind, StateT.run_bind, read]
  rfl

theorem fails_bind {p : Parse α} {f : α → Parse β} {problem : Problem}
    (failed : Fails p ts problem rest) : Fails (p >>= f) ts problem rest := by
  unfold Fails at failed ⊢
  rw [ExceptT.run_bind, StateT.run_bind, failed]
  rfl

theorem yields_peek : Yields peek ts (headToken ts) ts := by
  cases ts <;> rfl

theorem yields_advance {l : Located} (inside : l.token ≠ .endOfInput) :
    Yields advance (l :: ts) () ts := by
  change (if l.token = .endOfInput then pure () else set ts : Parse Unit).run.run (l :: ts) = _
  rw [if_neg inside]
  rfl

theorem yields_eat {l : Located} (inside : l.token ≠ .endOfInput) :
    Yields (eat l.token) (l :: ts) true ts := by
  unfold eat
  refine yields_peek_bind.2 ?_
  rw [headToken_cons, if_pos rfl]
  exact (yields_advance_bind inside).2 (yields_pure.2 ⟨rfl, rfl⟩)

theorem yields_eat_of_ne (other : headToken ts ≠ t) : Yields (eat t) ts false ts := by
  unfold eat
  refine yields_peek_bind.2 ?_
  rw [if_neg other]
  exact yields_pure.2 ⟨rfl, rfl⟩

theorem yields_expect {l : Located} (inside : l.token ≠ .endOfInput) (expected : String) :
    Yields (expect l.token expected) (l :: ts) () ts := by
  unfold expect
  refine yields_bind.2 ⟨true, ts, yields_eat inside, ?_⟩
  rw [if_pos rfl]
  exact yields_pure.2 ⟨rfl, rfl⟩

theorem fails_expect (other : headToken ts ≠ t) (expected : String) :
    Fails (expect t expected) ts (unexpectedAt expected ts) ts := by
  unfold expect Fails
  rw [run_bind_of_yields (yields_eat_of_ne other), if_neg (by simp)]
  exact fails_unexpected expected

theorem yields_assignAhead :
    Yields assignAhead ts (decide (secondToken ts = .symbol .assign)) ts := by
  rcases ts with _ | ⟨first, _ | ⟨second, ts⟩⟩ <;> rfl

/-- From the tokens, a parser passes some, all of them allowed; it yields having passed at least so
many, or it fails at the next one. -/
def PassesOn (allowed : Token → Prop) (least : Nat) (p : Parse α) (ts : List Located) : Prop :=
  ∃ word rest, ts = word ++ rest ∧ (∀ l ∈ word, allowed l.token) ∧
    ((∃ a, Yields p ts a rest) ∧ least ≤ word.length ∨
      ∃ problem, Fails p ts problem rest ∧ problem.position = headPosition rest)

/-- A parser passes allowed tokens, wherever it starts. -/
def Passes (allowed : Token → Prop) (least : Nat) (p : Parse α) : Prop :=
  ∀ ts, PassesOn allowed least p ts

/-- The same, where the next token is known. -/
def PassesAt (t : Token) (allowed : Token → Prop) (least : Nat) (p : Parse α) : Prop :=
  ∀ ts, headToken ts = t → PassesOn allowed least p ts

section Rules

variable {allowed more : Token → Prop} {least : Nat} {p : Parse α} {f : α → Parse β}

theorem PassesOn.mono (passes : PassesOn allowed least p ts) {fewer : Nat} (le : fewer ≤ least)
    (weaken : ∀ t, allowed t → more t) : PassesOn more fewer p ts := by
  obtain ⟨word, rest, split, inside, ends⟩ := passes
  refine ⟨word, rest, split, fun l member => weaken _ (inside l member), ?_⟩
  exact ends.imp (fun ⟨read, enough⟩ => ⟨read, Nat.le_trans le enough⟩) id

theorem Passes.imp (passes : Passes allowed least p) (weaken : ∀ t, allowed t → more t) :
    Passes more least p :=
  fun ts => (passes ts).mono (Nat.le_refl _) weaken

/-- Whatever is passed, nothing at least is. -/
theorem Passes.weaken (passes : Passes allowed least p) : Passes allowed 0 p :=
  fun ts => (passes ts).mono (Nat.zero_le least) fun _ => id

theorem Passes.at (passes : Passes allowed least p) : PassesAt t allowed least p :=
  fun ts _ => passes ts

theorem PassesAt.weaken (passes : PassesAt t allowed least p) : PassesAt t allowed 0 p :=
  fun ts head => (passes ts head).mono (Nat.zero_le least) fun _ => id

/-- A parser that fails at the next token passes none. -/
theorem passes_of_fails (problem : List Located → Problem)
    (fails : ∀ ts, Fails p ts (problem ts) ts)
    (place : ∀ ts, (problem ts).position = headPosition ts) : Passes allowed least p :=
  fun ts => ⟨[], ts, rfl, by simp, .inr ⟨problem ts, fails ts, place ts⟩⟩

theorem passes_unexpected {expected : String} :
    Passes allowed least (unexpected expected : Parse α) :=
  passes_of_fails _ (fun _ => fails_unexpected expected) fun _ => rfl

theorem passes_tooDeep {what : String} : Passes allowed least (tooDeep what : Parse α) :=
  passes_of_fails _ (fun _ => fails_tooDeep what) fun _ => rfl

theorem passes_pure (a : α) : Passes allowed 0 (pure a) :=
  fun ts => ⟨[], ts, rfl, by simp, .inl ⟨⟨a, yields_pure.2 ⟨rfl, rfl⟩⟩, Nat.le_refl 0⟩⟩

/-- The tokens that are passed one after the other are passed together. -/
theorem PassesOn.bind_add {first second : Nat} (passes : PassesOn allowed first p ts)
    (next : ∀ a, Passes allowed second (f a)) :
    PassesOn allowed (first + second) (p >>= f) ts := by
  obtain ⟨word, mid, rfl, inside, ⟨⟨a, read⟩, enough⟩ | ⟨problem, failed, place⟩⟩ := passes
  · obtain ⟨others, rest, rfl, insideToo, ends⟩ := next a mid
    refine ⟨word ++ others, rest, by simp, ?_, ?_⟩
    · exact fun l member => (List.mem_append.1 member).elim (inside l) (insideToo l)
    · refine ends.imp ?_ ?_
      · rintro ⟨⟨b, readNext⟩, enoughToo⟩
        refine ⟨⟨b, yields_bind.2 ⟨a, _, read, readNext⟩⟩, ?_⟩
        rw [List.length_append]
        omega
      · rintro ⟨problem, failed, place⟩
        exact ⟨problem, (run_bind_of_yields read).trans failed, place⟩
  · exact ⟨word, mid, rfl, inside, .inr ⟨problem, fails_bind failed, place⟩⟩

/-- The first parser passes enough. -/
theorem PassesOn.bind_left (passes : PassesOn allowed least p ts)
    (next : ∀ a, Passes allowed 0 (f a)) : PassesOn allowed least (p >>= f) ts :=
  passes.bind_add next

theorem Passes.bind_left (passes : Passes allowed least p) (next : ∀ a, Passes allowed 0 (f a)) :
    Passes allowed least (p >>= f) :=
  fun ts => (passes ts).bind_left next

/-- The second parser passes enough. -/
theorem Passes.bind (passes : Passes allowed 0 p) (next : ∀ a, Passes allowed least (f a)) :
    Passes allowed least (p >>= f) :=
  fun ts => ((passes ts).bind_add next).mono (Nat.le_add_left ..) fun _ => id

theorem Passes.map (passes : Passes allowed least p) (g : α → β) :
    Passes allowed least (g <$> p) := by
  rw [map_eq_pure_bind]
  exact passes.bind_left fun a => passes_pure (g a)

theorem passes_peek_bind {f : Token → Parse β} (next : ∀ t, PassesAt t allowed least (f t)) :
    Passes allowed least (peek >>= f) := by
  intro ts
  obtain ⟨word, rest, split, inside, ends⟩ := next _ ts rfl
  have go : (peek >>= f).run.run ts = (f (headToken ts)).run.run ts :=
    run_bind_of_yields yields_peek
  refine ⟨word, rest, split, inside, ends.imp ?_ ?_⟩
  · exact fun ⟨⟨a, read⟩, enough⟩ => ⟨⟨a, go.trans read⟩, enough⟩
  · exact fun ⟨problem, failed, place⟩ => ⟨problem, go.trans failed, place⟩

/-- One more token is passed in front of others. -/
theorem passesOn_advance_bind {l : Located} (inside : l.token ≠ .endOfInput)
    (allows : allowed l.token) {f : Unit → Parse β} (next : PassesOn allowed least (f ()) ts) :
    PassesOn allowed (least + 1) (advance >>= f) (l :: ts) := by
  obtain ⟨word, rest, rfl, all, ends⟩ := next
  have go : (advance >>= f).run.run (l :: (word ++ rest)) = (f ()).run.run (word ++ rest) :=
    run_bind_of_yields (yields_advance inside)
  refine ⟨l :: word, rest, rfl, List.forall_mem_cons.2 ⟨allows, all⟩, ends.imp ?_ ?_⟩
  · exact fun ⟨⟨b, read⟩, enough⟩ => ⟨⟨b, go.trans read⟩, Nat.succ_le_succ enough⟩
  · exact fun ⟨problem, failed, place⟩ => ⟨problem, go.trans failed, place⟩

theorem passesAt_advance_bind (inside : t ≠ .endOfInput) (allows : allowed t)
    {f : Unit → Parse β} (next : Passes allowed 0 (f ())) :
    PassesAt t allowed 1 (advance >>= f) := by
  intro ts head
  obtain ⟨l, tail, rfl, rfl⟩ := exists_cons_of_headToken head inside
  exact passesOn_advance_bind inside allows (next tail)

theorem passes_eat (inside : t ≠ .endOfInput) (allows : allowed t) : Passes allowed 0 (eat t) := by
  intro ts
  by_cases found : headToken ts = t
  · obtain ⟨l, tail, rfl, rfl⟩ := exists_cons_of_headToken found inside
    exact ⟨[l], tail, rfl, by simpa using allows, .inl ⟨⟨true, yields_eat inside⟩, Nat.zero_le _⟩⟩
  · exact ⟨[], ts, rfl, by simp, .inl ⟨⟨false, yields_eat_of_ne found⟩, Nat.le_refl 0⟩⟩

theorem passes_expect (inside : t ≠ .endOfInput) (allows : allowed t) {expected : String} :
    Passes allowed 1 (expect t expected) := by
  intro ts
  by_cases found : headToken ts = t
  · obtain ⟨l, tail, rfl, rfl⟩ := exists_cons_of_headToken found inside
    exact ⟨[l], tail, rfl, by simpa using allows,
      .inl ⟨⟨(), yields_expect inside expected⟩, Nat.le_refl 1⟩⟩
  · exact ⟨[], ts, rfl, by simp, .inr ⟨_, fails_expect found expected, rfl⟩⟩

theorem passes_name (allows : ∀ s, allowed (.name s)) {expected : String} :
    Passes allowed 1 (name expected) := by
  unfold name
  refine passes_peek_bind fun t => ?_
  split
  next s => exact passesAt_advance_bind (by simp) (allows s) (passes_pure s)
  next => exact passes_unexpected.at

theorem passes_nested {inner : Option (Parse α)} {what : String}
    (passes : ∀ p, inner = some p → Passes allowed least p) :
    Passes allowed least (nested what inner) := by
  cases inner with
  | none => exact passes_tooDeep
  | some p => exact passes p rfl

theorem passes_nested_map {inner : Option (Parse α)} {what : String}
    {build : Parse α → Parse β} (passes : ∀ p, inner = some p → Passes allowed least (build p)) :
    Passes allowed least (nested what (inner.map build)) := by
  refine passes_nested fun q isInner => ?_
  obtain ⟨p, isSome, rfl⟩ := Option.map_eq_some_iff.1 isInner
  exact passes p isSome

/-- Behind the first token, a sign of assignment is looked for; it is passed if it is there. -/
theorem passesAt_assignAhead (inside : t ≠ .endOfInput) (allows : allowed t)
    (allowsSign : allowed (.symbol .assign)) {yes no : Parse β} (found : Passes allowed least yes)
    (missing : Passes allowed least no) :
    PassesAt t allowed least (do if ← assignAhead then advance; advance; yes else no) := by
  intro ts head
  unfold PassesOn Fails Yields
  rw [run_bind_of_yields yields_assignAhead]
  split
  next ahead =>
    obtain ⟨l, tail, rfl, rfl⟩ := exists_cons_of_headToken head inside
    have second : headToken tail = .symbol .assign := by
      rw [← secondToken_cons l]
      exact of_decide_eq_true ahead
    obtain ⟨sign, tail, rfl, isSign⟩ := exists_cons_of_headToken second (by simp)
    have behind : PassesOn allowed (least + 1) (do advance; yes) (sign :: tail) :=
      passesOn_advance_bind (by simp [isSign]) (isSign.symm ▸ allowsSign) (found tail)
    have both := passesOn_advance_bind (f := fun _ => do advance; yes) inside allows behind
    exact both.mono (Nat.le_add_right least 2) fun _ => id
  next => exact missing ts

theorem passes_checkHeight (e : Expr) : Passes allowed 0 (checkHeight e) := by
  unfold checkHeight
  split
  · exact passes_tooDeep
  · exact passes_pure e

end Rules

section Expressions

variable {turns : Nat}

theorem passes_commaList {item : Parse α} (passes : Passes InExpression 0 item) :
    ∀ turns, Passes InExpression 0 (commaList item turns) := by
  intro turns
  induction turns with
  | zero => exact passes_pure []
  | succ turns ih =>
      unfold commaList
      refine passes.bind fun first => (passes_eat (by simp) (by simp [InExpression])).bind ?_
      intro comma
      split
      · exact ih.bind fun others => passes_pure (first :: others)
      · exact passes_pure [first]

theorem passes_parenList {item : Parse α} (passes : Passes InExpression 0 item) :
    Passes InExpression 1 (parenList turns item) := by
  have closing : ∀ items : List α, Passes InExpression 1
      (do expect (.symbol .rightParen) "')'"; return items) := fun items =>
    (passes_expect (by simp) (by simp [InExpression])).bind_left fun _ => passes_pure items
  unfold parenList
  refine passes_peek_bind fun t => Passes.at ?_
  split
  · exact (passes_pure []).bind closing
  · exact (passes_commaList passes turns).bind closing

theorem passes_chainFrom (level : Level) {operand : Parse Expr}
    (passes : Passes InExpression 0 operand) :
    ∀ turns left, Passes InExpression 0 (chainFrom (operatorAt level) operand turns left) := by
  intro turns
  induction turns with
  | zero => exact fun left => passes_pure left
  | succ turns ih =>
      intro left
      unfold chainFrom
      refine passes_peek_bind fun t => ?_
      split
      next => exact (passes_pure left).at
      next op found =>
        obtain ⟨rfl, rfl⟩ := operatorAt_eq_some_iff.1 found
        refine (passesAt_advance_bind op.token_ne_endOfInput (inExpression_binary op) ?_).weaken
        exact passes.bind fun right => (passes_checkHeight _).bind ih

theorem passes_chain (turns : Nat) (level : Level) {operand : Parse Expr}
    (passes : Passes InExpression 0 operand) :
    Passes InExpression 0 (chain turns (operatorAt level) operand) :=
  passes.bind (passes_chainFrom level passes turns)

theorem passes_levels {operand : Parse Expr} (passes : Passes InExpression 0 operand) :
    Passes InExpression 0 (levels turns operand) := by
  have sums := passes_chain turns .additive (passes_chain turns .multiplicative passes)
  have comparisons := passes_chain turns .equality (passes_chain turns .comparison sums)
  exact passes_chain turns .disjunction (passes_chain turns .conjunction comparisons)

theorem passesAt_leaf {t : Token} (inside : InExpression t) (e : Expr) :
    PassesAt t InExpression 0 (do advance; return e) :=
  (passesAt_advance_bind inside.ne_endOfInput inside (passes_pure e)).weaken

theorem passes_primaryOver {inner : Option (Parse Expr)}
    (passes : ∀ p, inner = some p → Passes InExpression 0 p) :
    Passes InExpression 0 (primaryOver turns inner) := by
  unfold primaryOver
  refine passes_peek_bind fun t => ?_
  cases t with
  | integer value => exact passesAt_leaf (by simp [InExpression]) (.integer value)
  | real value => exact passesAt_leaf (by simp [InExpression]) (.real value)
  | text value => exact passesAt_leaf (by simp [InExpression]) (.text value)
  | keyword word =>
      cases word with
      | true_ => exact passesAt_leaf (by simp [InExpression]) (.boolean true)
      | false_ => exact passesAt_leaf (by simp [InExpression]) (.boolean false)
      | null => exact passesAt_leaf (by simp [InExpression]) .null
      | _ => exact passes_unexpected.at
  | symbol mark =>
      cases mark with
      | leftParen =>
          refine (passesAt_advance_bind (by simp) (by simp [InExpression]) ?_).weaken
          refine (passes_nested_map fun p isInner => passes_levels (passes p isInner)).bind ?_
          refine fun e => (passes_expect (by simp) (by simp [InExpression])).weaken.bind ?_
          exact fun _ => passes_pure e
      | _ => exact passes_unexpected.at
  | name name =>
      refine (passesAt_advance_bind (by simp) trivial ?_).weaken
      refine (passes_eat (by simp) (by simp [InExpression])).bind fun opens => ?_
      split
      · refine (passes_nested_map fun p isInner => ?_).bind fun arguments => passes_checkHeight _
        exact (passes_parenList (passes_levels (passes p isInner))).weaken
      · exact passes_pure _
  | endOfInput => exact passes_unexpected.at

theorem passes_unaryOver {inner : Option (Parse Expr)}
    (passes : ∀ p, inner = some p → Passes InExpression 0 p) :
    Passes InExpression 0 (unaryOver turns inner) := by
  unfold unaryOver
  refine passes_peek_bind fun t => ?_
  split
  next op found =>
    obtain rfl := prefixOp?_eq_some_iff.1 found
    refine (passesAt_advance_bind op.token_ne_endOfInput (inExpression_unary op) ?_).weaken
    exact (passes_nested passes).bind fun operand => passes_checkHeight _
  next => exact (passes_primaryOver passes).at

theorem passes_unary (turns : Nat) : ∀ room, Passes InExpression 0 (unary turns room)
  | 0 => passes_unaryOver (by simp)
  | room + 1 => passes_unaryOver (by rintro _ ⟨⟩; exact passes_unary turns room)

/-- An expression passes no token that structures statements, whether it is yielded or not. -/
theorem passes_expression (turns room : Nat) :
    Passes InExpression 0 (expression turns room) :=
  passes_levels (passes_unary turns room)

end Expressions

section Statements

variable {turns : Nat} {expression : Parse Expr} {block : Parse (List Stmt)}

/-- Any token but the end of input. -/
def NotEnd (t : Token) : Prop :=
  t ≠ .endOfInput

theorem Passes.notEnd {least : Nat} {p : Parse α} (passes : Passes InExpression least p) :
    Passes NotEnd least p :=
  passes.imp fun _ => InExpression.ne_endOfInput

theorem passesAt_first (inside : t ≠ .endOfInput) {f : Unit → Parse β}
    (next : Passes NotEnd 0 (f ())) : PassesAt t NotEnd 1 (advance >>= f) :=
  passesAt_advance_bind inside inside next

theorem passes_statementsToBrace {statement : Parse Stmt} (passes : Passes NotEnd 0 statement) :
    ∀ turns, Passes NotEnd 0 (statementsToBrace statement turns) := by
  intro turns
  induction turns with
  | zero => exact passes_pure []
  | succ turns ih =>
      unfold statementsToBrace
      refine passes_peek_bind fun t => ?_
      split
      next => exact (passesAt_first (by simp) (passes_pure [])).weaken
      next => exact passes_unexpected.at
      next =>
        exact (passes.bind fun first => ih.bind fun others => passes_pure (first :: others)).at

theorem passes_blockOver {inner : Option (Parse Stmt)}
    (passes : ∀ p, inner = some p → Passes NotEnd 0 p) :
    Passes NotEnd 1 (blockOver turns inner) := by
  unfold blockOver
  refine (passes_expect (by simp) (by simp [NotEnd])).bind_left fun _ => ?_
  exact passes_nested_map fun p isInner => passes_statementsToBrace (passes p isInner) turns

theorem passes_test (passes : Passes InExpression 0 expression) :
    Passes InExpression 1 (test expression) := by
  unfold test
  refine (passes_expect (by simp) (by simp [InExpression])).bind_left fun _ => ?_
  refine passes.bind fun e => ?_
  refine (passes_expect (by simp) (by simp [InExpression])).weaken.bind ?_
  exact fun _ => passes_pure e

/-- At its keyword, a condition passes a token. The induction is on the branches that are conditions
themselves. -/
theorem passesAt_conditional (passes : Passes InExpression 0 expression)
    (passesBlock : Passes NotEnd 1 block) :
    ∀ count, PassesAt (.keyword .if_) NotEnd 1 (conditional expression block count) := by
  intro count
  induction count with
  | zero => exact passes_unexpected.at
  | succ count ih =>
      have someBlock : Passes NotEnd 0 block := passesBlock.weaken
      unfold conditional
      refine passesAt_first (by simp) ?_
      refine (passes_test passes).notEnd.weaken.bind fun condition => ?_
      refine someBlock.bind fun yes => ?_
      refine (passes_eat (by simp) (by simp [NotEnd])).bind fun goesOn => ?_
      split
      · refine passes_peek_bind fun t => ?_
        split
        next again =>
          subst again
          intro ts head
          exact ((ih ts head).bind_left fun s => passes_pure (Stmt.cond condition yes [s])).mono
            (Nat.zero_le 1) fun _ => id
        next => exact (someBlock.bind fun no => passes_pure (Stmt.cond condition yes no)).at
      · exact passes_pure _

theorem passes_semicolon (s : Stmt) : Passes NotEnd 1 (do semicolon; return s) :=
  (passes_expect (by simp) (by simp [NotEnd])).bind_left fun _ => passes_pure s

/-- An expression and its semicolon. -/
theorem passes_terminated (passes : Passes InExpression 0 expression) (f : Expr → Stmt) :
    Passes NotEnd 1 (do let e ← expression; semicolon; return f e) :=
  passes.notEnd.bind fun e => passes_semicolon (f e)

theorem passes_statementOver (passes : Passes InExpression 0 expression)
    (passesBlock : Passes NotEnd 1 block) :
    Passes NotEnd 1 (statementOver turns expression block) := by
  have terminated := passes_terminated passes
  unfold statementOver
  refine passes_peek_bind fun t => ?_
  split
  case h_1 =>
    refine passesAt_first (by simp) ?_
    refine (passes_name (by simp [NotEnd])).weaken.bind fun x => ?_
    refine (passes_eat (by simp) (by simp [NotEnd])).bind fun assigns => ?_
    have ending := fun value => (passes_semicolon (.var x value)).weaken
    dsimp only
    split
    · exact (passes.notEnd.map some).bind ending
    · exact (passes_pure none).bind ending
  case h_2 =>
    refine passesAt_first (by simp) (passes_peek_bind fun t => Passes.at ?_)
    have ending := fun value => (passes_semicolon (.ret value)).weaken
    dsimp only
    split
    · exact (passes_pure none).bind ending
    · exact (passes.notEnd.map some).bind ending
  case h_3 => exact passesAt_conditional passes passesBlock turns
  case h_4 =>
    refine passesAt_first (by simp) ?_
    refine (passes_test passes).notEnd.weaken.bind fun condition => ?_
    exact passesBlock.weaken.bind fun body => passes_pure _
  case h_5 => exact passes_unexpected.at
  case h_6 x =>
    exact passesAt_assignAhead (by simp) (by simp [NotEnd]) (by simp [NotEnd])
      (terminated fun e => .assign x e) (terminated .expr)
  case h_7 => exact (terminated .expr).at

end Statements

theorem passes_statement (turns : Nat) : ∀ room, Passes NotEnd 1 (statement turns room)
  | 0 => passes_statementOver (passes_expression turns 0) (passes_blockOver (by simp))
  | room + 1 =>
      passes_statementOver (passes_expression turns (room + 1)) (passes_blockOver (by
        rintro _ ⟨⟩
        exact (passes_statement turns room).weaken))

theorem passes_block (turns : Nat) : ∀ room, Passes NotEnd 1 (block turns room)
  | 0 => passes_blockOver (by simp)
  | room + 1 => passes_blockOver (by
      rintro _ ⟨⟩
      exact (passes_statement turns room).weaken)

theorem passes_operation (turns : Nat) : Passes NotEnd 1 (operation turns) := by
  have names : ∀ expected, Passes InExpression 0 (name expected) := fun expected =>
    (passes_name fun _ => trivial).weaken
  unfold operation
  refine (passes_expect (by simp) (by simp [NotEnd])).bind_left fun _ => ?_
  refine (names _).notEnd.bind fun opName => ?_
  refine (passes_expect (by simp) (by simp [NotEnd])).weaken.bind fun _ => ?_
  refine (passes_parenList (names _)).notEnd.weaken.bind fun params => ?_
  exact (passes_block turns maxNesting).weaken.bind fun body => passes_pure _

/-- An item passes a token at least, and never the end of input. -/
theorem passes_item (turns : Nat) : Passes NotEnd 1 (item turns) := by
  unfold item
  refine passes_peek_bind fun t => Passes.at ?_
  split
  · exact (passes_operation turns).bind_left fun op => passes_pure _
  · exact (passes_statement turns maxNesting).bind_left fun s => passes_pure _

end Parse
end Script
end StagedScript
