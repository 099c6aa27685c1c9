import StagedScript.Proofs.Script.Passing

/-!
# Enough turns

The loops of the parsers are given a number of turns. Each turn of a loop passes a token, and no
parser passes the end of input, so as many turns as there are tokens are never used up: with more of
them, a parser does the same. `Agree bound p q` says so of two parsers on at most so many tokens,
and there is one rule for each way to build a parser.

**Results.** An item does the same with any number of turns from the number of tokens on
(`agree_item`).
-/

namespace StagedScript
namespace Script

/-- Tokens of which the last one is the end of input. -/
def Ended (ts : List Located) : Prop :=
  ∃ body last, ts = body ++ [last] ∧ last.token = .endOfInput

theorem Ended.ne_nil {ts : List Located} (ended : Ended ts) : ts ≠ [] := by
  obtain ⟨body, last, rfl, -⟩ := ended
  simp

/-- Behind tokens that are not the end of input, the end of input is still to come. -/
theorem Ended.of_append {word rest : List Located} (ended : Ended (word ++ rest))
    (inside : ∀ l ∈ word, l.token ≠ .endOfInput) : Ended rest := by
  obtain ⟨body, last, split, atEnd⟩ := ended
  rcases List.eq_nil_or_concat rest with rfl | ⟨front, l, rfl⟩
  · rw [List.append_nil] at split
    exact absurd atEnd (inside last (by simp [split]))
  · rw [List.concat_eq_append, ← List.append_assoc] at split
    obtain ⟨-, same⟩ := List.append_inj' split rfl
    obtain rfl := List.singleton_inj.1 same
    exact ⟨front, l, List.concat_eq_append, atEnd⟩

theorem Ended.tail {l : Located} {ts : List Located} (ended : Ended (l :: ts))
    (inside : l.token ≠ .endOfInput) : Ended ts :=
  Ended.of_append (List.singleton_append ▸ ended) (by simpa using inside)

namespace Parse

variable {α β : Type}

/-- Two parsers do the same on at most so many tokens. -/
def Agree (bound : Nat) (p q : Parse α) : Prop :=
  ∀ ts, Ended ts → ts.length ≤ bound → p.run.run ts = q.run.run ts

/-- The same, where the next token is known. -/
def AgreeAt (t : Token) (bound : Nat) (p q : Parse α) : Prop :=
  ∀ ts, headToken ts = t → Ended ts → ts.length ≤ bound → p.run.run ts = q.run.run ts

section Rules

variable {t : Token} {bound : Nat} {p q : Parse α} {f g : α → Parse β}

theorem agree_refl (p : Parse α) : Agree bound p p :=
  fun _ _ _ => rfl

theorem Agree.at (same : Agree bound p q) : AgreeAt t bound p q :=
  fun ts _ => same ts

theorem Agree.mono {fewer : Nat} (same : Agree bound p q) (le : fewer ≤ bound) :
    Agree fewer p q :=
  fun ts ended short => same ts ended (Nat.le_trans short le)

/-- There are no tokens without the end of input. -/
theorem agreeAt_zero : AgreeAt t 0 p q :=
  fun _ _ ended short => absurd (List.length_eq_zero_iff.1 (Nat.le_zero.1 short)) ended.ne_nil

theorem agree_zero : Agree 0 p q :=
  fun ts ended short => agreeAt_zero ts rfl ended short

/-- What the first parser passes is out of reach of the second one. -/
theorem AgreeAt.bind_of_passes {least fewer : Nat} (same : AgreeAt t bound p q)
    (passes : PassesAt t NotEnd least p) (le : bound ≤ fewer + least)
    (next : ∀ a, Agree fewer (f a) (g a)) : AgreeAt t bound (p >>= f) (q >>= g) := by
  intro ts head ended short
  have sameRun := same ts head ended short
  obtain ⟨word, rest, rfl, inside, ⟨⟨a, read⟩, enough⟩ | ⟨problem, failed, -⟩⟩ := passes ts head
  · have readToo : Yields q (word ++ rest) a rest := sameRun.symm.trans read
    rw [run_bind_of_yields read, run_bind_of_yields readToo]
    rw [List.length_append] at short
    exact next a rest (ended.of_append inside) (by omega)
  · have failedToo : Fails q (word ++ rest) problem rest := sameRun.symm.trans failed
    exact (fails_bind failed).trans (fails_bind failedToo).symm

theorem Agree.bind_of_passes {least fewer : Nat} (same : Agree bound p q)
    (passes : Passes NotEnd least p) (le : bound ≤ fewer + least)
    (next : ∀ a, Agree fewer (f a) (g a)) : Agree bound (p >>= f) (q >>= g) :=
  fun ts => same.at.bind_of_passes passes.at le next ts rfl

theorem Agree.bind (same : Agree bound p q) (passes : Passes NotEnd 0 p)
    (next : ∀ a, Agree bound (f a) (g a)) : Agree bound (p >>= f) (q >>= g) :=
  same.bind_of_passes passes (Nat.le_refl _) next

/-- Two parsers that do the same hand their values to the same. -/
theorem Agree.bind_same (same : Agree bound p q) (passes : Passes NotEnd 0 p) (f : α → Parse β) :
    Agree bound (p >>= f) (q >>= f) :=
  same.bind passes fun a => agree_refl (f a)

theorem agree_bind_of_passes (passes : Passes NotEnd 0 p) (next : ∀ a, Agree bound (f a) (g a)) :
    Agree bound (p >>= f) (p >>= g) :=
  (agree_refl p).bind passes next

theorem Agree.map (same : Agree bound p q) (passes : Passes NotEnd 0 p) (f : α → β) :
    Agree bound (f <$> p) (f <$> q) := by
  rw [map_eq_pure_bind, map_eq_pure_bind]
  exact same.bind_same passes _

theorem agree_peek_bind {f g : Token → Parse β} (next : ∀ t, AgreeAt t bound (f t) (g t)) :
    Agree bound (peek >>= f) (peek >>= g) := by
  intro ts ended short
  rw [run_bind_of_yields yields_peek, run_bind_of_yields yields_peek]
  exact next _ ts rfl ended short

/-- A token is passed in front of others. -/
theorem agreeAt_advance_bind {more : Nat} (inside : t ≠ .endOfInput) (le : more ≤ bound + 1)
    {f g : Unit → Parse β} (next : Agree bound (f ()) (g ())) :
    AgreeAt t more (advance >>= f) (advance >>= g) := by
  intro ts head ended short
  obtain ⟨l, tail, rfl, rfl⟩ := exists_cons_of_headToken head inside
  rw [run_bind_of_yields (yields_advance inside), run_bind_of_yields (yields_advance inside)]
  rw [List.length_cons] at short
  exact next tail (ended.tail inside) (by omega)

theorem agree_eat_bind (inside : t ≠ .endOfInput) {f g : Bool → Parse β}
    (found : Agree bound (f true) (g true)) (missing : Agree (bound + 1) (f false) (g false)) :
    Agree (bound + 1) (eat t >>= f) (eat t >>= g) := by
  intro ts ended short
  by_cases head : headToken ts = t
  · obtain ⟨l, tail, rfl, rfl⟩ := exists_cons_of_headToken head inside
    rw [run_bind_of_yields (yields_eat inside), run_bind_of_yields (yields_eat inside)]
    exact found tail (ended.tail inside)
      (Nat.le_of_succ_le_succ short)
  · rw [run_bind_of_yields (yields_eat_of_ne head), run_bind_of_yields (yields_eat_of_ne head)]
    exact missing ts ended short

/-- Behind the first token, a sign of assignment is looked for; it is passed if it is there. -/
theorem agreeAt_assignAhead (inside : t ≠ .endOfInput) {yes yes' no no' : Parse β}
    (found : Agree bound yes yes') (missing : Agree bound no no') :
    AgreeAt t bound (do if ← assignAhead then advance; advance; yes else no)
      (do if ← assignAhead then advance; advance; yes' else no') := by
  intro ts head ended short
  rw [run_bind_of_yields yields_assignAhead, run_bind_of_yields yields_assignAhead]
  split
  next ahead =>
    obtain ⟨l, tail, rfl, rfl⟩ := exists_cons_of_headToken head inside
    have second : headToken tail = .symbol .assign := by
      rw [← secondToken_cons l]
      exact of_decide_eq_true ahead
    have behind : AgreeAt (.symbol .assign) bound (do advance; yes) (do advance; yes') :=
      agreeAt_advance_bind (by simp) (Nat.le_succ bound) found
    rw [run_bind_of_yields (yields_advance inside), run_bind_of_yields (yields_advance inside)]
    exact behind tail second (ended.tail inside) (length_le_of_cons short)
  next => exact missing ts ended short

end Rules

section Expressions

variable {bound turns turns' : Nat}

theorem agree_commaList {item item' : Parse α} (passes : Passes InExpression 0 item)
    (same : Agree bound item item') (le : bound ≤ turns) (le' : bound ≤ turns') :
    Agree bound (commaList item turns) (commaList item' turns') := by
  induction bound generalizing turns turns' with
  | zero => exact agree_zero
  | succ bound ih =>
      cases turns with
      | zero => contradiction
      | succ turns =>
      cases turns' with
      | zero => contradiction
      | succ turns' =>
      have others := ih (same.mono (Nat.le_succ bound)) (Nat.le_of_succ_le_succ le)
        (Nat.le_of_succ_le_succ le')
      refine same.bind passes.notEnd fun first => agree_eat_bind (by simp) ?_ (agree_refl _)
      exact others.bind_same (passes_commaList passes turns).notEnd _

theorem agree_parenList {item item' : Parse α} (passes : Passes InExpression 0 item)
    (same : Agree bound item item') (le : bound ≤ turns) (le' : bound ≤ turns') :
    Agree bound (parenList turns item) (parenList turns' item') := by
  unfold parenList
  refine agree_peek_bind fun t => Agree.at ?_
  dsimp only
  split
  · exact agree_refl _
  · exact (agree_commaList passes same le le').bind_same (passes_commaList passes turns).notEnd _

theorem agree_chainFrom (level : Level) {operand operand' : Parse Expr}
    (passes : Passes InExpression 0 operand) (same : Agree bound operand operand')
    (le : bound ≤ turns) (le' : bound ≤ turns') (left : Expr) :
    Agree bound (chainFrom (operatorAt level) operand turns left)
      (chainFrom (operatorAt level) operand' turns' left) := by
  induction bound generalizing turns turns' left with
  | zero => exact agree_zero
  | succ bound ih =>
      cases turns with
      | zero => contradiction
      | succ turns =>
      cases turns' with
      | zero => contradiction
      | succ turns' =>
      have further := ih (same.mono (Nat.le_succ bound)) (Nat.le_of_succ_le_succ le)
        (Nat.le_of_succ_le_succ le')
      unfold chainFrom
      refine agree_peek_bind fun t => ?_
      split
      next => exact (agree_refl _).at
      next op found =>
        obtain ⟨rfl, rfl⟩ := operatorAt_eq_some_iff.1 found
        refine agreeAt_advance_bind op.token_ne_endOfInput (Nat.le_refl _) ?_
        refine (same.mono (Nat.le_succ bound)).bind passes.notEnd fun right => ?_
        exact agree_bind_of_passes (passes_checkHeight _) further

theorem agree_levels {operand operand' : Parse Expr} (passes : Passes InExpression 0 operand)
    (same : Agree bound operand operand') (le : bound ≤ turns) (le' : bound ≤ turns') :
    Agree bound (levels turns operand) (levels turns' operand') := by
  have chains : ∀ (level : Level) {next next' : Parse Expr},
      Passes InExpression 0 next ∧ Agree bound next next' →
      Passes InExpression 0 (chain turns (operatorAt level) next) ∧
        Agree bound (chain turns (operatorAt level) next)
          (chain turns' (operatorAt level) next') :=
    fun level _ _ ⟨tighter, sameTighter⟩ =>
      ⟨passes_chain turns level tighter, sameTighter.bind tighter.notEnd
        (agree_chainFrom level tighter sameTighter le le')⟩
  have comparisons := chains .comparison (chains .additive (chains .multiplicative ⟨passes, same⟩))
  exact (chains .disjunction (chains .conjunction (chains .equality comparisons))).2

/-- The parsers one nesting level further in do the same, if there are any. -/
def AgreeInside (bound : Nat) (inner inner' : Option (Parse Expr)) : Prop :=
  Option.Rel (fun p q => Passes InExpression 0 p ∧ Agree bound p q) inner inner'

theorem AgreeInside.nested {inner inner' : Option (Parse Expr)} {what : String}
    {build build' : Parse Expr → Parse β} (same : AgreeInside bound inner inner')
    (agree : ∀ {p q}, Passes InExpression 0 p → Agree bound p q →
      Agree bound (build p) (build' q)) :
    Agree bound (nested what (inner.map build)) (nested what (inner'.map build')) := by
  cases same with
  | none => exact agree_refl _
  | some each => exact agree each.1 each.2

theorem AgreeInside.passes {inner inner' : Option (Parse Expr)}
    (same : AgreeInside bound inner inner') : ∀ p, inner = some p → Passes InExpression 0 p := by
  cases same with
  | none => simp
  | some each => rintro _ ⟨⟩; exact each.1

theorem agree_primaryOver {inner inner' : Option (Parse Expr)}
    (same : AgreeInside bound inner inner') (le : bound ≤ turns) (le' : bound ≤ turns') :
    Agree bound (primaryOver turns inner) (primaryOver turns' inner') := by
  unfold primaryOver
  refine agree_peek_bind fun t => ?_
  cases t with
  | keyword word => cases word <;> exact (agree_refl _).at
  | symbol mark =>
      cases mark with
      | leftParen =>
          refine agreeAt_advance_bind (by simp) (Nat.le_succ bound) ?_
          refine (same.nested fun passes agree => agree_levels passes agree le le').bind_same ?_ _
          exact (passes_nested_map fun p isInner => passes_levels (same.passes p isInner)).notEnd
      | _ => exact (agree_refl _).at
  | name name =>
      refine agreeAt_advance_bind (by simp) (Nat.le_succ bound) ?_
      refine agree_bind_of_passes (passes_eat (by simp) (by simp [NotEnd])) fun opens => ?_
      split
      · refine (same.nested fun passes agree => ?_).bind_same ?_ _
        · exact agree_parenList (passes_levels passes) (agree_levels passes agree le le') le le'
        · refine (passes_nested_map fun p isInner => ?_).notEnd
          exact (passes_parenList (passes_levels (same.passes p isInner))).weaken
      · exact agree_refl _
  | _ => exact (agree_refl _).at

theorem agree_unaryOver {inner inner' : Option (Parse Expr)}
    (same : AgreeInside bound inner inner') (le : bound ≤ turns) (le' : bound ≤ turns') :
    Agree bound (unaryOver turns inner) (unaryOver turns' inner') := by
  unfold unaryOver
  refine agree_peek_bind fun t => ?_
  split
  next op found =>
    obtain rfl := prefixOp?_eq_some_iff.1 found
    refine agreeAt_advance_bind op.token_ne_endOfInput (Nat.le_succ bound) ?_
    refine Agree.bind_same ?_ (passes_nested same.passes).notEnd _
    rw [← Option.map_id' (x := inner), ← Option.map_id' (x := inner')]
    exact same.nested fun _ => id
  next => exact (agree_primaryOver same le le').at

theorem agree_unary (le : bound ≤ turns) (le' : bound ≤ turns') :
    ∀ room, Agree bound (unary turns room) (unary turns' room)
  | 0 => agree_unaryOver .none le le'
  | room + 1 => agree_unaryOver (.some ⟨passes_unary turns room, agree_unary le le' room⟩) le le'

theorem agree_expression (le : bound ≤ turns) (le' : bound ≤ turns') (room : Nat) :
    Agree bound (expression turns room) (expression turns' room) :=
  agree_levels (passes_unary turns room) (agree_unary le le' room) le le'

end Expressions

section Statements

variable {bound turns turns' : Nat} {expression expression' : Parse Expr}
  {block block' : Parse (List Stmt)}

theorem agree_statementsToBrace {statement statement' : Parse Stmt}
    (passes : Passes NotEnd 1 statement) (same : Agree bound statement statement')
    (le : bound ≤ turns) (le' : bound ≤ turns') :
    Agree bound (statementsToBrace statement turns) (statementsToBrace statement' turns') := by
  induction bound generalizing turns turns' with
  | zero => exact agree_zero
  | succ bound ih =>
      cases turns with
      | zero => contradiction
      | succ turns =>
      cases turns' with
      | zero => contradiction
      | succ turns' =>
      have others := ih (same.mono (Nat.le_succ bound)) (Nat.le_of_succ_le_succ le)
        (Nat.le_of_succ_le_succ le')
      have somePasses := passes.weaken
      unfold statementsToBrace
      refine agree_peek_bind fun t => ?_
      split
      next => exact (agree_refl _).at
      next => exact (agree_refl _).at
      next =>
        refine Agree.at (same.bind_of_passes passes (Nat.le_refl _) fun first => ?_)
        exact others.bind_same (passes_statementsToBrace somePasses turns) _

theorem agree_blockOver {inner inner' : Option (Parse Stmt)}
    (same : Option.Rel (fun p q => Passes NotEnd 1 p ∧ Agree bound p q) inner inner')
    (le : bound ≤ turns) (le' : bound ≤ turns') :
    Agree bound (blockOver turns inner) (blockOver turns' inner') := by
  unfold blockOver
  refine agree_bind_of_passes ?_ fun _ => ?_
  · exact (passes_expect (by simp) (by simp [NotEnd])).weaken
  · cases same with
    | none => exact agree_refl _
    | some each => exact agree_statementsToBrace each.1 each.2 le le'

theorem agree_test (passes : Passes InExpression 0 expression)
    (same : Agree bound expression expression') :
    Agree bound (test expression) (test expression') := by
  unfold test
  refine agree_bind_of_passes ?_ fun _ => same.bind_same passes.notEnd _
  exact (passes_expect (by simp) (by simp [NotEnd])).weaken

/-- The induction is on the number of tokens: a condition in the place of a second branch is behind
the keyword of the first one. -/
theorem agreeAt_conditional (passes : Passes InExpression 0 expression)
    (passesBlock : Passes NotEnd 1 block) (same : Agree bound expression expression')
    (sameBlock : Agree bound block block') (le : bound ≤ turns) (le' : bound ≤ turns') :
    AgreeAt (.keyword .if_) bound (conditional expression block turns)
      (conditional expression' block' turns') := by
  induction bound generalizing turns turns' with
  | zero => exact agreeAt_zero
  | succ bound ih =>
      cases turns with
      | zero => contradiction
      | succ turns =>
      cases turns' with
      | zero => contradiction
      | succ turns' =>
      have same := same.mono (Nat.le_succ bound)
      have sameBlock := sameBlock.mono (Nat.le_succ bound)
      have again := ih same sameBlock (Nat.le_of_succ_le_succ le) (Nat.le_of_succ_le_succ le')
      have someBlock : Passes NotEnd 0 block := passesBlock.weaken
      unfold conditional
      refine agreeAt_advance_bind (by simp) (Nat.le_refl _) ?_
      refine (agree_test passes same).bind (passes_test passes).notEnd.weaken ?_
      intro condition
      refine sameBlock.bind someBlock fun yes => ?_
      refine agree_bind_of_passes (passes_eat (by simp) (by simp [NotEnd])) fun goesOn => ?_
      split
      · refine agree_peek_bind fun t => ?_
        split
        next isIf =>
          subst isIf
          exact again.bind_of_passes (passesAt_conditional passes passesBlock turns).weaken
            (Nat.le_refl _) fun s => agree_refl _
        next => exact (sameBlock.bind_same someBlock _).at
      · exact agree_refl _

theorem agree_statementOver (passes : Passes InExpression 0 expression)
    (passesBlock : Passes NotEnd 1 block) (same : Agree bound expression expression')
    (sameBlock : Agree bound block block') (le : bound ≤ turns) (le' : bound ≤ turns') :
    Agree bound (statementOver turns expression block)
      (statementOver turns' expression' block') := by
  have someBlock : Passes NotEnd 0 block := passesBlock.weaken
  unfold statementOver
  refine agree_peek_bind fun t => ?_
  split
  case h_1 =>
    refine agreeAt_advance_bind (by simp) (Nat.le_succ bound) ?_
    refine agree_bind_of_passes (passes_name (by simp [NotEnd])).weaken fun x => ?_
    refine agree_bind_of_passes (passes_eat (by simp) (by simp [NotEnd])) fun assigns => ?_
    dsimp only
    split
    · exact (same.map passes.notEnd some).bind_same (passes.notEnd.map some) _
    · exact agree_refl _
  case h_2 =>
    refine agreeAt_advance_bind (by simp) (Nat.le_succ bound) ?_
    refine agree_peek_bind fun t => Agree.at ?_
    dsimp only
    split
    · exact agree_refl _
    · exact (same.map passes.notEnd some).bind_same (passes.notEnd.map some) _
  case h_3 => exact agreeAt_conditional passes passesBlock same sameBlock le le'
  case h_4 =>
    refine agreeAt_advance_bind (by simp) (Nat.le_succ bound) ?_
    refine (agree_test passes same).bind (passes_test passes).notEnd.weaken ?_
    exact fun condition => sameBlock.bind_same someBlock _
  case h_5 => exact (agree_refl _).at
  case h_6 x =>
    exact agreeAt_assignAhead (by simp) (same.bind_same passes.notEnd _)
      (same.bind_same passes.notEnd _)
  case h_7 => exact (same.bind_same passes.notEnd _).at

end Statements

theorem agree_statement {bound turns turns' : Nat} (le : bound ≤ turns) (le' : bound ≤ turns') :
    ∀ room, Agree bound (statement turns room) (statement turns' room)
  | 0 =>
      agree_statementOver (passes_expression turns 0) (passes_blockOver (by simp))
        (agree_expression le le' 0) (agree_blockOver .none le le') le le'
  | room + 1 =>
      agree_statementOver (passes_expression turns (room + 1)) (passes_block turns (room + 1))
        (agree_expression le le' (room + 1))
        (agree_blockOver (.some ⟨passes_statement turns room, agree_statement le le' room⟩) le le')
        le le'

theorem agree_block {bound turns turns' : Nat} (le : bound ≤ turns) (le' : bound ≤ turns') :
    ∀ room, Agree bound (block turns room) (block turns' room)
  | 0 => agree_blockOver .none le le'
  | room + 1 =>
      agree_blockOver (.some ⟨passes_statement turns room, agree_statement le le' room⟩) le le'

theorem agree_operation {bound turns turns' : Nat} (le : bound ≤ turns) (le' : bound ≤ turns') :
    Agree bound (operation turns) (operation turns') := by
  have names : ∀ expected, Passes InExpression 0 (name expected) := fun expected =>
    (passes_name fun _ => trivial).weaken
  have expects : ∀ token expected, token ≠ .endOfInput → Passes NotEnd 0 (expect token expected) :=
    fun token expected inside => (passes_expect inside inside).weaken
  unfold operation
  refine agree_bind_of_passes (expects _ _ (by simp)) fun _ => ?_
  refine agree_bind_of_passes (names _).notEnd fun opName => ?_
  refine agree_bind_of_passes (expects _ _ (by simp)) fun _ => ?_
  refine (agree_parenList (names _) (agree_refl _) le le').bind
    (passes_parenList (names _)).notEnd.weaken fun params => ?_
  exact (agree_block le le' maxNesting).bind_same
    (passes_block turns maxNesting).weaken _

/-- With any number of turns from the number of tokens on, an item does the same. -/
theorem agree_item {bound turns turns' : Nat} (le : bound ≤ turns) (le' : bound ≤ turns') :
    Agree bound (item turns) (item turns') := by
  unfold item
  refine agree_peek_bind fun t => Agree.at ?_
  split
  · exact (agree_operation le le').bind_same (passes_operation turns).weaken _
  · exact (agree_statement le le' maxNesting).bind_same
      (passes_statement turns maxNesting).weaken _

end Parse
end Script
end StagedScript
