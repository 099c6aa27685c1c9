import StagedScript.Proofs.Script.ExpressionCompleteness

/-!
# What is derived is parsed

Statements and operations end where they end, except for a condition, which an else branch would
carry on; they are accepted before every other token.

**Results.** A list of tokens that ends once is parsed as a program exactly if the grammar derives
it as that program and no expression is too tall (`parseTokens_eq_ok_iff_source`).
-/

namespace StagedScript
namespace Script

open Grammar

/-- A statement begins with a token that neither ends a block or a program, nor goes on with a
condition, nor declares an operation. -/
theorem exists_head_of_statement {nesting : Nat} {word : List Token} {s : Stmt}
    (derived : Statement nesting word s) :
    ∃ t tail, word = t :: tail ∧ t ≠ .symbol .rightBrace ∧ t ≠ .endOfInput ∧
      t ≠ .keyword .else_ ∧ t ≠ .keyword .operation := by
  cases derived with
  | expr expression =>
      obtain ⟨t, tail, rfl, -⟩ := exists_head_of_expression expression
      have inside := inExpression_of_mem expression t (by simp)
      refine ⟨t, tail ++ [.symbol .semicolon], rfl, ?_, ?_, ?_, ?_⟩ <;>
        rintro rfl <;> simp [InExpression] at inside
  | _ => exact ⟨_, _, rfl, by simp⟩

namespace Parse

section Statements

variable {turns nesting : Nat} {follow : Token → Prop} {word yesWord : List Token} {e : Expr}
  {yes : List Stmt}

/-- Behind a statement of a block stands another one, or the closing brace. -/
theorem firstOf_statements_ne_else {parts : List (List Token × Stmt)} {next : Token}
    (derived : ∀ part ∈ parts, Statement nesting part.1 part.2) :
    firstOf (parts.flatMap Prod.fst ++ [.symbol .rightBrace]) next ≠ .keyword .else_ := by
  cases parts with
  | nil => simp [firstOf]
  | cons second parts =>
      obtain ⟨t, tail, isSecond, -, -, notElse, -⟩ :=
        exists_head_of_statement (derived second (by simp))
      simpa [firstOf, isSecond] using notElse

/-- Statements in braces, each taken before any token but the keyword that goes on with a
condition. -/
theorem accepts_statementsToBrace {statement : Parse Stmt} :
    ∀ (parts : List (List Token × Stmt)) (turns : Nat),
      (∀ part ∈ parts, Accepts turns statement (· ≠ .keyword .else_) part.1 part.2) →
      (∀ part ∈ parts, Statement nesting part.1 part.2) →
      Accepts turns (statementsToBrace statement turns) (fun _ => True)
        (parts.flatMap Prod.fst ++ [.symbol .rightBrace]) (parts.map Prod.snd) := by
  intro parts
  induction parts with
  | nil =>
      intro turns _ _
      cases turns with
      | zero => exact accepts_zero (by simp)
      | succ turns => exact accepts_peek_bind (accepts_advance_bind (by simp) accepts_pure)
  | cons first parts ih =>
      intro turns accepts derived
      cases turns with
      | zero => exact accepts_zero (by simp)
      | succ turns =>
          have inRest : ∀ part ∈ parts, Statement nesting part.1 part.2 :=
            fun part member => derived part (by simp [member])
          have others := ih turns
            (fun part member => (accepts part (by simp [member])).mono (Nat.le_succ turns)) inRest
          obtain ⟨word, s⟩ := first
          obtain ⟨t, tail, rfl, notBrace, notEnd, -, -⟩ :=
            exists_head_of_statement (derived (word, s) (by simp))
          have read : Accepts (turns + 1) statement _ (t :: tail) s := accepts (_, s) (by simp)
          rw [List.flatMap_cons, List.append_assoc]
          unfold statementsToBrace
          refine accepts_peek_bind ?_
          split
          next => exact absurd rfl notBrace
          next => exact absurd rfl notEnd
          next =>
            refine accepts_bind_left read ?_ fun _ _ => firstOf_statements_ne_else inRest
            exact accepts_bind_nil (others.mono (by simp)) accepts_pure fun _ _ => trivial

/-- Statements one level further in make a block. -/
theorem accepts_block {parts : List (List Token × Stmt)}
    (accepts : ∀ part ∈ parts,
      Accepts turns (statement turns nesting) (· ≠ .keyword .else_) part.1 part.2)
    (derived : ∀ part ∈ parts, Statement nesting part.1 part.2) :
    Accepts turns (block turns (nesting + 1)) (fun _ => True) (braced (parts.flatMap Prod.fst))
      (parts.map Prod.snd) :=
  accepts_expect_bind (by simp) (accepts_statementsToBrace parts turns accepts derived)

theorem accepts_test (low : LowExpression nesting .disjunction word e) :
    Accepts turns (test (expression turns nesting)) (fun _ => True) (parenthesized word) e :=
  accepts_expect_bind (by simp) (accepts_bind (accepts_expression turns low)
    (accepts_expect_bind (by simp) accepts_pure) fun _ _ => stops_rightParen .disjunction)

theorem accepts_semicolon {s : Stmt} :
    Accepts turns (do semicolon; return s) follow [.symbol .semicolon] s :=
  accepts_expect_bind (by simp) accepts_pure

/-- An expression and its semicolon. -/
theorem accepts_terminated (low : LowExpression nesting .disjunction word e) (f : Expr → Stmt) :
    Accepts turns (do let e ← expression turns nesting; semicolon; return f e) follow
      (word ++ [.symbol .semicolon]) (f e) :=
  accepts_bind (accepts_expression turns low) accepts_semicolon
    fun _ _ => stops_semicolon .disjunction

/-- A condition taken with a turn for every token. Conditions in the place of an else branch cost
a turn each, so that the bound on the turns is part of what is carried along. -/
def AcceptsConditional (turns nesting : Nat) (follow : Token → Prop) (word : List Token)
    (s : Stmt) : Prop :=
  ∀ count ≤ turns,
    Accepts count (conditional (expression turns nesting) (block turns nesting) count)
      follow word s

/-- What a condition does behind its first block. -/
def branches (condition : Expr) (yes : List Stmt) (again : Parse Stmt)
    (block : Parse (List Stmt)) : Parse Stmt := do
  if ← eat (.keyword .else_) then
    if (← peek) = .keyword .if_ then
      return .cond condition yes [← again]
    else
      return .cond condition yes (← block)
  else
    return .cond condition yes []

/-- The head of a condition, and its first block. -/
theorem acceptsConditional_of_branches {branchWord : List Token} {s : Stmt}
    (low : LowExpression nesting .disjunction word e)
    (acceptsYes : Accepts turns (block turns nesting) (fun _ => True) yesWord yes)
    (go : ∀ count ≤ turns, Accepts count
      (branches e yes (conditional (expression turns nesting) (block turns nesting) count)
        (block turns nesting)) follow branchWord s) :
    AcceptsConditional turns nesting follow
      (.keyword .if_ :: (parenthesized word ++ yesWord ++ branchWord)) s := by
  intro count le
  cases count with
  | zero => exact accepts_zero (by simp)
  | succ count =>
      have test : Accepts turns _ _ (parenthesized word) e := accepts_test low
      unfold conditional
      refine accepts_advance_bind_left (by simp) ?_
      rw [List.append_assoc]
      refine accepts_bind (test.mono (by omega)) ?_ fun _ _ => trivial
      exact accepts_bind (acceptsYes.mono (by omega)) (go count (by omega)) fun _ _ => trivial

theorem acceptsConditional_cond (low : LowExpression nesting .disjunction word e)
    (acceptsYes : Accepts turns (block turns nesting) (fun _ => True) yesWord yes) :
    AcceptsConditional turns nesting (· ≠ .keyword .else_)
      (.keyword .if_ :: (parenthesized word ++ yesWord)) (.cond e yes []) := by
  rw [← List.append_nil (parenthesized word ++ yesWord)]
  refine acceptsConditional_of_branches low acceptsYes fun count _ => ?_
  exact accepts_eat_bind_of_ne (by simp) (fun _ follows => follows) accepts_pure

theorem acceptsConditional_condElse {noWord : List Token} {no : List Stmt}
    (low : LowExpression nesting .disjunction word e)
    (acceptsYes : Accepts turns (block turns nesting) (fun _ => True) yesWord yes)
    (acceptsNo : Accepts turns (block turns nesting) (fun _ => True) (braced noWord) no) :
    AcceptsConditional turns nesting follow
      (.keyword .if_ :: (parenthesized word ++ yesWord ++ .keyword .else_ :: braced noWord))
      (.cond e yes no) := by
  refine acceptsConditional_of_branches low acceptsYes fun count le => ?_
  refine accepts_eat_bind (by simp) ?_
  rw [if_pos rfl]
  refine accepts_peek_bind ?_
  rw [if_neg (by simp)]
  exact accepts_bind_nil (acceptsNo.mono le) accepts_pure fun _ _ => trivial

theorem acceptsConditional_condElseIf {againWord : List Token} {again : Stmt}
    (low : LowExpression nesting .disjunction word e)
    (acceptsYes : Accepts turns (block turns nesting) (fun _ => True) yesWord yes)
    (acceptsAgain : AcceptsConditional turns nesting follow (.keyword .if_ :: againWord) again) :
    AcceptsConditional turns nesting follow
      (.keyword .if_ ::
        (parenthesized word ++ yesWord ++ .keyword .else_ :: .keyword .if_ :: againWord))
      (.cond e yes [again]) := by
  refine acceptsConditional_of_branches low acceptsYes fun count le => ?_
  refine accepts_eat_bind (by simp) ?_
  rw [if_pos rfl]
  refine accepts_peek_bind ?_
  rw [if_pos rfl]
  exact accepts_bind_nil (acceptsAgain count le) accepts_pure fun _ follows => follows

/-- A statement that is a condition is one for the parser of statements. -/
theorem accepts_of_acceptsConditional {s : Stmt}
    (conditional : AcceptsConditional turns nesting follow (.keyword .if_ :: word) s) :
    Accepts turns (statement turns nesting) follow (.keyword .if_ :: word) s := by
  rw [statement_eq]
  unfold statementOver
  refine accepts_peek_bind ?_
  rw [← block_eq]
  exact conditional turns (Nat.le_refl turns)

theorem accepts_loop (low : LowExpression nesting .disjunction word e)
    (acceptsBody : Accepts turns (block turns nesting) (fun _ => True) yesWord yes) :
    Accepts turns (statement turns nesting) follow
      (.keyword .while_ :: (parenthesized word ++ yesWord)) (.loop e yes) := by
  rw [statement_eq]
  unfold statementOver
  refine accepts_peek_bind (accepts_advance_bind (by simp) ?_)
  rw [← block_eq]
  refine accepts_bind (accepts_test low) ?_ fun _ _ => trivial
  exact accepts_bind_nil acceptsBody accepts_pure fun _ _ => trivial

theorem accepts_var (name : String) :
    Accepts turns (statement turns nesting) follow
      [.keyword .var, .name name, .symbol .semicolon] (.var name none) := by
  rw [statement_eq]
  unfold statementOver
  refine accepts_peek_bind (accepts_advance_bind (by simp) (accepts_name_bind ?_))
  refine accepts_eat_bind_of_ne (by simp) (by simp [firstOf]) ?_
  exact accepts_semicolon

theorem accepts_varWith (low : LowExpression nesting .disjunction word e) (name : String) :
    Accepts turns (statement turns nesting) follow
      (.keyword .var :: .name name :: .symbol .assign :: (word ++ [.symbol .semicolon]))
      (.var name (some e)) := by
  rw [statement_eq]
  unfold statementOver
  refine accepts_peek_bind (accepts_advance_bind (by simp) (accepts_name_bind ?_))
  refine accepts_eat_bind (by simp) ?_
  rw [if_pos rfl, bind_map_left]
  exact accepts_terminated low fun e => .var name (some e)

theorem accepts_ret :
    Accepts turns (statement turns nesting) follow
      [.keyword .ret, .symbol .semicolon] (.ret none) := by
  rw [statement_eq]
  unfold statementOver
  refine accepts_peek_bind (accepts_advance_bind (by simp) (accepts_peek_bind ?_))
  rw [if_pos rfl, pure_bind]
  exact accepts_semicolon

theorem accepts_retWith (low : LowExpression nesting .disjunction word e) :
    Accepts turns (statement turns nesting) follow
      (.keyword .ret :: (word ++ [.symbol .semicolon])) (.ret (some e)) := by
  have terminated : Accepts turns _ follow _ _ :=
    accepts_terminated low fun e => .ret (some e)
  obtain ⟨t, words, rfl, -⟩ := exists_head_of_expression low.1
  have inside := inExpression_of_mem low.1 t (by simp)
  rw [statement_eq]
  unfold statementOver
  refine accepts_peek_bind (accepts_advance_bind (by simp) (accepts_peek_bind ?_))
  rw [if_neg (by rintro rfl; simp [InExpression] at inside), bind_map_left]
  exact terminated

theorem accepts_assign (low : LowExpression nesting .disjunction word e) (name : String) :
    Accepts turns (statement turns nesting) follow
      (.name name :: .symbol .assign :: (word ++ [.symbol .semicolon])) (.assign name e) := by
  rw [statement_eq]
  unfold statementOver
  refine accepts_peek_bind (accepts_assignAhead (by simp) ?_)
  exact accepts_terminated low fun e => .assign name e

/-- Behind a name that begins an expression, no assignment sign follows. -/
theorem accepts_expr (low : LowExpression nesting .disjunction word e) :
    Accepts turns (statement turns nesting) follow
      (word ++ [.symbol .semicolon]) (.expr e) := by
  have terminated : Accepts turns _ follow _ _ := accepts_terminated low .expr
  obtain ⟨t, words, rfl, -⟩ := exists_head_of_expression low.1
  have inside := inExpression_of_mem low.1
  have noSign : ∀ next, firstOf (words ++ [.symbol .semicolon]) next ≠ .symbol .assign := by
    intro next
    cases words with
    | nil => simp [firstOf]
    | cons second words =>
        have insideSecond := inside second (by simp)
        rintro rfl
        simp [InExpression] at insideSecond
  have insideFirst := inside t (by simp)
  rw [statement_eq]
  unfold statementOver
  refine accepts_peek_bind ?_
  split
  case h_6 => exact accepts_assignAhead_of_ne (fun next _ => noSign next) terminated
  case h_7 => exact terminated
  all_goals simp [InExpression] at insideFirst

end Statements
/-- The part of a condition's word behind its keyword, if a statement is a condition: there a
condition goes on that stands in the place of an else branch. -/
def GoesOn (turns nesting : Nat) (word : List Token) : Stmt → Prop
  | .cond test yes no =>
      ∃ tail, word = .keyword .if_ :: tail ∧
        AcceptsConditional turns nesting (· ≠ .keyword .else_) word (.cond test yes no)
  | _ => True

/-- The heights of the statements of a list. -/
theorem low_of_mem {parts : List (List Token × Stmt)}
    (low : ∀ e ∈ Stmt.expressionsOfAll (parts.map Prod.snd), e.height ≤ maxNesting) :
    ∀ part ∈ parts, ∀ e ∈ part.2.expressions, e.height ≤ maxNesting := by
  intro part inParts e member
  refine low e ?_
  rw [Stmt.expressionsOfAll_eq_flatMap]
  exact List.mem_flatMap.2 ⟨part.2, List.mem_map_of_mem inParts, member⟩

/-- Every derived statement with low expressions is accepted. -/
theorem accepts_of_statement (turns : Nat) {nesting : Nat} {word : List Token} {s : Stmt}
    (derived : Statement nesting word s) (low : ∀ e ∈ s.expressions, e.height ≤ maxNesting) :
    Accepts turns (statement turns nesting) (· ≠ .keyword .else_) word s ∧
      GoesOn turns nesting word s := by
  induction derived with
  | var name => exact ⟨accepts_var name, trivial⟩
  | varWith name expression =>
      exact ⟨accepts_varWith ⟨expression, low _ (by simp [Stmt.expressions])⟩ name, trivial⟩
  | ret => exact ⟨accepts_ret, trivial⟩
  | retWith expression =>
      exact ⟨accepts_retWith ⟨expression, low _ (by simp [Stmt.expressions])⟩, trivial⟩
  | cond yes test derivedYes ih =>
      simp only [Stmt.expressions, Stmt.expressionsOfAll, List.append_nil, List.forall_mem_cons]
        at low
      have acceptsYes := accepts_block
        (fun part member => (ih part member (low_of_mem low.2 part member)).1) derivedYes
      have conditional := acceptsConditional_cond ⟨test, low.1⟩ acceptsYes
      exact ⟨accepts_of_acceptsConditional conditional, _, rfl, conditional⟩
  | condElse yes no test derivedYes derivedNo ihYes ihNo =>
      simp only [Stmt.expressions, List.forall_mem_cons, List.forall_mem_append] at low
      have acceptsYes := accepts_block
        (fun part member => (ihYes part member (low_of_mem low.2.1 part member)).1) derivedYes
      have acceptsNo := accepts_block
        (fun part member => (ihNo part member (low_of_mem low.2.2 part member)).1) derivedNo
      have conditional : AcceptsConditional turns _ (· ≠ .keyword .else_) _ _ :=
        acceptsConditional_condElse ⟨test, low.1⟩ acceptsYes acceptsNo
      exact ⟨accepts_of_acceptsConditional conditional, _, rfl, conditional⟩
  | condElseIf yes test derivedYes _ ihYes ihAgain =>
      simp only [Stmt.expressions, List.forall_mem_cons, List.forall_mem_append,
        Stmt.expressionsOfAll, List.append_nil] at low
      have acceptsYes := accepts_block
        (fun part member => (ihYes part member (low_of_mem low.2.1 part member)).1) derivedYes
      obtain ⟨-, tail, rfl, again⟩ := ihAgain (by
        simpa only [Stmt.expressions, List.forall_mem_cons, List.forall_mem_append]
          using low.2.2)
      have conditional := acceptsConditional_condElseIf ⟨test, low.1⟩ acceptsYes again
      exact ⟨accepts_of_acceptsConditional conditional, _, rfl, conditional⟩
  | loop body test derivedBody ih =>
      simp only [Stmt.expressions, List.forall_mem_cons] at low
      have acceptsBody := accepts_block
        (fun part member => (ih part member (low_of_mem low.2 part member)).1) derivedBody
      exact ⟨accepts_loop ⟨test, low.1⟩ acceptsBody, trivial⟩
  | assign name expression =>
      exact ⟨accepts_assign ⟨expression, low _ (by simp [Stmt.expressions])⟩ name, trivial⟩
  | expr expression =>
      exact ⟨accepts_expr ⟨expression, low _ (by simp [Stmt.expressions])⟩, trivial⟩

theorem exists_head_of_declaration {nesting : Nat} {word : List Token} {op : Operation}
    (derived : Declaration nesting word op) : ∃ tail, word = .keyword .operation :: tail := by
  cases derived
  exact ⟨_, rfl⟩

theorem accepts_params (turns : Nat) (params : List String) :
    Accepts turns (parenList turns (name "parameter name")) (fun _ => True)
      (separated (params.map fun param => [.name param]) ++ [.symbol .rightParen]) params := by
  have accepts : ∀ part ∈ params.map fun param => ([Token.name param], param),
      Accepts turns (name "parameter name") (fun _ => True) part.1 part.2 := by
    intro part member
    obtain ⟨param, -, rfl⟩ := List.mem_map.1 member
    exact accepts_name
  have heads : ∀ part ∈ params.map fun param => ([Token.name param], param),
      ∃ t tail, part.1 = t :: tail ∧ t ≠ .symbol .rightParen := by
    intro part member
    obtain ⟨param, -, rfl⟩ := List.mem_map.1 member
    exact ⟨_, _, rfl, by simp⟩
  simpa [Function.comp_def] using accepts_parenList trivial trivial heads accepts

/-- Every derived operation with low expressions is accepted. -/
theorem accepts_operation (turns : Nat) {word : List Token} {op : Operation}
    (low : LowOperation maxNesting word op) :
    Accepts turns (operation turns) (fun _ => True) word op := by
  obtain ⟨derived, heights⟩ := low
  generalize room : maxNesting = nesting at derived
  cases derived with
  | operation name params body derivedBody =>
      have acceptsBody := accepts_block
        (fun part member => (accepts_of_statement turns (derivedBody part member)
          (low_of_mem heights part member)).1) derivedBody
      rw [← room] at acceptsBody
      unfold operation
      refine accepts_expect_bind (by simp) (accepts_name_bind (accepts_expect_bind (by simp) ?_))
      refine accepts_bind (accepts_params turns params) ?_ fun _ _ => trivial
      exact accepts_bind_nil acceptsBody accepts_pure fun _ _ => trivial

theorem accepts_item (turns : Nat) {word : List Token} {found : Item}
    (low : LowItem maxNesting word found) :
    Accepts turns (item turns) (· ≠ .keyword .else_) word found := by
  unfold item
  cases found with
  | operation op =>
      have read := accepts_operation turns low
      obtain ⟨tail, rfl⟩ := exists_head_of_declaration low.1
      refine accepts_peek_bind ?_
      rw [if_pos rfl]
      exact accepts_bind_nil read accepts_pure fun _ _ => trivial
  | statement s =>
      have read := (accepts_of_statement turns low.1 low.2).1
      obtain ⟨t, tail, rfl, -, -, -, other⟩ := exists_head_of_statement low.1
      refine accepts_peek_bind ?_
      rw [if_neg other]
      exact accepts_bind_nil read accepts_pure fun _ follows => follows

/-- Source begins with a token that does not go on with a condition. -/
theorem exists_head_of_source {nesting : Nat} {word : List Token} {program : Program}
    (derived : Source nesting word program) :
    ∃ t tail, word = t :: tail ∧ t ≠ .keyword .else_ := by
  cases derived with
  | done => exact ⟨_, _, rfl, by simp⟩
  | operation declaration =>
      obtain ⟨tail, rfl⟩ := exists_head_of_declaration declaration
      exact ⟨_, _, rfl, by simp⟩
  | statement statement =>
      obtain ⟨t, tail, rfl, -, -, notElse, -⟩ := exists_head_of_statement statement
      exact ⟨t, _, rfl, notElse⟩

theorem exists_head_of_item {nesting : Nat} {word : List Token} {found : Item}
    (low : LowItem nesting word found) :
    ∃ t tail, word = t :: tail ∧ t ≠ .endOfInput ∧ t ≠ .keyword .else_ := by
  cases found with
  | operation op =>
      obtain ⟨tail, rfl⟩ := exists_head_of_declaration low.1
      exact ⟨_, tail, rfl, by simp⟩
  | statement s =>
      obtain ⟨t, tail, rfl, -, notEnd, notElse, -⟩ := exists_head_of_statement low.1
      exact ⟨t, tail, rfl, notEnd, notElse⟩

/-- With a turn for every token, the words are items one after the other, and their program is the
given one. -/
def TakenAs (turns : Nat) (word : List Token) (program : Program) : Prop :=
  ∀ count ts, tokensOf ts = word → ts.length ≤ turns → ts.length ≤ count →
    ∃ found : List Item, items turns count ts = found.map .ok ∧ program = .ofItems found

/-- One more item in front of others that are taken. -/
theorem items_cons {turns : Nat} {word restWord : List Token} {found : Item} {program : Program}
    (low : LowItem maxNesting word found)
    (notElse : ∃ t tail, restWord = t :: tail ∧ t ≠ .keyword .else_)
    (rest : TakenAs turns restWord program) (count : Nat) (ts : List Located)
    (spelled : tokensOf ts = word ++ restWord) (short : ts.length ≤ turns)
    (enough : ts.length ≤ count) :
    ∃ others : List Item, items turns count ts = (found :: others).map .ok ∧
      program = .ofItems others := by
  obtain ⟨head, left, rfl, spelledHead, spelledRest⟩ := tokensOf_eq_append_iff.1 spelled
  obtain ⟨t, tail, isWord, notEnd, -⟩ := exists_head_of_item low
  obtain ⟨next, others, isRest, notElse⟩ := notElse
  have follows : headToken left ≠ .keyword .else_ := by
    rw [← List.append_nil left]
    rwa [headToken_append_of_tokensOf (spelledRest.trans isRest)]
  have read := accepts_item turns low head left spelledHead short follows
  obtain ⟨l, more, rfl, rfl, -⟩ := tokensOf_eq_cons_iff.1 (spelledHead.trans isWord)
  simp only [List.cons_append, List.length_cons, List.length_append] at short enough
  cases count with
  | zero => simp at enough
  | succ count =>
      obtain ⟨found, taken, rfl⟩ := rest count left spelledRest (by omega) (by omega)
      refine ⟨found, ?_, rfl⟩
      unfold Yields at read
      rw [List.cons_append] at read ⊢
      rw [items, if_neg notEnd, read]
      exact congrArg (Except.ok _ :: ·) taken

/-- The items of derived source are all well formed, and its program is theirs. -/
theorem takenAs_of_source {turns : Nat} {word : List Token} {program : Program}
    (derived : Source maxNesting word program) :
    (∀ e ∈ program.expressions, e.height ≤ maxNesting) → TakenAs turns word program := by
  induction derived with
  | done =>
      intro _ count ts spelled _ enough
      obtain ⟨l, rfl, atEnd⟩ := tokensOf_eq_singleton_iff.1 spelled
      cases count with
      | zero => simp at enough
      | succ count =>
          refine ⟨[], ?_, rfl⟩
          unfold items
          rw [if_pos atEnd]
          rfl
  | @operation word rest op program declaration source ih =>
      intro low count ts spelled short enough
      simp only [Program.expressions, List.flatMap_cons, List.append_assoc,
        List.forall_mem_append] at low
      have lowOp : LowItem maxNesting word (.operation op) := ⟨declaration, low.1⟩
      have lowRest : ∀ e ∈ program.expressions, e.height ≤ maxNesting :=
        List.forall_mem_append.2 low.2
      obtain ⟨others, taken, rfl⟩ :=
        items_cons lowOp (exists_head_of_source source) (ih lowRest) count ts spelled short enough
      exact ⟨.operation op :: others, taken, rfl⟩
  | @statement word rest s program statement source ih =>
      intro low count ts spelled short enough
      simp only [Program.expressions, Stmt.expressionsOfAll, List.forall_mem_append] at low
      have lowStmt : LowItem maxNesting word (.statement s) := ⟨statement, low.2.1⟩
      have lowRest : ∀ e ∈ program.expressions, e.height ≤ maxNesting :=
        List.forall_mem_append.2 ⟨low.1, low.2.2⟩
      obtain ⟨others, taken, rfl⟩ :=
        items_cons lowStmt (exists_head_of_source source) (ih lowRest) count ts spelled short enough
      exact ⟨.statement s :: others, taken, rfl⟩

end Parse

open Parse

/-- Derived source is parsed as what it is derived as. -/
theorem parseTokens_of_lowSource {ts : List Located} {program : Program}
    (low : LowSource maxNesting (tokensOf ts) program) : parseTokens ts = .ok program :=
  parseTokens_eq_ok_iff.2
    (takenAs_of_source low.1 low.2 ts.length ts rfl (Nat.le_refl _) (Nat.le_refl _))

/-- Parsed source is derived as what it is parsed as. -/
theorem lowSource_of_parseTokens {ts : List Located} {program : Program} (ends : EndsOnce ts)
    (parsed : parseTokens ts = .ok program) : LowSource maxNesting (tokensOf ts) program := by
  obtain ⟨found, wellFormed, rfl⟩ := parseTokens_eq_ok_iff.1 parsed
  exact lowSource_of_items ts.length ts found ends (Nat.le_refl _) (Nat.le_refl _) wellFormed

/-- A list of tokens that ends once is parsed as a program exactly if the grammar derives it as
that program, with the limits on nesting and on heights kept; in every other case there are
problems. -/
theorem parseTokens_eq_ok_iff_source (ts : List Located) (ends : EndsOnce ts) :
    (∀ program, parseTokens ts = .ok program ↔
      Source maxNesting (tokensOf ts) program ∧
        ∀ e ∈ program.expressions, e.height ≤ maxNesting) ∧
    ((∀ program, ¬ (Source maxNesting (tokensOf ts) program ∧
        ∀ e ∈ program.expressions, e.height ≤ maxNesting)) →
      ∃ problems, problems ≠ [] ∧ parseTokens ts = .error problems) := by
  have exactly : ∀ program, parseTokens ts = .ok program ↔
      LowSource maxNesting (tokensOf ts) program :=
    fun program => ⟨lowSource_of_parseTokens ends, parseTokens_of_lowSource⟩
  refine ⟨exactly, fun none => ?_⟩
  exact parseTokens_error_of_not_ok fun program parsed => none program ((exactly program).1 parsed)

/-- The theorem at an assignment: a product binds tighter than the sum that it stands in. -/
theorem parseTokens_assignment :
    let ts := [Token.name "x", .symbol .assign, .integer 1, .symbol .plus, .integer 2,
      .symbol .star, .name "y", .symbol .semicolon, .endOfInput].map (Located.mk · .first)
    EndsOnce ts ∧ parseTokens ts = .ok ⟨[], [.assign "x"
      (.binary .add (.integer 1) (.binary .mul (.integer 2) (.name "y")))]⟩ := by
  intro ts
  have ends : EndsOnce ts := by
    refine ⟨ts.dropLast, ⟨.endOfInput, .first⟩, rfl, rfl, ?_⟩
    simp [ts]
  have literal : ∀ n value level, Level.multiplicative.rank ≤ level.rank →
      Expression n level [.integer value] (.integer value) := by
    intro n value level tight
    cases level with
    | multiplicative => exact .tighter _ (.tighter _ (.tighter _ (.integer value)))
    | operand => exact .tighter _ (.integer value)
    | primary => exact .integer value
    | _ => exact absurd tight (by decide)
  have product : Expression maxNesting .multiplicative
      [.integer 2, .symbol .star, .name "y"] (.binary .mul (.integer 2) (.name "y")) :=
    .binary .mul (literal _ 2 _ (by decide)) (.tighter _ (.tighter _ (.name "y")))
  have sum : Expression maxNesting .additive
      [.integer 1, .symbol .plus, .integer 2, .symbol .star, .name "y"]
      (.binary .add (.integer 1) (.binary .mul (.integer 2) (.name "y"))) :=
    .binary .add (.tighter _ (literal _ 1 _ (by decide))) product
  have assignment := Statement.assign "x"
    (.tighter .disjunction (.tighter .conjunction (.tighter .equality (.tighter .comparison sum))))
  refine ⟨ends, ((parseTokens_eq_ok_iff_source ts ends).1 _).2 ⟨.statement assignment .done, ?_⟩⟩
  intro e member
  obtain rfl : e = .binary .add (.integer 1) (.binary .mul (.integer 2) (.name "y")) := by
    simpa [Program.expressions, Stmt.expressionsOfAll, Stmt.expressions] using member
  decide

end Script
end StagedScript
