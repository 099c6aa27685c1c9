import StagedScript.Proofs.Script.Rules

/-!
# What is parsed is derived

The parsers of expressions, statements and items read the grammar, and the trees that they build
keep the limit on heights.
-/

namespace StagedScript
namespace Script
namespace Parse

open Grammar

variable {α β : Type}

section Lists

variable {turns : Nat} {item : Parse α} {language : List Token → α → Prop}

/-- Words of a language with commas between them, and their values. -/
def Separated (language : List Token → α → Prop) (word : List Token) (values : List α) : Prop :=
  ∃ parts : List (List Token × α), word = separated (parts.map Prod.fst) ∧
    values = parts.map Prod.snd ∧ ∀ part ∈ parts, language part.1 part.2

theorem separated_one {word : List Token} {value : α} (derived : language word value) :
    Separated language word [value] :=
  ⟨[(word, value)], by simp, rfl, by simpa using derived⟩

theorem separated_comma {word others : List Token} {value : α} {values : List α}
    (derived : language word value) (nonempty : values ≠ [])
    (rest : Separated language others values) :
    Separated language (word ++ .symbol .comma :: others) (value :: values) := by
  obtain ⟨parts, rfl, rfl, all⟩ := rest
  cases parts with
  | nil => exact absurd rfl nonempty
  | cons second parts =>
      refine ⟨(word, value) :: second :: parts, by simp [separated_cons_cons], rfl, ?_⟩
      simpa using ⟨derived, by simpa using all⟩

/-- A list with commas has at least one item. -/
theorem reads_commaList {bound : Nat} (reads : Reads bound item language) :
    ∀ turns ≤ bound, Reads turns (commaList item turns) fun word values =>
      values ≠ [] ∧ Separated language word values := by
  intro turns
  induction turns with
  | zero =>
      intro _ ts values rest ends short _
      exact absurd (List.eq_nil_of_length_eq_zero (by omega)) ends.ne_nil
  | succ turns ih =>
      intro le
      unfold commaList
      refine reads_bind (reads.mono le) fun word first derived => ?_
      refine reads_eat_bind_left (by simp) ?_ ?_
      · rw [if_pos rfl]
        refine reads_return (ih (by omega)) fun others values ⟨nonempty, rest⟩ => ?_
        exact ⟨by simp, separated_comma derived nonempty rest⟩
      · rw [if_neg (by simp)]
        refine reads_pure ⟨by simp, ?_⟩
        simpa using separated_one derived

/-- Items in front of a closing parenthesis. -/
def Closed (language : List Token → α → Prop) (word : List Token) (values : List α) : Prop :=
  ∃ items, word = items ++ [.symbol .rightParen] ∧ Separated language items values

theorem reads_parenList (reads : Reads turns item language) :
    Reads turns (parenList turns item) (Closed language) := by
  unfold parenList
  refine reads_peek_bind fun t => ?_
  split
  · rw [pure_bind]
    refine Reads.at (reads_expect_bind (by simp) (reads_pure ?_))
    exact ⟨[], rfl, [], by simp, rfl, by simp⟩
  · refine (reads_bind (reads_commaList reads turns (Nat.le_refl _)) ?_).at
    intro word values ⟨_, items⟩
    exact reads_expect_bind (by simp) (reads_pure ⟨word, rfl, items⟩)

end Lists

section Expressions

variable {turns nesting : Nat}

/-- Expressions of a level that keep the limit on heights. -/
def LowExpression (nesting : Nat) (level : Level) (word : List Token) (e : Expr) : Prop :=
  Expression nesting level word e ∧ e.height ≤ maxNesting

/-- Where a left operand was read, what follows extends it to an expression of the level. -/
theorem reads_chainFrom {bound : Nat} {level : Level} {operand : Parse Expr}
    (reads : Reads bound operand (LowExpression nesting level.next)) :
    ∀ turns left leftWord, LowExpression nesting level leftWord left →
      Reads bound (chainFrom (operatorAt level) operand turns left) fun word e =>
        LowExpression nesting level (leftWord ++ word) e := by
  intro turns
  induction turns with
  | zero => exact fun left leftWord derived => reads_pure (by simpa using derived)
  | succ turns ih =>
      intro left leftWord derived
      unfold chainFrom
      refine reads_peek_bind fun t => ?_
      split
      next => exact (reads_pure (by simpa using derived)).at
      next op found =>
        obtain ⟨rfl, rfl⟩ := operatorAt_eq_some_iff.1 found
        refine readsAt_advance_bind op.token_ne_endOfInput ?_
        refine reads_bind reads fun word right derivedRight => ?_
        refine reads_bind reads_checkHeight ?_
        rintro _ _ ⟨rfl, rfl, low⟩
        have node := ih _ _ ⟨.binary op derived.1 derivedRight.1, low⟩
        exact node.imp fun others e whole => by simpa using whole

/-- Over a parser of operands, the parser of a level reads that level. -/
theorem reads_atLevel {operand : Parse Expr}
    (reads : Reads turns operand (LowExpression nesting .operand)) (level : Level)
    (loose : level.rank ≤ Level.operand.rank) :
    Reads turns (atLevel turns operand level) (LowExpression nesting level) := by
  have chains : ∀ level : Level, level.rank < Level.operand.rank →
      Reads turns (atLevel turns operand level.next) (LowExpression nesting level.next) →
      Reads turns (atLevel turns operand level) (LowExpression nesting level) := by
    intro level loose inner
    rw [atLevel_eq_chain turns operand loose]
    refine reads_bind inner fun word left derived => ?_
    exact reads_chainFrom inner turns left word ⟨.tighter level derived.1, derived.2⟩
  have multiplicative := chains .multiplicative (by decide) reads
  have additive := chains .additive (by decide) multiplicative
  have comparison := chains .comparison (by decide) additive
  have equality := chains .equality (by decide) comparison
  have conjunction := chains .conjunction (by decide) equality
  cases level with
  | disjunction => exact chains .disjunction (by decide) conjunction
  | conjunction => exact conjunction
  | equality => exact equality
  | comparison => exact comparison
  | additive => exact additive
  | multiplicative => exact multiplicative
  | operand => exact reads
  | primary => exact absurd loose (by decide)

/-- A leaf keeps the limit on heights. -/
theorem low_of_leaf {e : Expr} (leaf : e.height = 1) : e.height ≤ maxNesting := by
  rw [leaf]
  decide

theorem readsAt_leaf {t : Token} {e : Expr} (derived : Expression nesting .primary [t] e)
    (leaf : e.height = 1) (inside : t ≠ .endOfInput) :
    ReadsAt t turns (do advance; return e) (LowExpression nesting .primary) :=
  readsAt_advance_bind inside (reads_pure ⟨derived, low_of_leaf leaf⟩)

/-- The parser of operands one level further in reads them, if there is one. -/
abbrev OperandsInside (turns nesting : Nat) (inner : Option (Parse Expr)) : Prop :=
  ReadsInside turns nesting inner fun less => LowExpression less .operand

theorem reads_primaryOver {inner : Option (Parse Expr)}
    (inside : OperandsInside turns nesting inner) :
    Reads turns (primaryOver turns inner) (LowExpression nesting .primary) := by
  have expressions : ∀ less p, Reads turns p (LowExpression less .operand) →
      Reads turns (levels turns p) (LowExpression less .disjunction) :=
    fun less p reads => reads_atLevel reads .disjunction (by decide)
  unfold primaryOver
  refine reads_peek_bind fun t => ?_
  cases t with
  | integer value => exact readsAt_leaf (.integer value) rfl (by simp)
  | real value => exact readsAt_leaf (.real value) rfl (by simp)
  | text value => exact readsAt_leaf (.text value) rfl (by simp)
  | keyword word =>
      cases word with
      | true_ => exact readsAt_leaf .true_ rfl (by simp)
      | false_ => exact readsAt_leaf .false_ rfl (by simp)
      | null => exact readsAt_leaf .null rfl (by simp)
      | _ => exact reads_unexpected.at
  | symbol mark =>
      cases mark with
      | leftParen =>
          refine readsAt_advance_bind (by simp) ?_
          refine reads_bind (reads_nested (inside.map expressions)) ?_
          rintro word e ⟨less, rfl, derived, low⟩
          exact reads_expect_bind (by simp) (reads_pure ⟨.parens derived, low⟩)
      | _ => exact reads_unexpected.at
  | name name =>
      refine readsAt_advance_bind (by simp) (reads_eat_bind (by simp) ?_ ?_)
      · rw [if_pos rfl]
        refine reads_bind (reads_nested (inside.map fun less p reads =>
          reads_parenList (expressions less p reads))) ?_
        rintro _ _ ⟨less, rfl, _, rfl, parts, rfl, rfl, all⟩
        refine reads_checkHeight.imp ?_
        rintro _ _ ⟨rfl, rfl, low⟩
        rw [List.append_nil]
        exact ⟨.call name parts fun part member => (all part member).1, low⟩
      · rw [if_neg (by simp)]
        exact reads_pure ⟨.name name, low_of_leaf rfl⟩
  | endOfInput => exact reads_unexpected.at

theorem reads_unaryOver {inner : Option (Parse Expr)}
    (inside : OperandsInside turns nesting inner) :
    Reads turns (unaryOver turns inner) (LowExpression nesting .operand) := by
  unfold unaryOver
  refine reads_peek_bind fun t => ?_
  split
  next op found =>
    obtain rfl := prefixOp?_eq_some_iff.1 found
    refine readsAt_advance_bind op.token_ne_endOfInput ?_
    refine reads_bind (reads_nested inside) ?_
    rintro word operand ⟨less, rfl, derived, -⟩
    refine reads_checkHeight.imp ?_
    rintro _ _ ⟨rfl, rfl, low⟩
    rw [List.append_nil]
    exact ⟨.unary op derived, low⟩
  next =>
    exact ((reads_primaryOver inside).imp fun word e derived =>
      ⟨.tighter .operand derived.1, derived.2⟩).at

theorem reads_unary (turns : Nat) : ∀ room,
    Reads turns (unary turns room) (LowExpression room .operand)
  | 0 => reads_unaryOver readsInside_none
  | room + 1 => reads_unaryOver (readsInside_some (reads_unary turns room))

/-- The parser of expressions reads expressions. -/
theorem reads_expression (turns room : Nat) :
    Reads turns (expression turns room) (LowExpression room .disjunction) :=
  reads_atLevel (reads_unary turns room) .disjunction (by decide)

end Expressions

section Statements

variable {turns nesting : Nat} {expression : Parse Expr} {block : Parse (List Stmt)}

/-- Statements whose expressions keep the limit on heights. -/
def LowStatement (nesting : Nat) (word : List Token) (s : Stmt) : Prop :=
  Statement nesting word s ∧ ∀ e ∈ s.expressions, e.height ≤ maxNesting

/-- Statements of a language in braces. -/
def Block (language : List Token → Stmt → Prop) (word : List Token) (body : List Stmt) : Prop :=
  ∃ parts : List (List Token × Stmt), word = braced (parts.flatMap Prod.fst) ∧
    body = parts.map Prod.snd ∧ ∀ part ∈ parts, language part.1 part.2

/-- Blocks of statements one level further in. -/
abbrev InnerBlock : Nat → List Token → List Stmt → Prop :=
  Inside fun less => Block (LowStatement less)

/-- Expressions in parentheses. -/
def Test (nesting : Nat) (word : List Token) (e : Expr) : Prop :=
  ∃ inner, word = parenthesized inner ∧ LowExpression nesting .disjunction inner e

theorem low_of_lowStatements {parts : List (List Token × Stmt)}
    (all : ∀ part ∈ parts, LowStatement nesting part.1 part.2) :
    ∀ e ∈ Stmt.expressionsOfAll (parts.map Prod.snd), e.height ≤ maxNesting := by
  intro e member
  rw [Stmt.expressionsOfAll_eq_flatMap] at member
  obtain ⟨s, memberS, memberE⟩ := List.mem_flatMap.1 member
  obtain ⟨part, memberPart, rfl⟩ := List.mem_map.1 memberS
  exact (all part memberPart).2 e memberE

/-- A statement has tokens. -/
theorem word_ne_nil_of_statement {word : List Token} {s : Stmt}
    (derived : Statement nesting word s) : word ≠ [] := by
  cases derived <;> simp

/-- One more statement in front of others that end with their brace. -/
theorem block_cons {word others : List Token} {s : Stmt} {body : List Stmt}
    (low : LowStatement nesting word s)
    (block : Block (LowStatement nesting) (.symbol .leftBrace :: others) body) :
    Block (LowStatement nesting) (.symbol .leftBrace :: (word ++ others)) (s :: body) := by
  obtain ⟨parts, spelled, rfl, all⟩ := block
  have others_eq : others = parts.flatMap Prod.fst ++ [.symbol .rightBrace] := by
    simpa [braced] using spelled
  refine ⟨(word, s) :: parts, by simp [braced, others_eq], rfl, ?_⟩
  simpa using ⟨low, by simpa using all⟩

/-- A list of statements ends at its closing brace. Each of them has tokens, so that a turn for
each token is enough. -/
theorem reads_statementsToBrace {bound : Nat} {statement : Parse Stmt}
    (reads : Reads bound statement (LowStatement nesting)) :
    ∀ turns ≤ bound, Reads turns (statementsToBrace statement turns) fun word body =>
      Block (LowStatement nesting) (.symbol .leftBrace :: word) body := by
  intro turns
  induction turns with
  | zero =>
      intro _ ts values rest ends short _
      exact absurd (List.eq_nil_of_length_eq_zero (by omega)) ends.ne_nil
  | succ turns ih =>
      intro le
      unfold statementsToBrace
      refine reads_peek_bind fun t => ?_
      split
      next => exact readsAt_advance_bind (by simp) (reads_pure ⟨[], rfl, rfl, by simp⟩)
      next => exact reads_unexpected.at
      next =>
        refine Reads.at (reads_bind_left (reads.mono le) fun word first low => ?_)
        have some := List.length_pos_iff.2 (word_ne_nil_of_statement low.1)
        exact reads_return ((ih (by omega)).mono (by omega)) fun others more => block_cons low

theorem reads_blockOver {inner : Option (Parse Stmt)}
    (inside : ReadsInside turns nesting inner LowStatement) :
    Reads turns (blockOver turns inner) (InnerBlock nesting) := by
  unfold blockOver
  refine reads_expect_bind (by simp) (reads_nested (inside.map fun less p reads => ?_))
  exact reads_statementsToBrace reads turns (Nat.le_refl _)

theorem reads_test (reads : Reads turns expression (LowExpression nesting .disjunction)) :
    Reads turns (test expression) (Test nesting) := by
  unfold test
  refine reads_expect_bind (by simp) (reads_bind reads fun word e low => ?_)
  exact reads_expect_bind (by simp) (reads_pure ⟨word, rfl, low⟩)

/-! Statements of the grammar keep the limit on heights if their parts do. -/

theorem lowStatement_cond {word yesWord : List Token} {e : Expr} {yes : List Stmt}
    (test : Test nesting word e) (yesBlock : InnerBlock nesting yesWord yes) :
    LowStatement nesting (.keyword .if_ :: (word ++ yesWord)) (.cond e yes []) := by
  obtain ⟨inner, rfl, derived, low⟩ := test
  obtain ⟨less, rfl, parts, rfl, rfl, all⟩ := yesBlock
  refine ⟨.cond parts derived fun part member => (all part member).1, ?_⟩
  simp only [Stmt.expressions, Stmt.expressionsOfAll, List.append_nil, List.forall_mem_cons]
  exact ⟨low, low_of_lowStatements all⟩

theorem lowStatement_condElse {word yesWord noWord : List Token} {e : Expr} {yes no : List Stmt}
    (test : Test nesting word e) (yesBlock : InnerBlock nesting yesWord yes)
    (noBlock : InnerBlock nesting noWord no) :
    LowStatement nesting (.keyword .if_ :: (word ++ yesWord ++ .keyword .else_ :: noWord))
      (.cond e yes no) := by
  obtain ⟨inner, rfl, derived, low⟩ := test
  obtain ⟨less, rfl, parts, rfl, rfl, all⟩ := yesBlock
  obtain ⟨_, ⟨⟩, others, rfl, rfl, allNo⟩ := noBlock
  refine ⟨.condElse parts others derived (fun part member => (all part member).1)
    fun part member => (allNo part member).1, ?_⟩
  simp only [Stmt.expressions, List.forall_mem_cons, List.forall_mem_append]
  exact ⟨low, low_of_lowStatements all, low_of_lowStatements allNo⟩

theorem lowStatement_condElseIf {word yesWord rest : List Token} {e again : Expr}
    {yes first second : List Stmt} (test : Test nesting word e)
    (yesBlock : InnerBlock nesting yesWord yes)
    (nested : LowStatement nesting rest (.cond again first second)) :
    LowStatement nesting (.keyword .if_ :: (word ++ yesWord ++ .keyword .else_ :: rest))
      (.cond e yes [.cond again first second]) := by
  obtain ⟨inner, rfl, derived, low⟩ := test
  obtain ⟨less, rfl, parts, rfl, rfl, all⟩ := yesBlock
  refine ⟨.condElseIf parts derived (fun part member => (all part member).1) nested.1, ?_⟩
  simp only [Stmt.expressions, List.forall_mem_cons, List.forall_mem_append,
    Stmt.expressionsOfAll, List.append_nil]
  refine ⟨low, low_of_lowStatements all, ?_⟩
  simpa only [Stmt.expressions, List.forall_mem_cons, List.forall_mem_append] using nested.2

theorem lowStatement_loop {word bodyWord : List Token} {e : Expr} {body : List Stmt}
    (test : Test nesting word e) (block : InnerBlock nesting bodyWord body) :
    LowStatement nesting (.keyword .while_ :: (word ++ bodyWord)) (.loop e body) := by
  obtain ⟨inner, rfl, derived, low⟩ := test
  obtain ⟨less, rfl, parts, rfl, rfl, all⟩ := block
  refine ⟨.loop parts derived fun part member => (all part member).1, ?_⟩
  simp only [Stmt.expressions, List.forall_mem_cons]
  exact ⟨low, low_of_lowStatements all⟩

/-- At its keyword, a condition with its branches is read; the induction is on the branches that
are conditions themselves. -/
theorem readsAt_conditional
    (readsExpression : Reads turns expression (LowExpression nesting .disjunction))
    (readsBlock : Reads turns block (InnerBlock nesting)) : ∀ count,
    ReadsAt (.keyword .if_) turns (conditional expression block count) fun word s =>
      LowStatement nesting word s ∧ ∃ test yes no, s = .cond test yes no := by
  intro count
  induction count with
  | zero => exact reads_unexpected.at
  | succ count ih =>
      unfold conditional
      refine readsAt_advance_bind (by simp) ?_
      refine reads_bind (reads_test readsExpression) fun word e test => ?_
      refine reads_bind readsBlock fun yesWord yes yesBlock => ?_
      refine reads_eat_bind (by simp) ?_ ?_
      · rw [if_pos rfl]
        refine reads_peek_bind fun t => ?_
        split
        next again =>
          subst again
          refine readsAt_bind ih ?_
          rintro rest _ ⟨low, again, first, second, rfl⟩
          refine reads_pure ⟨?_, _, _, _, rfl⟩
          simpa using lowStatement_condElseIf test yesBlock low
        next =>
          refine (reads_bind readsBlock fun noWord no noBlock => ?_).at
          refine reads_pure ⟨?_, _, _, _, rfl⟩
          simpa using lowStatement_condElse test yesBlock noBlock
      · rw [if_neg (by simp)]
        refine reads_pure ⟨?_, _, _, _, rfl⟩
        simpa using lowStatement_cond test yesBlock

/-- The semicolon that ends a statement. -/
theorem reads_semicolon {bound : Nat} {s : Stmt} {language : List Token → Stmt → Prop}
    (derived : language [.symbol .semicolon] s) :
    Reads bound (do semicolon; return s) language :=
  reads_expect_bind (by simp) (reads_pure derived)

/-- An expression and its semicolon. -/
theorem reads_terminated (reads : Reads turns expression (LowExpression nesting .disjunction))
    {f : Expr → Stmt} {language : List Token → Stmt → Prop}
    (derived : ∀ word e, LowExpression nesting .disjunction word e →
      language (word ++ [.symbol .semicolon]) (f e)) :
    Reads turns (do let e ← expression; semicolon; return f e) language :=
  reads_bind reads fun word e low => reads_semicolon (derived word e low)

/-- The parser of statements reads statements: one case for each way to begin one. -/
theorem reads_statementOver
    (readsExpression : Reads turns expression (LowExpression nesting .disjunction))
    (readsBlock : Reads turns block (InnerBlock nesting)) :
    Reads turns (statementOver turns expression block) (LowStatement nesting) := by
  have terminated : Reads turns (do let e ← expression; semicolon; return .expr e)
      (LowStatement nesting) :=
    reads_terminated readsExpression fun word e low =>
      ⟨.expr low.1, by simpa [Stmt.expressions] using low.2⟩
  unfold statementOver
  refine reads_peek_bind fun t => ?_
  split
  case h_1 =>
    refine readsAt_advance_bind (by simp) (reads_bind reads_name ?_)
    rintro _ x rfl
    refine reads_eat_bind (by simp) ?_ ?_
    · dsimp only
      rw [if_pos rfl, bind_map_left]
      refine reads_terminated (f := fun e => .var x (some e)) readsExpression fun word e low => ?_
      exact ⟨.varWith x low.1, by simpa [Stmt.expressions] using low.2⟩
    · dsimp only
      rw [if_neg (by simp), pure_bind]
      exact reads_semicolon ⟨.var x, by simp [Stmt.expressions]⟩
  case h_2 =>
    refine readsAt_advance_bind (by simp) (reads_peek_bind fun t => ?_)
    dsimp only
    split
    · rw [pure_bind]
      exact (reads_semicolon ⟨.ret, by simp [Stmt.expressions]⟩).at
    · rw [bind_map_left]
      refine (reads_terminated (f := fun e => .ret (some e)) readsExpression
        fun word e low => ?_).at
      exact ⟨.retWith low.1, by simpa [Stmt.expressions] using low.2⟩
  case h_3 =>
    exact (readsAt_conditional readsExpression readsBlock turns).imp fun _ _ low => low.1
  case h_4 =>
    refine readsAt_advance_bind (by simp) ?_
    refine reads_bind (reads_test readsExpression) fun word e test => ?_
    exact reads_return readsBlock fun bodyWord body block => lowStatement_loop test block
  case h_5 => exact reads_unexpected.at
  case h_6 x =>
    refine readsAt_assignAhead (by simp) ?_ terminated
    refine reads_terminated (f := fun e => .assign x e) readsExpression fun word e low => ?_
    exact ⟨.assign x low.1, by simpa [Stmt.expressions] using low.2⟩
  case h_7 => exact terminated.at

end Statements

theorem reads_statement (turns : Nat) : ∀ room,
    Reads turns (statement turns room) (LowStatement room)
  | 0 => reads_statementOver (reads_expression turns 0) (reads_blockOver readsInside_none)
  | room + 1 =>
      reads_statementOver (reads_expression turns (room + 1))
        (reads_blockOver (readsInside_some (reads_statement turns room)))

theorem reads_block (turns : Nat) : ∀ room, Reads turns (block turns room) (InnerBlock room)
  | 0 => reads_blockOver readsInside_none
  | room + 1 => reads_blockOver (readsInside_some (reads_statement turns room))

section Items

variable {nesting : Nat}

/-- Words that are each one name are the names themselves. -/
theorem words_eq_names {parts : List (List Token × String)}
    (all : ∀ part ∈ parts, part.1 = [.name part.2]) :
    parts.map Prod.fst = (parts.map Prod.snd).map fun param => [.name param] := by
  rw [List.map_map]
  exact List.map_congr_left all

/-- Operations whose expressions keep the limit on heights. -/
def LowOperation (nesting : Nat) (word : List Token) (op : Operation) : Prop :=
  Declaration nesting word op ∧ ∀ e ∈ Stmt.expressionsOfAll op.body, e.height ≤ maxNesting

theorem reads_operation (turns : Nat) :
    Reads turns (operation turns) (LowOperation maxNesting) := by
  unfold operation
  refine reads_expect_bind (by simp) (reads_bind reads_name ?_)
  rintro _ opName rfl
  refine reads_expect_bind (by simp) (reads_bind (reads_parenList reads_name) ?_)
  rintro _ _ ⟨_, rfl, names, rfl, rfl, allNames⟩
  refine reads_bind (reads_block turns maxNesting) ?_
  rintro _ _ ⟨less, room, parts, rfl, rfl, all⟩
  refine reads_pure ⟨?_, low_of_lowStatements all⟩
  rw [words_eq_names allNames, room]
  simpa [parenthesized] using Declaration.operation opName (names.map Prod.snd) parts
    fun part member => (all part member).1

/-- What the item of a word is. -/
def LowItem (nesting : Nat) (word : List Token) : Item → Prop
  | .operation op => LowOperation nesting word op
  | .statement s => LowStatement nesting word s

theorem reads_item (turns : Nat) : Reads turns (item turns) (LowItem maxNesting) := by
  unfold item
  refine reads_peek_bind fun t => ?_
  split
  · exact Reads.at (reads_return (reads_operation turns) fun _ _ low => low)
  · exact Reads.at (reads_return (reads_statement turns maxNesting) fun _ _ low => low)

theorem word_ne_nil_of_item {word : List Token} {found : Item}
    (low : LowItem nesting word found) : word ≠ [] := by
  cases found with
  | operation op => cases low.1; simp
  | statement s => exact word_ne_nil_of_statement low.1

/-- A program whose expressions keep the limit on heights. -/
def LowSource (nesting : Nat) (word : List Token) (program : Program) : Prop :=
  Source nesting word program ∧ ∀ e ∈ program.expressions, e.height ≤ maxNesting

/-- The end of input is the program without items. -/
theorem lowSource_end : LowSource nesting [.endOfInput] (.ofItems []) := by
  refine ⟨.done, ?_⟩
  simp [Program.expressions, Program.ofItems, Stmt.expressionsOfAll]

/-- One more item in front of a program. -/
theorem lowSource_cons {word rest : List Token} {found : Item}
    {others : List Item} (low : LowItem nesting word found)
    (source : LowSource nesting rest (.ofItems others)) :
    LowSource nesting (word ++ rest) (.ofItems (found :: others)) := by
  obtain ⟨derived, heights⟩ := source
  cases found with
  | operation op =>
      refine ⟨.operation low.1 derived, fun e member => ?_⟩
      have split : e ∈ Stmt.expressionsOfAll op.body ∨
          e ∈ (Program.ofItems others).expressions := by
        simpa [Program.expressions, Program.ofItems, or_assoc] using member
      exact split.elim (low.2 e) (heights e)
  | statement s =>
      refine ⟨.statement low.1 derived, fun e member => ?_⟩
      have split : e ∈ s.expressions ∨ e ∈ (Program.ofItems others).expressions := by
        simp only [Program.expressions, Program.ofItems, List.filterMap_cons,
          Stmt.expressionsOfAll, List.mem_append] at member ⊢
        rcases member with inside | inside | inside
        · exact .inr (.inl inside)
        · exact .inl inside
        · exact .inr (.inr inside)
      exact split.elim (low.2 e) (heights e)

/-- Items and the end of input are the program of the items. -/
theorem lowSource_flatMap : ∀ {parts : List (List Token × Item)},
    (∀ part ∈ parts, LowItem nesting part.1 part.2) →
    LowSource nesting (parts.flatMap Prod.fst ++ [.endOfInput]) (.ofItems (parts.map Prod.snd))
  | [], _ => lowSource_end
  | part :: parts, low => by
      obtain ⟨first, others⟩ := List.forall_mem_cons.1 low
      rw [List.flatMap_cons, List.append_assoc]
      exact lowSource_cons first (lowSource_flatMap others)


/-- Where every item is well formed, the tokens are derived as the program of the items. -/
theorem lowSource_of_items {turns : Nat} : ∀ count ts (found : List Item), EndsOnce ts →
    ts.length ≤ turns → ts.length ≤ count → items turns count ts = found.map .ok →
    LowSource maxNesting (tokensOf ts) (.ofItems found) := by
  intro count
  induction count with
  | zero =>
      intro ts found ends _ none _
      exact absurd (List.eq_nil_of_length_eq_zero (by omega)) ends.ne_nil
  | succ count ih =>
      intro ts found ends short le h
      cases ts with
      | nil => exact absurd rfl ends.ne_nil
      | cons l tail =>
          unfold items at h
          split at h
          next atEnd =>
            obtain rfl : found = [] := by simpa using h.symm
            obtain rfl := ends.eq_singleton atEnd
            have spelled : tokensOf [l] = [.endOfInput] := by simp [tokensOf, atEnd]
            exact spelled ▸ lowSource_end
          next =>
            split at h
            next first rest readFirst =>
              obtain ⟨_, others, rfl, ⟨⟩, sameItems⟩ := List.map_eq_cons_iff.1 h.symm
              obtain ⟨word, split, ends', low⟩ :=
                reads_item turns (l :: tail) first rest ends short readFirst
              have some : word ≠ [] := by
                rintro rfl
                exact word_ne_nil_of_item low rfl
              have shorter : rest.length < (l :: tail).length := by
                rw [split, List.length_append]
                have := List.length_pos_iff.2 some
                omega
              have source := ih rest others ends' (by omega) (by omega) sameItems.symm
              rw [split]
              simpa [tokensOf] using lowSource_cons low source
            next => cases found <;> simp at h

end Items
end Parse

theorem problemsOf_map_ok (found : List Parse.Item) : problemsOf (found.map .ok) = [] := by
  simp [problemsOf]

theorem wellFormed_map_ok (found : List Parse.Item) : wellFormed (found.map .ok) = found := by
  induction found with
  | nil => rfl
  | cons item found ih =>
      change item :: wellFormed (found.map .ok) = item :: found
      rw [ih]

/-- Items without a problem are the well-formed ones. -/
theorem eq_map_wellFormed {items : List (Except Problem Parse.Item)}
    (noProblems : problemsOf items = []) : items = (wellFormed items).map .ok := by
  induction items with
  | nil => rfl
  | cons item items ih =>
      cases item with
      | error problem => simp [problemsOf] at noProblems
      | ok item =>
          have rest := ih (by simpa [problemsOf] using noProblems)
          simpa [wellFormed] using rest

/-- The parser has a program when every item is well formed; it is the program of the items. -/
theorem parseTokens_eq_ok_iff {ts : List Located} {program : Program} :
    parseTokens ts = .ok program ↔
      ∃ found : List Parse.Item, Parse.items ts.length ts.length ts = found.map .ok ∧
        program = .ofItems found := by
  unfold parseTokens
  dsimp only
  generalize Parse.items ts.length ts.length ts = items
  constructor
  · intro h
    split at h
    next noProblems =>
      cases h
      refine ⟨wellFormed items, ?_, rfl⟩
      exact eq_map_wellFormed (List.isEmpty_iff.1 noProblems)
    next => cases h
  · rintro ⟨found, rfl, rfl⟩
    rw [problemsOf_map_ok, wellFormed_map_ok]
    rfl

/-- Otherwise it has problems. -/
theorem parseTokens_error_of_not_ok {ts : List Located}
    (fails : ∀ program, parseTokens ts ≠ .ok program) :
    ∃ problems, problems ≠ [] ∧ parseTokens ts = .error problems := by
  cases h : parseTokens ts with
  | ok program => exact absurd h (fails program)
  | error problems =>
      refine ⟨problems, ?_, rfl⟩
      unfold parseTokens at h
      dsimp only at h
      split at h
      · cases h
      next some =>
        cases h
        simpa using some

end Script
end StagedScript
