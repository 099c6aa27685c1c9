import StagedScript.Proofs.Script.Soundness

/-!
# Derived expressions are parsed

A word of one level of expressions is not self-delimiting: behind it, no operator of that level or
a tighter one may follow, and no parenthesis, which would make a call of a name.

The rule for chains is left-recursive while the parser goes from left to right. The induction
therefore says how the parser goes on from any word of a level: `Chained` follows the turns that
it takes from there.

**Results.** Every derived expression that is not too tall is accepted where it may stand
(`accepts_expression`).
-/

namespace StagedScript
namespace Script

open Grammar

/-- The tokens that stand in expressions. -/
def InExpression : Token → Prop
  | .keyword word => word ∈ [.true_, .false_, .null, .and, .or, .not]
  | .symbol mark => mark ∉ [.leftBrace, .rightBrace, .semicolon, .assign]
  | .endOfInput => False
  | _ => True

theorem inExpression_of_mem_separated {words : List (List Token)}
    (all : ∀ word ∈ words, ∀ t ∈ word, InExpression t) :
    ∀ t ∈ separated words, InExpression t := by
  induction words with
  | nil => simp [separated]
  | cons word words ih =>
      cases words with
      | nil => simpa [separated_singleton] using all
      | cons second words =>
          intro t member
          rw [separated_cons_cons, List.mem_append, List.mem_cons] at member
          rcases member with member | rfl | member
          · exact all word (by simp) t member
          · simp [InExpression]
          · exact ih (fun word h => all word (by simp [h])) t member

theorem inExpression_of_mem_parenthesized {word : List Token}
    (all : ∀ t ∈ word, InExpression t) : ∀ t ∈ parenthesized word, InExpression t := by
  intro t member
  simp only [parenthesized, List.mem_cons, List.mem_append, List.not_mem_nil, or_false] at member
  rcases member with rfl | member | rfl
  · simp [InExpression]
  · exact all t member
  · simp [InExpression]

/-- An expression has none of the tokens that structure statements. -/
theorem inExpression_of_mem {nesting : Nat} {level : Level} {word : List Token} {e : Expr}
    (derived : Expression nesting level word e) : ∀ t ∈ word, InExpression t := by
  induction derived with
  | call name arguments _ ih =>
      intro t member
      rcases List.mem_cons.1 member with rfl | member
      · trivial
      · refine inExpression_of_mem_parenthesized (inExpression_of_mem_separated ?_) t member
        intro word inWords
        obtain ⟨argument, inArguments, rfl⟩ := List.mem_map.1 inWords
        exact ih argument inArguments
  | parens _ ih => exact inExpression_of_mem_parenthesized ih
  | unary op _ ih =>
      intro t member
      rcases List.mem_cons.1 member with rfl | member
      · cases op <;> simp [UnaryOp.token, InExpression]
      · exact ih t member
  | binary op _ _ ihLeft ihRight =>
      intro t member
      rw [List.mem_append, List.mem_cons] at member
      rcases member with member | rfl | member
      · exact ihLeft t member
      · cases op <;> simp [BinaryOp.token, InExpression]
      · exact ihRight t member
  | tighter _ _ ih => exact ih
  | _ => simp [InExpression]

/-- An expression begins with a token other than a closing parenthesis. -/
theorem exists_head_of_expression {nesting : Nat} {level : Level} {word : List Token} {e : Expr}
    (derived : Expression nesting level word e) :
    ∃ t tail, word = t :: tail ∧ t ≠ .symbol .rightParen := by
  induction derived with
  | unary op => exact ⟨_, _, rfl, by cases op <;> simp [UnaryOp.token]⟩
  | binary op _ _ ihLeft =>
      obtain ⟨t, tail, rfl, other⟩ := ihLeft
      exact ⟨t, tail ++ op.token :: _, rfl, other⟩
  | tighter _ _ ih => exact ih
  | _ => exact ⟨_, _, rfl, by simp⟩

namespace Parse

variable {α : Type}

/-- The tokens that may follow an expression of a level: they do not go on with it. -/
def Stops (level : Level) (t : Token) : Prop :=
  t ≠ .symbol .leftParen ∧ ∀ op : BinaryOp, op.token = t → op.level.rank < level.rank

theorem Stops.tighter {level : Level} {t : Token} (stops : Stops level t) :
    Stops level.next t := by
  refine ⟨stops.1, fun op isOp => Nat.lt_of_lt_of_le (stops.2 op isOp) ?_⟩
  cases level <;> decide

/-- An operator follows what binds tighter than it does. -/
theorem stops_token (op : BinaryOp) : Stops op.level.next op.token := by
  refine ⟨by cases op <;> simp [BinaryOp.token], fun other same => ?_⟩
  cases op <;> cases other <;> first | decide | simp [BinaryOp.token] at same

/-- Where a level stops, none of its operators follows. -/
theorem operatorAt_eq_none_of_stops {level : Level} {t : Token} (stops : Stops level t) :
    operatorAt level t = none := by
  cases found : operatorAt level t with
  | none => rfl
  | some op =>
      obtain ⟨rfl, isOp⟩ := operatorAt_eq_some_iff.1 found
      exact absurd (stops.2 op isOp) (Nat.lt_irrefl _)

theorem stops_rightParen (level : Level) : Stops level (.symbol .rightParen) :=
  ⟨by simp, fun op isOp => by cases op <;> simp [BinaryOp.token] at isOp⟩

theorem stops_comma (level : Level) : Stops level (.symbol .comma) :=
  ⟨by simp, fun op isOp => by cases op <;> simp [BinaryOp.token] at isOp⟩

theorem stops_semicolon (level : Level) : Stops level (.symbol .semicolon) :=
  ⟨by simp, fun op isOp => by cases op <;> simp [BinaryOp.token] at isOp⟩

/-- How a chain goes on from its left operand: turn by turn, to where no operator follows. -/
inductive Chained (level : Level) (operand : Parse Expr) :
    Expr → List Located → Expr → List Located → Prop
  | stop {left : Expr} {ts : List Located} :
      operatorAt level (headToken ts) = none →
      Chained level operand left ts left ts
  | step {left right e : Expr} {l : Located} {word mid rest : List Located} {op : BinaryOp} :
      operatorAt level l.token = some op →
      Yields operand (word ++ mid) right mid →
      (Expr.binary op left right).height ≤ maxNesting →
      Chained level operand (.binary op left right) mid e rest →
      Chained level operand left (l :: (word ++ mid)) e rest

/-- With a turn for every token, the loop of a chain goes all the way. -/
theorem yields_chainFrom {level : Level} {operand : Parse Expr} {left e : Expr}
    {ts rest : List Located} (chained : Chained level operand left ts e rest) :
    ∀ turns, ts.length ≤ turns →
      Yields (chainFrom (operatorAt level) operand turns left) ts e rest := by
  induction chained with
  | stop none =>
      intro turns _
      cases turns with
      | zero => exact yields_pure.2 ⟨rfl, rfl⟩
      | succ turns =>
          unfold chainFrom
          rw [yields_peek_bind, none]
          exact yields_pure.2 ⟨rfl, rfl⟩
  | @step left right e l word mid rest op found readRight low _ ih =>
      intro turns short
      cases turns with
      | zero => simp at short
      | succ turns =>
          have inside : l.token ≠ .endOfInput := by
            rw [← (operatorAt_eq_some_iff.1 found).2]
            exact op.token_ne_endOfInput
          unfold chainFrom
          rw [yields_peek_bind, headToken_cons, found]
          dsimp only
          rw [yields_advance_bind inside, yields_bind]
          refine ⟨right, mid, readRight, ?_⟩
          rw [yields_bind]
          refine ⟨_, mid, yields_checkHeight.2 ⟨low, rfl, rfl⟩, ih turns ?_⟩
          simp only [List.length_cons, List.length_append] at short
          omega

/-- Once the next level took the left operand, a level takes the chain from there. -/
theorem yields_atLevel {turns : Nat} {operand : Parse Expr} {level : Level} {left e : Expr}
    {ts mid rest : List Located} (short : mid.length ≤ turns)
    (readLeft : Yields (atLevel turns operand level.next) ts left mid)
    (chained : Chained level (atLevel turns operand level.next) left mid e rest) :
    Yields (atLevel turns operand level) ts e rest := by
  by_cases loose : level.rank < Level.operand.rank
  · rw [atLevel_eq_chain turns operand loose]
    exact yields_bind.2 ⟨left, mid, readLeft, yields_chainFrom chained turns short⟩
  · have tight : atLevel turns operand level = atLevel turns operand level.next ∧
        operatorAt level = fun _ => none := by
      cases level <;> first | exact absurd (by decide) loose | exact ⟨rfl, rfl⟩
    rw [tight.1]
    cases chained with
    | stop => exact readLeft
    | step found => simp [tight.2] at found

/-- The parser of operands with room for so much nesting, at a level. -/
abbrev expressionAt (turns nesting : Nat) (level : Level) : Parse Expr :=
  atLevel turns (unary turns nesting) level

/-- Behind a word of a level, the parser of the level goes on with the chain. This is what the
induction on derivations carries. -/
def Extends (turns nesting : Nat) (level : Level) (word : List Token) (e : Expr) : Prop :=
  ∀ ts rest e' rest', tokensOf ts = word → (ts ++ rest).length ≤ turns →
    Stops level.next (headToken rest) →
    Chained level (expressionAt turns nesting level.next) e rest e' rest' →
    Yields (expressionAt turns nesting level) (ts ++ rest) e' rest'

section Expressions

variable {turns nesting : Nat} {level : Level} {word : List Token} {e : Expr}

/-- Where no operator of the level follows, the word is all that the parser takes. -/
theorem Extends.accepts (extends_ : Extends turns nesting level word e) :
    Accepts turns (expressionAt turns nesting level) (Stops level) word e :=
  fun ts rest spelled short stops => extends_ ts rest e rest spelled short stops.tighter
    (.stop (operatorAt_eq_none_of_stops stops))

/-- Operands and what is tighter form no chains. -/
theorem extends_of_tight (tight : operatorAt level = fun _ => none)
    (accepts : Accepts turns (expressionAt turns nesting level) (Stops level.next) word e) :
    Extends turns nesting level word e := by
  intro ts rest e' rest' spelled short stops chained
  cases chained with
  | stop => exact accepts ts rest spelled short stops
  | step found => simp [tight] at found

theorem extends_tighter (inner : Extends turns nesting level.next word e) :
    Extends turns nesting level word e :=
  fun ts rest _ _ spelled short stops chained =>
    yields_atLevel (length_le_of_append short) (inner.accepts ts rest spelled short stops) chained

theorem extends_binary {left right : List Token} {a b : Expr} (op : BinaryOp)
    (low : (Expr.binary op a b).height ≤ maxNesting)
    (extendsLeft : Extends turns nesting op.level left a)
    (extendsRight : Extends turns nesting op.level.next right b) :
    Extends turns nesting op.level (left ++ op.token :: right) (.binary op a b) := by
  intro ts rest e' rest' spelled short stops chained
  obtain ⟨first, tail, rfl, spelledLeft, spelledTail⟩ := tokensOf_eq_append_iff.1 spelled
  obtain ⟨l, second, rfl, isOp, spelledRight⟩ := tokensOf_eq_cons_iff.1 spelledTail
  rw [List.append_assoc, List.cons_append] at short ⊢
  have short' := length_le_of_cons (length_le_of_append short)
  refine extendsLeft first (l :: (second ++ rest)) e' rest' spelledLeft short ?_ ?_
  · rw [headToken_cons, isOp]
    exact stops_token op
  · exact .step (operatorAt_eq_some_iff.2 ⟨rfl, isOp.symm⟩)
      (extendsRight.accepts second rest spelledRight short' stops) low chained

/-- Without a prefix operator, an operand is a primary expression. -/
theorem accepts_unary_of_primary {t : Token} {follow : Token → Prop} (primary : prefixOp? t = none)
    (accepts : Accepts turns (primaryOver turns (innerUnary turns nesting)) follow (t :: word) e) :
    Accepts turns (unary turns nesting) follow (t :: word) e := by
  rw [unary_eq]
  unfold unaryOver
  refine accepts_peek_bind ?_
  rw [primary]
  exact accepts

/-- The literals by their tokens. -/
def literal? : Token → Option Expr
  | .integer value => some (.integer value)
  | .real value => some (.real value)
  | .text value => some (.text value)
  | .keyword .true_ => some (.boolean true)
  | .keyword .false_ => some (.boolean false)
  | .keyword .null => some .null
  | _ => none

theorem extends_literal {t : Token} (literal : literal? t = some e) :
    Extends turns nesting .primary [t] e := by
  have leaf : Accepts turns (primaryOver turns (innerUnary turns nesting)) (Stops .primary) [t] e ∧
      prefixOp? t = none := by
    unfold primaryOver
    cases t with
    | keyword word =>
        cases word <;> cases literal
        all_goals exact ⟨accepts_peek_bind (accepts_advance_bind (by simp) accepts_pure), rfl⟩
    | integer | real | text =>
        cases literal
        exact ⟨accepts_peek_bind (accepts_advance_bind (by simp) accepts_pure), rfl⟩
    | _ => cases literal
  exact extends_of_tight rfl (accepts_unary_of_primary leaf.2 leaf.1)

theorem extends_name (name : String) :
    Extends turns nesting .primary [.name name] (.name name) := by
  refine extends_of_tight rfl (accepts_unary_of_primary rfl ?_)
  unfold primaryOver
  refine accepts_peek_bind (accepts_advance_bind (by simp) ?_)
  exact accepts_eat_bind_of_ne (by simp) (fun _ stops => stops.1) accepts_pure

theorem extends_unary (op : UnaryOp) (low : (Expr.unary op e).height ≤ maxNesting)
    (inner : Extends turns nesting .operand word e) :
    Extends turns (nesting + 1) .operand (op.token :: word) (.unary op e) := by
  refine extends_of_tight rfl ?_
  change Accepts turns (unary turns (nesting + 1)) _ _ _
  rw [unary_eq]
  unfold unaryOver
  refine accepts_peek_bind ?_
  rw [prefixOp?_eq_some_iff.2 rfl]
  refine accepts_advance_bind op.token_ne_endOfInput ?_
  refine accepts_bind_nil inner.accepts (accepts_checkHeight low) fun _ stops => ?_
  exact ⟨stops.1, fun other _ => by cases other <;> decide⟩

theorem extends_parens (inner : Extends turns nesting .disjunction word e) :
    Extends turns (nesting + 1) .primary (parenthesized word) e := by
  refine extends_of_tight rfl (accepts_unary_of_primary rfl ?_)
  unfold primaryOver
  refine accepts_peek_bind (accepts_advance_bind (by simp) ?_)
  exact accepts_bind inner.accepts (accepts_expect_bind (by simp) accepts_pure)
    fun _ _ => stops_rightParen .disjunction

end Expressions

section Lists

variable {turns : Nat} {item : Parse α} {follow : Token → Prop}

/-- Items are taken one after the other, where a comma or the closing parenthesis may follow
each. The parenthesis pays for the last turn. -/
theorem accepts_commaList (atComma : follow (.symbol .comma))
    (atParen : follow (.symbol .rightParen)) :
    ∀ parts : List (List Token × α), parts ≠ [] → ∀ turns,
      (∀ part ∈ parts, Accepts turns item follow part.1 part.2) →
      Accepts turns (commaList item turns) (· = .symbol .rightParen)
        (separated (parts.map Prod.fst)) (parts.map Prod.snd) := by
  intro parts
  induction parts with
  | nil => exact fun none => absurd rfl none
  | cons first parts ih =>
      intro _ turns accepts
      cases turns with
      | zero => exact accepts_zero_of_follow (by simp)
      | succ turns =>
          unfold commaList
          cases parts with
          | nil =>
              rw [List.map_singleton, separated_singleton]
              refine accepts_bind_nil (accepts first (by simp)) ?_ ?_
              · refine accepts_eat_bind_of_ne (by simp) ?_ accepts_pure
                rintro _ rfl
                simp [firstOf]
              · rintro _ rfl
                exact atParen
          | cons second parts =>
              rw [List.map_cons, List.map_cons, separated_cons_cons]
              refine accepts_bind (accepts first (by simp)) (accepts_eat_bind_left (by simp) ?_)
                fun _ _ => atComma
              have others := ih (by simp) turns fun part member =>
                (accepts part (by simp [member])).mono (Nat.le_succ turns)
              rw [if_pos rfl]
              exact accepts_bind_nil others accepts_pure fun _ isParen => isParen

/-- A list in front of its closing parenthesis, where no item begins with that. -/
theorem accepts_parenList (atComma : follow (.symbol .comma))
    (atParen : follow (.symbol .rightParen)) {parts : List (List Token × α)}
    (heads : ∀ part ∈ parts, ∃ t tail, part.1 = t :: tail ∧ t ≠ .symbol .rightParen)
    (accepts : ∀ part ∈ parts, Accepts turns item follow part.1 part.2) :
    Accepts turns (parenList turns item) (fun _ => True)
      (separated (parts.map Prod.fst) ++ [.symbol .rightParen]) (parts.map Prod.snd) := by
  unfold parenList
  cases parts with
  | nil =>
      refine accepts_peek_bind ?_
      rw [if_pos rfl, pure_bind]
      exact accepts_expect_bind (by simp) accepts_pure
  | cons first parts =>
      obtain ⟨t, tail, isFirst, other⟩ := heads first (by simp)
      obtain ⟨words, begins⟩ : ∃ words,
          separated ((first :: parts).map Prod.fst) = t :: words := by
        cases parts with
        | nil => exact ⟨tail, by simp [isFirst]⟩
        | cons second parts =>
            rw [List.map_cons, List.map_cons, separated_cons_cons, isFirst, List.cons_append]
            exact ⟨_, rfl⟩
      have items := accepts_commaList atComma atParen (first :: parts) (by simp) turns accepts
      rw [begins] at items ⊢
      refine accepts_peek_bind ?_
      rw [if_neg other]
      exact accepts_bind items (accepts_expect_bind (by simp) accepts_pure) fun _ _ => rfl

end Lists

/-- An expression of a list is no taller than the tallest. -/
theorem height_le_heightOfAll {e : Expr} : ∀ {all : List Expr}, e ∈ all →
    e.height ≤ Expr.heightOfAll all
  | other :: all, member => by
      rw [Expr.heightOfAll]
      rcases List.mem_cons.1 member with rfl | member
      · exact Nat.le_max_left _ _
      · exact Nat.le_trans (height_le_heightOfAll member) (Nat.le_max_right _ _)

theorem extends_call {turns nesting : Nat} (name : String) (arguments : List (List Token × Expr))
    (low : (Expr.call name (arguments.map Prod.snd)).height ≤ maxNesting)
    (heads : ∀ argument ∈ arguments,
      ∃ t tail, argument.1 = t :: tail ∧ t ≠ .symbol .rightParen)
    (inner : ∀ argument ∈ arguments,
      Extends turns nesting .disjunction argument.1 argument.2) :
    Extends turns (nesting + 1) .primary
      (.name name :: parenthesized (separated (arguments.map Prod.fst)))
      (.call name (arguments.map Prod.snd)) := by
  refine extends_of_tight rfl (accepts_unary_of_primary rfl ?_)
  unfold primaryOver
  refine accepts_peek_bind (accepts_advance_bind (by simp) (accepts_eat_bind (by simp) ?_))
  have list := accepts_parenList (stops_comma .disjunction) (stops_rightParen .disjunction) heads
    fun argument member => (inner argument member).accepts
  rw [if_pos rfl]
  exact accepts_bind_nil list (accepts_checkHeight low) fun _ _ => trivial

/-- Every derived expression that keeps the limit on heights is read, chain and all. -/
theorem extends_of_expression (turns : Nat) {nesting : Nat} {level : Level} {word : List Token}
    {e : Expr} (derived : Expression nesting level word e) (low : e.height ≤ maxNesting) :
    Extends turns nesting level word e := by
  induction derived with
  | name name => exact extends_name name
  | call name arguments derived ih =>
      refine extends_call name arguments low ?_ fun argument member => ih argument member ?_
      · exact fun argument member => exists_head_of_expression (derived argument member)
      · have inAll := height_le_heightOfAll (List.mem_map_of_mem (f := Prod.snd) member)
        rw [Expr.height] at low
        omega
  | parens _ ih => exact extends_parens (ih low)
  | unary op _ ih =>
      refine extends_unary op low (ih ?_)
      rw [Expr.height] at low
      omega
  | binary op _ _ ihLeft ihRight =>
      refine extends_binary op low (ihLeft ?_) (ihRight ?_) <;> rw [Expr.height] at low <;> omega
  | tighter _ _ ih => exact extends_tighter (ih low)
  | _ => exact extends_literal rfl

theorem accepts_expression (turns : Nat) {nesting : Nat} {word : List Token} {e : Expr}
    (low : LowExpression nesting .disjunction word e) :
    Accepts turns (expression turns nesting) (Stops .disjunction) word e :=
  (extends_of_expression turns low.1 low.2).accepts

end Parse
end Script
end StagedScript
