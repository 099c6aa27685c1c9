import StagedScript.Proofs.Script.Lines

/-!
# Places in blocks

A place is a derivation with a hole: what stands in front of a statement in the blocks around it,
and what stands behind it, in pieces. The pieces that are marked belong to a block around the place:
its closing brace, and the else parts behind it. All others are statements and items.

**Results.** With a statement in a place of a source, the whole is a program (`SourcePlace.fill`).
With a malformed line in a place of an item, the item fails in the line (`ItemPlace.comesTo`).
-/

namespace StagedScript
namespace Script

open Grammar

namespace Parse

/-- Words of statements, with their statements. -/
def Lows (nesting : Nat) (parts : List (List Token × Stmt)) : Prop :=
  ∀ part ∈ parts, LowStatement nesting part.1 part.2

/-- Behind a place in a block: the statements up to the end of the block, and the closing brace. -/
def closing (after : List (List Token × Stmt)) : List (List Token × Bool) :=
  after.map (fun part => (part.1, false)) ++ [([.symbol .rightBrace], true)]

@[simp] theorem flatMap_closing (after : List (List Token × Stmt)) :
    (closing after).flatMap Prod.fst = after.flatMap Prod.fst ++ [.symbol .rightBrace] := by
  simp [closing, List.flatMap_map]

/-- The else parts of a condition behind its first block. -/
inductive ElseParts (nesting : Nat) : List (List Token) → Prop
  | none : ElseParts nesting []
  | block {no : List (List Token × Stmt)} :
      Lows nesting no → ElseParts nesting [.keyword .else_ :: braced (no.flatMap Prod.fst)]
  | again {test : List Token} {e : Expr} {yes : List (List Token × Stmt)}
      {others : List (List Token)} :
      LowExpression (nesting + 1) .disjunction test e → Lows nesting yes →
      ElseParts nesting others →
      ElseParts nesting
        ((.keyword .else_ :: .keyword .if_ ::
          (parenthesized test ++ braced (yes.flatMap Prod.fst))) :: others)

/-- `Place inner outer front behind` is a place for statements of the inner nesting in a statement
of the outer one. -/
inductive Place (inner : Nat) : Nat → List Token → List (List Token × Bool) → Prop
  | hole : Place inner inner [] []
  | yes {nesting : Nat} {test front : List Token} {e : Expr}
      {before after : List (List Token × Stmt)} {others : List (List Token)}
      {behind : List (List Token × Bool)} :
      LowExpression (nesting + 1) .disjunction test e →
      Lows nesting before → Lows nesting after → ElseParts nesting others →
      Place inner nesting front behind →
      Place inner (nesting + 1)
        (.keyword .if_ :: (parenthesized test ++
          .symbol .leftBrace :: (before.flatMap Prod.fst ++ front)))
        (behind ++ (closing after ++ others.map (·, true)))
  | no {nesting : Nat} {test front : List Token} {e : Expr}
      {yes before after : List (List Token × Stmt)} {behind : List (List Token × Bool)} :
      LowExpression (nesting + 1) .disjunction test e →
      Lows nesting yes → Lows nesting before → Lows nesting after →
      Place inner nesting front behind →
      Place inner (nesting + 1)
        (.keyword .if_ :: (parenthesized test ++ (braced (yes.flatMap Prod.fst) ++
          .keyword .else_ :: .symbol .leftBrace :: (before.flatMap Prod.fst ++ front))))
        (behind ++ closing after)
  | elseIf {nesting : Nat} {test front : List Token} {e : Expr} {yes : List (List Token × Stmt)}
      {behind : List (List Token × Bool)} :
      LowExpression (nesting + 1) .disjunction test e → Lows nesting yes →
      Place inner (nesting + 1) (.keyword .if_ :: front) behind →
      Place inner (nesting + 1)
        (.keyword .if_ :: (parenthesized test ++ (braced (yes.flatMap Prod.fst) ++
          .keyword .else_ :: .keyword .if_ :: front)))
        behind
  | loop {nesting : Nat} {test front : List Token} {e : Expr}
      {before after : List (List Token × Stmt)} {behind : List (List Token × Bool)} :
      LowExpression (nesting + 1) .disjunction test e →
      Lows nesting before → Lows nesting after → Place inner nesting front behind →
      Place inner (nesting + 1)
        (.keyword .while_ :: (parenthesized test ++
          .symbol .leftBrace :: (before.flatMap Prod.fst ++ front)))
        (behind ++ closing after)

/-- Places in the blocks of an item. -/
inductive ItemPlace (inner : Nat) : List Token → List (List Token × Bool) → Prop
  | statement {t : Token} {front : List Token} {behind : List (List Token × Bool)} :
      Place inner maxNesting (t :: front) behind → ItemPlace inner (t :: front) behind
  | operation {nesting : Nat} {name : String} {params : List String} {front : List Token}
      {before after : List (List Token × Stmt)} {behind : List (List Token × Bool)} :
      nesting + 1 = maxNesting → Lows nesting before → Lows nesting after →
      Place inner nesting front behind →
      ItemPlace inner
        (.keyword .operation :: .name name ::
          (parenthesized (separated (params.map fun param => [.name param])) ++
            .symbol .leftBrace :: (before.flatMap Prod.fst ++ front)))
        (behind ++ closing after)

/-- Places in the blocks of a source, with whole items in front of the place and behind it. -/
inductive SourcePlace (inner : Nat) : List Token → List (List Token × Bool) → Prop
  | items {before after : List (List Token × Item)} {front : List Token}
      {behind : List (List Token × Bool)} :
      (∀ part ∈ before, LowItem maxNesting part.1 part.2) →
      (∀ part ∈ after, LowItem maxNesting part.1 part.2) →
      ItemPlace inner front behind →
      SourcePlace inner (before.flatMap Prod.fst ++ front)
        (behind ++ after.map fun part => (part.1, false))

section Filling

variable {inner outer nesting : Nat} {word front : List Token} {s : Stmt}
  {behind : List (List Token × Bool)}

theorem innerBlock_of_lows {parts : List (List Token × Stmt)} (low : Lows nesting parts) :
    InnerBlock (nesting + 1) (braced (parts.flatMap Prod.fst)) (parts.map Prod.snd) :=
  ⟨nesting, rfl, parts, rfl, rfl, low⟩

/-- A condition with its else parts is a statement. -/
theorem ElseParts.exists_low {others : List (List Token)} (parts : ElseParts nesting others)
    {test blockWord : List Token} {e : Expr} {yes : List Stmt}
    (low : LowExpression (nesting + 1) .disjunction test e)
    (block : InnerBlock (nesting + 1) blockWord yes) :
    ∃ no, LowStatement (nesting + 1)
      (.keyword .if_ :: (parenthesized test ++ blockWord ++ others.flatten)) (.cond e yes no) := by
  induction parts generalizing test blockWord e yes with
  | none =>
      refine ⟨[], ?_⟩
      rw [List.flatten_nil, List.append_nil]
      exact lowStatement_cond ⟨test, rfl, low⟩ block
  | @block no lowNo =>
      refine ⟨no.map Prod.snd, ?_⟩
      rw [List.flatten_singleton]
      exact lowStatement_condElse ⟨test, rfl, low⟩ block (innerBlock_of_lows lowNo)
  | @again _ again first _ lowAgain lowFirst _ ih =>
      obtain ⟨no, further⟩ := ih lowAgain (innerBlock_of_lows lowFirst)
      refine ⟨[.cond again (first.map Prod.snd) no], ?_⟩
      simpa using lowStatement_condElseIf ⟨test, rfl, low⟩ block further

/-- A block with the whole of a place among its statements. -/
theorem innerBlock_of_place {before after : List (List Token × Stmt)} {filled : Stmt}
    (lowBefore : Lows nesting before) (lowAfter : Lows nesting after)
    (low : LowStatement nesting word filled) :
    InnerBlock (nesting + 1)
      (.symbol .leftBrace :: (before.flatMap Prod.fst ++
        (word ++ (after.flatMap Prod.fst ++ [.symbol .rightBrace]))))
      (before.map Prod.snd ++ filled :: after.map Prod.snd) := by
  have all : Lows nesting (before ++ (word, filled) :: after) :=
    List.forall_mem_append.2 ⟨lowBefore, List.forall_mem_cons.2 ⟨low, lowAfter⟩⟩
  simpa [braced] using innerBlock_of_lows all

/-- With a statement in the place, the whole is a statement; a condition remains one. -/
theorem Place.fill (place : Place inner outer front behind) (low : LowStatement inner word s) :
    ∃ filled, LowStatement outer (front ++ (word ++ behind.flatMap Prod.fst)) filled ∧
      ((∃ tail, front = .keyword .if_ :: tail) → ∃ test yes no, filled = .cond test yes no) := by
  induction place with
  | hole => exact ⟨s, by simpa using low, nofun⟩
  | @yes _ _ _ e before after _ _ lowTest lowBefore lowAfter others _ ih =>
      obtain ⟨filled, lowFilled, -⟩ := ih
      obtain ⟨no, whole⟩ :=
        others.exists_low lowTest (innerBlock_of_place lowBefore lowAfter lowFilled)
      refine ⟨.cond e (before.map Prod.snd ++ filled :: after.map Prod.snd) no, ?_,
        fun _ => ⟨_, _, _, rfl⟩⟩
      simpa [List.flatMap_map] using whole
  | @no _ _ _ e yes before after _ lowTest lowYes lowBefore lowAfter _ ih =>
      obtain ⟨filled, lowFilled, -⟩ := ih
      have whole := lowStatement_condElse ⟨_, rfl, lowTest⟩ (innerBlock_of_lows lowYes)
        (innerBlock_of_place lowBefore lowAfter lowFilled)
      refine ⟨.cond e (yes.map Prod.snd) (before.map Prod.snd ++ filled :: after.map Prod.snd), ?_,
        fun _ => ⟨_, _, _, rfl⟩⟩
      simpa using whole
  | @elseIf _ _ _ e yes _ lowTest lowYes _ ih =>
      obtain ⟨filled, lowFilled, isCond⟩ := ih
      obtain ⟨test, again, no, rfl⟩ := isCond ⟨_, rfl⟩
      have whole := lowStatement_condElseIf ⟨_, rfl, lowTest⟩ (innerBlock_of_lows lowYes) lowFilled
      refine ⟨.cond e (yes.map Prod.snd) [.cond test again no], ?_, fun _ => ⟨_, _, _, rfl⟩⟩
      simpa using whole
  | @loop _ _ _ e before after _ lowTest lowBefore lowAfter _ ih =>
      obtain ⟨filled, lowFilled, -⟩ := ih
      have whole := lowStatement_loop ⟨_, rfl, lowTest⟩
        (innerBlock_of_place lowBefore lowAfter lowFilled)
      refine ⟨.loop e (before.map Prod.snd ++ filled :: after.map Prod.snd), ?_, nofun⟩
      simpa using whole

theorem ItemPlace.fill (place : ItemPlace inner front behind) (low : LowStatement inner word s) :
    ∃ found, LowItem maxNesting (front ++ (word ++ behind.flatMap Prod.fst)) found := by
  cases place with
  | statement place =>
      obtain ⟨filled, lowFilled, -⟩ := place.fill low
      exact ⟨.statement filled, lowFilled⟩
  | @operation nesting name params _ before after _ room lowBefore lowAfter place =>
      obtain ⟨filled, lowFilled, -⟩ := place.fill low
      obtain ⟨_, ⟨⟩, parts, spelled, same, all⟩ :=
        innerBlock_of_place lowBefore lowAfter lowFilled
      refine ⟨.operation ⟨name, params, parts.map Prod.snd⟩, ?_, low_of_lowStatements all⟩
      rw [← room]
      have derived := Declaration.operation name params parts fun part member => (all part member).1
      rw [← spelled] at derived
      simpa using derived

/-- With a statement in the place, the whole is a program. -/
theorem SourcePlace.fill (place : SourcePlace inner front behind)
    (low : LowStatement inner word s) :
    ∃ program, LowSource maxNesting
      (front ++ (word ++ (behind.flatMap Prod.fst ++ [.endOfInput]))) program := by
  cases place with
  | @items before after front behind lowBefore lowAfter place =>
      obtain ⟨found, lowFound⟩ := place.fill low
      have low : ∀ part ∈ before ++ (_, found) :: after, LowItem maxNesting part.1 part.2 :=
        List.forall_mem_append.2 ⟨lowBefore, List.forall_mem_cons.2 ⟨lowFound, lowAfter⟩⟩
      have all := lowSource_flatMap low
      exact ⟨_, by simpa [List.flatMap_map] using all⟩

end Filling

/-- A word that, if it has tokens, begins as a statement does. -/
def Opens (word : List Token) : Prop :=
  ∀ t ∈ word.head?, t ≠ .symbol .rightBrace ∧ t ≠ .endOfInput ∧ t ≠ .keyword .else_ ∧
    t ≠ .keyword .operation

theorem opens_statement {nesting : Nat} {word : List Token} {s : Stmt}
    (derived : Statement nesting word s) : Opens word := by
  obtain ⟨t, tail, rfl, begins⟩ := exists_head_of_statement derived
  rintro _ ⟨⟩
  exact begins

theorem Place.opens {inner outer : Nat} {front : List Token} {behind : List (List Token × Bool)}
    (place : Place inner outer front behind) : Opens front := by
  cases place <;> simp [Opens]

theorem Opens.statements {nesting : Nat} {word : List Token} (opens : Opens word)
    {before : List (List Token × Stmt)} (low : Lows nesting before) :
    Opens (before.flatMap Prod.fst ++ word) := by
  cases before with
  | nil => exact opens
  | cons part before =>
      have first := low part List.mem_cons_self
      intro t isHead
      refine opens_statement first.1 t ?_
      obtain ⟨t', tail, isWord, -⟩ := exists_head_of_statement first.1
      simpa [isWord] using isHead

section Failing

variable {turns inner outer nesting : Nat} {word front : List Token}
  {behind : List (List Token × Bool)} {chunk more ts : List Located}

/-- Before a line, or before statements in front of it, no block ends. -/
theorem Opens.headToken_ne (opens : Opens word) (line : Line chunk) (spelled : tokensOf ts = word)
    (more : List Located) :
    headToken (ts ++ (chunk ++ more)) ≠ .symbol .rightBrace ∧
      headToken (ts ++ (chunk ++ more)) ≠ .endOfInput := by
  cases ts with
  | nil =>
      obtain ⟨l, tail, rfl⟩ := line.exists_cons
      have other : ∀ t, ¬ Flat t → t ≠ .symbol .semicolon → l.token ≠ t :=
        fun t notFlat notStop => line.token_ne notFlat notStop l (by simp)
      exact ⟨other _ (by simp [Flat]) (by simp), other _ (by simp [Flat]) (by simp)⟩
  | cons l ts =>
      subst spelled
      obtain ⟨notBrace, notEnd, -⟩ := opens l.token (by simp [tokensOf])
      exact ⟨notBrace, notEnd⟩

/-- A statement is taken before others, unless it stands before the line. -/
theorem takenOrFailed_statement (line : Line chunk) (opens : Opens word)
    {part : List Token × Stmt} (low : LowStatement nesting part.1 part.2) {head : List Located}
    (spelledHead : tokensOf head = part.1) (spelled : tokensOf ts = word)
    (short : (head ++ (ts ++ (chunk ++ more))).length ≤ turns) :
    Yields (statement turns nesting) (head ++ (ts ++ (chunk ++ more))) part.2
        (ts ++ (chunk ++ more)) ∨
      FailedIn chunk more
        ((statement turns nesting).run.run (head ++ (ts ++ (chunk ++ more)))) := by
  cases ts with
  | nil => exact comesTo_statement_line line low head spelledHead short
  | cons l ts =>
      subst spelled
      exact .inl ((accepts_of_statement turns low.1 low.2).1 head _ spelledHead short
        (opens l.token (by simp [tokensOf])).2.2.1)

/-- Where a block does not end, another statement is read. -/
theorem run_statementsToBrace {p : Parse Stmt} {count : Nat}
    (notBrace : headToken ts ≠ .symbol .rightBrace) (notEnd : headToken ts ≠ .endOfInput) :
    (statementsToBrace p (count + 1)).run.run ts =
      (do return (← p) :: (← statementsToBrace p count) : Parse (List Stmt)).run.run ts := by
  rw [statementsToBrace, run_bind_of_yields yields_peek]
  split
  next isBrace => exact absurd isBrace notBrace
  next isEnd => exact absurd isEnd notEnd
  next => rfl

/-- The statements in front of a place are taken, unless the line in the place puts an end to the
last of them. -/
theorem comesTo_statementsToBrace (line : Line chunk) (opens : Opens front)
    (comes : ComesTo turns (statement turns nesting) front (chunk ++ more) (FailedIn chunk more)) :
    ∀ (before : List (List Token × Stmt)) (count : Nat), count ≤ turns → Lows nesting before →
      ComesTo count (statementsToBrace (statement turns nesting) count)
        (before.flatMap Prod.fst ++ front) (chunk ++ more) (FailedIn chunk more) := by
  intro before count
  induction before generalizing count with
  | nil =>
      intro le low ts spelled short
      obtain ⟨notBrace, notEnd⟩ := (opens.statements low).headToken_ne line spelled more
      cases count with
      | zero =>
          obtain ⟨l, tail, rfl⟩ := line.exists_cons
          simp at short
      | succ count =>
          rw [run_statementsToBrace notBrace notEnd]
          exact (comes ts spelled (Nat.le_trans short le)).bind
  | cons part before ih =>
      intro le low ts spelled short
      obtain ⟨notBrace, notEnd⟩ := (opens.statements low).headToken_ne line spelled more
      obtain ⟨lowPart, lowBefore⟩ := List.forall_mem_cons.1 low
      rw [List.flatMap_cons, List.append_assoc] at spelled
      obtain ⟨head, tail, rfl, spelledHead, spelledTail⟩ := tokensOf_eq_append_iff.1 spelled
      have some := List.length_pos_iff.2 (word_ne_nil_of_statement lowPart.1)
      rw [← spelledHead, tokensOf, List.length_map] at some
      rw [List.append_assoc] at short notBrace notEnd ⊢
      cases count with
      | zero => simp only [List.length_append] at short; omega
      | succ count =>
          rw [run_statementsToBrace notBrace notEnd]
          rcases takenOrFailed_statement line (opens.statements lowBefore) lowPart spelledHead
            spelledTail (Nat.le_trans short le) with read | failed
          · rw [run_bind_of_yields read]
            rw [List.length_append] at short
            exact (ih count (by omega) lowBefore tail spelledTail (by omega)).bind
          · exact failed.bind

/-- A block fails in the line in a place. -/
theorem comesTo_block (line : Line chunk) (opens : Opens front) {before : List (List Token × Stmt)}
    (low : Lows nesting before)
    (comes : ComesTo turns (statement turns nesting) front (chunk ++ more) (FailedIn chunk more)) :
    ComesTo turns (block turns (nesting + 1))
      (.symbol .leftBrace :: (before.flatMap Prod.fst ++ front)) (chunk ++ more)
      (FailedIn chunk more) :=
  comesTo_expect_bind (by simp)
    (comesTo_statementsToBrace line opens comes before turns (Nat.le_refl turns) low)

/-- A loop comes to what its block comes to. -/
theorem comesTo_loop {test blockWord : List Token} {e : Expr}
    (low : LowExpression nesting .disjunction test e)
    (comes : ComesTo turns (block turns nesting) blockWord (chunk ++ more) (FailedIn chunk more)) :
    ComesTo turns (statement turns nesting) (.keyword .while_ :: (parenthesized test ++ blockWord))
      (chunk ++ more) (FailedIn chunk more) := by
  rw [statement_eq]
  unfold statementOver
  refine comesTo_peek_bind (comesTo_advance_bind_left (by simp) ?_)
  rw [← block_eq]
  refine comesTo_bind ((accepts_test low).mono (Nat.sub_le ..)) ?_
  exact (comes.mono (Nat.sub_le ..) fun _ => id).bind

/-- A place fails where the line in it does. The induction carries along that conditions fail, which
stand behind `else`. -/
theorem Place.comesTo (place : Place inner outer front behind) (malformed : Malformed chunk)
    (ends : EndsOnce more) :
    outer ≤ maxNesting →
      ComesTo turns (statement turns outer) front (chunk ++ more) (FailedIn chunk more) ∧
        ((∃ tail, front = .keyword .if_ :: tail) →
          ConditionalComesTo turns outer front (chunk ++ more) (FailedIn chunk more)) := by
  have line := malformed.1
  induction place with
  | hole =>
      refine fun le => ⟨fun ts spelled short => ?_, nofun⟩
      obtain rfl : ts = [] := List.map_eq_nil_iff.1 spelled
      exact failedIn_statement malformed le ends short
  | yes lowTest lowBefore lowAfter others place ih =>
      intro le
      have comes := comesTo_block line place.opens lowBefore (ih (Nat.le_of_succ_le le)).1
      have further := conditionalComesTo_of_block lowTest fun count le' =>
        (comes.mono le' fun _ => id).bind
      exact ⟨comesTo_of_conditional further, fun _ => further⟩
  | no lowTest lowYes lowBefore lowAfter place ih =>
      intro le
      have comes := comesTo_block line place.opens lowBefore (ih (Nat.le_of_succ_le le)).1
      have further := conditionalComesTo_of_branches lowTest (accepts_braced lowYes)
        fun count le' => comesTo_branches_else ((comes.mono le' fun _ => id).bind)
      exact ⟨comesTo_of_conditional further, fun _ => further⟩
  | elseIf lowTest lowYes place ih =>
      intro le
      have again := (ih le).2 ⟨_, rfl⟩
      have further := conditionalComesTo_of_branches lowTest (accepts_braced lowYes)
        fun count le' => comesTo_branches_elseIf (again count le').bind
      exact ⟨comesTo_of_conditional further, fun _ => further⟩
  | loop lowTest lowBefore lowAfter place ih =>
      intro le
      have comes := comesTo_block line place.opens lowBefore (ih (Nat.le_of_succ_le le)).1
      exact ⟨comesTo_loop lowTest comes, nofun⟩

/-- An item fails where the line in a place of it does. -/
theorem ItemPlace.comesTo (place : ItemPlace inner front behind) (malformed : Malformed chunk)
    (ends : EndsOnce more) :
    ComesTo turns (item turns) front (chunk ++ more) (FailedIn chunk more) := by
  unfold item
  cases place with
  | @statement t front behind place =>
      have comes : ComesTo turns (Parse.statement turns maxNesting) (t :: front) (chunk ++ more)
          (FailedIn chunk more) := (place.comesTo malformed ends (Nat.le_refl _)).1
      refine comesTo_peek_bind ?_
      rw [if_neg (place.opens t rfl).2.2.2]
      exact comes.bind
  | operation room lowBefore lowAfter place =>
      have le := Nat.le_of_succ_le (Nat.le_of_eq room)
      have comes : ComesTo turns _ _ (chunk ++ more) (FailedIn chunk more) :=
        comesTo_block malformed.1 place.opens lowBefore (place.comesTo malformed ends le).1
      rw [room] at comes
      refine comesTo_peek_bind ?_
      rw [if_pos rfl]
      refine ComesTo.bind ?_
      unfold Parse.operation
      refine comesTo_expect_bind (by simp) (comesTo_bind accepts_name ?_)
      refine comesTo_expect_bind (by simp) ?_
      exact comesTo_bind (accepts_params turns _) comes.bind

end Failing
end Parse
end Script
end StagedScript
