import StagedScript.Proofs.Script.Places
import StagedScript.Proofs.Script.Skipping

/-!
# What is left of abandoned blocks

A failure in a block abandons the block and those around it. What is behind the line that failed is
then parsed as if it stood outside of all blocks: its statements are items, but the braces that
close the abandoned blocks, and the else parts behind them, are none. Each of these is a problem of
its own, and is skipped as a whole.

**Results.** With a malformed line in a place, a source has the problem of the line, and one problem
more for each brace and each else part that is left of the blocks around it (`parseTokens_place`).
-/

namespace StagedScript
namespace Script

open Grammar

namespace Parse

/-- The tokens with which what is left of a block begins. -/
def EndsBlock (t : Token) : Prop :=
  t = .symbol .rightBrace ∨ t = .keyword .else_

/-! Where an item is to begin, an expression is expected in the place of such a token. -/

section Failing

variable {turns : Nat} {ts rest : List Located} {problem : Problem}

theorem fails_peek_bind {α : Type} {f : Token → Parse α}
    (failed : Fails (f (headToken ts)) ts problem rest) : Fails (peek >>= f) ts problem rest :=
  (run_bind_of_yields yields_peek).trans failed

theorem fails_levels {operand : Parse Expr} (failed : Fails operand ts problem rest) :
    Fails (levels turns operand) ts problem rest :=
  fails_bind (fails_bind (fails_bind (fails_bind (fails_bind (fails_bind failed)))))

theorem fails_expression (turns room : Nat) (ends : EndsBlock (headToken ts)) :
    Fails (expression turns room) ts (unexpectedAt "expression" ts) ts := by
  have noPrefix : prefixOp? (headToken ts) = none := by
    rcases ends with isBrace | isElse
    · rw [isBrace]
      rfl
    · rw [isElse]
      rfl
  refine fails_levels ?_
  rw [unary_eq]
  refine fails_peek_bind ?_
  rw [noPrefix]
  refine fails_peek_bind ?_
  rcases ends with isBrace | isElse
  · rw [isBrace]
    exact fails_unexpected "expression"
  · rw [isElse]
    exact fails_unexpected "expression"

theorem fails_item (ends : EndsBlock (headToken ts)) :
    Fails (item turns) ts (unexpectedAt "expression" ts) ts := by
  have failed := fails_expression turns maxNesting ends
  refine fails_peek_bind ?_
  rw [statement_eq]
  rcases ends with isBrace | isElse
  · rw [isBrace, if_neg (by simp)]
    refine fails_bind (fails_peek_bind ?_)
    rw [isBrace]
    exact fails_bind failed
  · rw [isElse, if_neg (by simp)]
    refine fails_bind (fails_peek_bind ?_)
    rw [isElse]
    exact fails_bind failed

end Failing

section Strays

variable {turns nesting : Nat} {word : List Token} {ts more : List Located}
  {problems : List Problem}

/-- A word that is left of a block, and is skipped as a whole where no brace is open. -/
structure Stray (word : List Token) : Prop where
  head : ∃ t tail, word = t :: tail ∧ EndsBlock t
  inside : ∀ t ∈ word, t ≠ .endOfInput
  skipped : ∀ ts more, tokensOf ts = word → recover 0 (ts ++ more) = more

theorem stray_rightBrace : Stray [.symbol .rightBrace] where
  head := ⟨_, [], rfl, .inl rfl⟩
  inside := by simp
  skipped := by
    intro ts more spelled
    obtain ⟨l, rfl, closes⟩ := tokensOf_eq_singleton_iff.1 spelled
    exact recover_rightBrace closes more

/-- What stands behind `else`, through the first block, is skipped with it. -/
theorem stray_else (head : List Token) {parts : List (List Token × Stmt)}
    (flat : ∀ t ∈ head, Flat t) (low : Lows nesting parts) :
    Stray (.keyword .else_ :: (head ++ braced (parts.flatMap Prod.fst))) := by
  have flatElse : ∀ t ∈ .keyword .else_ :: head, Flat t :=
    List.forall_mem_cons.2 ⟨by simp [Flat], flat⟩
  have body := balanced_flatMap fun part member => balanced_statement (low part member).1
  refine ⟨⟨_, _, rfl, .inr rfl⟩, ?_, fun ts more spelled => ?_⟩
  · have whole := (skips_flat flatElse 1).append (body.braced 0)
    exact whole.inside
  · exact recover_braced flatElse body spelled more

theorem ElseParts.stray {others : List (List Token)} (parts : ElseParts nesting others) :
    ∀ word ∈ others, Stray word := by
  induction parts with
  | none => simp
  | block low => exact List.forall_mem_singleton.2 (stray_else [] (by simp) low)
  | @again test _ _ _ lowTest lowYes _ ih =>
      have flat : ∀ t ∈ .keyword .if_ :: parenthesized test, Flat t :=
        List.forall_mem_cons.2 ⟨by simp [Flat], fun t member =>
          (inExpression_of_mem_parenthesized (inExpression_of_mem lowTest.1) t member).flat⟩
      exact List.forall_mem_cons.2 ⟨stray_else _ flat lowYes, ih⟩

/-- Before such a word, a turn has a problem at its first token, and skips the word. -/
theorem reports_stray (stray : Stray word) (spelled : tokensOf ts = word)
    (others : Reports turns more problems) :
    Reports turns (ts ++ more) (unexpectedAt "expression" ts :: problems) := by
  obtain ⟨t, tail, rfl, ends⟩ := stray.head
  have skips := stray.skipped ts more spelled
  obtain ⟨l, left, rfl, rfl, -⟩ := tokensOf_eq_cons_iff.1 spelled
  have failed : Fails (item turns) (l :: left ++ more) (unexpectedAt "expression" (l :: left))
      (l :: left ++ more) := fails_item ends
  have fails := turn_of_fails failed
  rw [skips] at fails
  exact reports_of_problem (stray.inside _ List.mem_cons_self) fails (by simp) others

/-- No `else` comes first that would go on with a condition. -/
def NoElse (pieces : List (List Token × Bool)) : Prop :=
  (pieces.flatMap Prod.fst).head? ≠ some (.keyword .else_)

/-- Pieces of which each is an item, or, if it is marked, is left of a block. -/
inductive Leftover : List (List Token × Bool) → Prop
  | done : Leftover []
  | item {word : List Token} {found : Item} {pieces : List (List Token × Bool)} :
      LowItem maxNesting word found → NoElse pieces → Leftover pieces →
      Leftover ((word, false) :: pieces)
  | stray {word : List Token} {pieces : List (List Token × Bool)} :
      Stray word → Leftover pieces → Leftover ((word, true) :: pieces)

section Leftovers

variable {inner outer : Nat} {front : List Token} {behind rest : List (List Token × Bool)}

theorem leftover_items {α : Type} {parts : List (List Token × α)}
    (low : ∀ part ∈ parts, ∃ found, LowItem maxNesting part.1 found) (left : Leftover rest)
    (noElse : NoElse rest) :
    Leftover (parts.map (fun part => (part.1, false)) ++ rest) ∧
      NoElse (parts.map (fun part => (part.1, false)) ++ rest) := by
  induction parts with
  | nil => exact ⟨left, noElse⟩
  | cons part parts ih =>
      obtain ⟨⟨found, first⟩, others⟩ := List.forall_mem_cons.1 low
      obtain ⟨leftOthers, noElseOthers⟩ := ih others
      refine ⟨.item first noElseOthers leftOthers, ?_⟩
      obtain ⟨t, tail, isWord, -, notElse⟩ := exists_head_of_item first
      simpa [NoElse, isWord] using notElse

theorem leftover_strays {words : List (List Token)} (stray : ∀ word ∈ words, Stray word)
    (left : Leftover rest) : Leftover (words.map (·, true) ++ rest) := by
  induction words with
  | nil => exact left
  | cons word words ih =>
      obtain ⟨first, others⟩ := List.forall_mem_cons.1 stray
      exact .stray first (ih others)

theorem leftover_closing {after : List (List Token × Stmt)} (le : nesting ≤ maxNesting)
    (low : Lows nesting after) (left : Leftover rest) :
    Leftover (closing after ++ rest) ∧ NoElse (closing after ++ rest) := by
  have lowItems : ∀ part ∈ after, ∃ found, LowItem maxNesting part.1 found := fun part member =>
    ⟨.statement part.2, (low part member).1.mono le, (low part member).2⟩
  rw [closing, List.append_assoc]
  exact leftover_items lowItems (.stray stray_rightBrace left) (by simp [NoElse])

/-- What is behind a place is left of the blocks around it, or is an item outside of all blocks. -/
theorem Place.leftover (place : Place inner outer front behind) :
    outer ≤ maxNesting → ∀ {rest}, Leftover rest → NoElse rest →
      Leftover (behind ++ rest) ∧ NoElse (behind ++ rest) := by
  induction place with
  | hole => exact fun _ _ left noElse => ⟨left, noElse⟩
  | yes _ _ lowAfter others _ ih =>
      intro le rest left _
      have le := Nat.le_of_succ_le le
      rw [List.append_assoc, List.append_assoc]
      obtain ⟨leftBlock, noElse⟩ :=
        leftover_closing le lowAfter (leftover_strays others.stray left)
      exact ih le leftBlock noElse
  | no _ _ _ lowAfter _ ih =>
      intro le rest left _
      have le := Nat.le_of_succ_le le
      rw [List.append_assoc]
      obtain ⟨leftBlock, noElse⟩ := leftover_closing le lowAfter left
      exact ih le leftBlock noElse
  | elseIf _ _ _ ih => exact ih
  | loop _ _ lowAfter _ ih =>
      intro le rest left _
      have le := Nat.le_of_succ_le le
      rw [List.append_assoc]
      obtain ⟨leftBlock, noElse⟩ := leftover_closing le lowAfter left
      exact ih le leftBlock noElse

theorem ItemPlace.leftover (place : ItemPlace inner front behind) (left : Leftover rest)
    (noElse : NoElse rest) : Leftover (behind ++ rest) := by
  cases place with
  | statement place => exact (place.leftover (Nat.le_refl _) left noElse).1
  | operation room _ lowAfter place =>
      have le := Nat.le_of_succ_le (Nat.le_of_eq room)
      rw [List.append_assoc]
      obtain ⟨leftBlock, noElse⟩ := leftover_closing le lowAfter left
      exact (place.leftover le leftBlock noElse).1

end Leftovers

/-- The words of pieces, which remain marked. -/
def wordsOf (pieces : List (List Located × Bool)) : List (List Token × Bool) :=
  pieces.map fun piece => (tokensOf piece.1, piece.2)

/-- The pieces that are marked. -/
def straysOf (pieces : List (List Located × Bool)) : List (List Located) :=
  (pieces.filter Prod.snd).map Prod.fst

section Sources

variable {last : Located} {pieces : List (List Located × Bool)}

theorem tokensOf_flatMap (pieces : List (List Located × Bool)) :
    tokensOf (pieces.flatMap Prod.fst) = (wordsOf pieces).flatMap Prod.fst := by
  rw [tokensOf, wordsOf, List.map_flatMap, List.flatMap_map]
  rfl

theorem headToken_sourceOf_ne_else (isEnd : last.token = .endOfInput)
    (noElse : NoElse (wordsOf pieces)) : headToken (sourceOf pieces last) ≠ .keyword .else_ := by
  rw [sourceOf, headToken_append, tokensOf_flatMap]
  unfold NoElse at noElse
  cases first : (wordsOf pieces).flatMap Prod.fst with
  | nil => simp [firstOf, headToken, isEnd]
  | cons t words => simpa [first, firstOf] using noElse

theorem tokensOf_sourceOf (isEnd : last.token = .endOfInput) :
    tokensOf (sourceOf pieces last) = (wordsOf pieces).flatMap Prod.fst ++ [.endOfInput] := by
  rw [← tokensOf_flatMap, sourceOf, tokensOf, tokensOf, List.map_append, ← isEnd]
  rfl

/-- What is left of a block has a problem for each piece that is marked. -/
theorem reports_leftover (isEnd : last.token = .endOfInput)
    (left : Leftover (wordsOf pieces)) (short : (sourceOf pieces last).length ≤ turns) :
    Reports turns (sourceOf pieces last) ((straysOf pieces).map (unexpectedAt "expression")) := by
  induction pieces with
  | nil => exact reports_end isEnd
  | cons piece pieces ih =>
      obtain ⟨tokens, marked⟩ := piece
      rw [sourceOf_cons] at short ⊢
      cases left with
      | item low noElse left =>
          exact reports_accepted low short (headToken_sourceOf_ne_else isEnd noElse)
            (ih left (length_le_of_append short))
      | stray stray left =>
          exact reports_stray stray rfl (ih left (length_le_of_append short))

theorem endsOnce_leftover (isEnd : last.token = .endOfInput) (left : Leftover (wordsOf pieces)) :
    EndsOnce (sourceOf pieces last) := by
  induction pieces with
  | nil => exact ⟨[], last, rfl, isEnd, nofun⟩
  | cons piece pieces ih =>
      obtain ⟨tokens, marked⟩ := piece
      rw [sourceOf_cons]
      cases left with
      | item low _ left =>
          exact (ih left).append fun l member =>
            (balanced_item low 0).inside _ (List.mem_map_of_mem member)
      | stray stray left =>
          exact (ih left).append fun l member => stray.inside _ (List.mem_map_of_mem member)

/-- Items in front of others are taken. -/
theorem reports_items {parts : List (List Token × Item)}
    (low : ∀ part ∈ parts, LowItem maxNesting part.1 part.2)
    (follows : headToken more ≠ .keyword .else_) (others : Reports turns more problems) :
    ∀ {ts}, tokensOf ts = parts.flatMap Prod.fst → (ts ++ more).length ≤ turns →
      Reports turns (ts ++ more) problems ∧ headToken (ts ++ more) ≠ .keyword .else_ := by
  induction parts with
  | nil =>
      intro ts spelled _
      obtain rfl : ts = [] := List.map_eq_nil_iff.1 spelled
      exact ⟨others, follows⟩
  | cons part parts ih =>
      intro ts spelled short
      obtain ⟨first, lowOthers⟩ := List.forall_mem_cons.1 low
      obtain ⟨head, tail, rfl, spelledHead, spelledTail⟩ := tokensOf_eq_append_iff.1 spelled
      rw [List.append_assoc] at short ⊢
      obtain ⟨reports, notElse⟩ := ih lowOthers spelledTail (length_le_of_append short)
      rw [← spelledHead] at first
      obtain ⟨t, words, isWord, -, firstNotElse⟩ := exists_head_of_item first
      refine ⟨reports_accepted first short notElse reports, ?_⟩
      rwa [headToken_append_of_tokensOf isWord]

end Sources
end Strays

section Places

variable {inner outer : Nat} {front : List Token} {behind : List (List Token × Bool)}

/-- Behind a place in a block, the brace that closes the block is left. -/
theorem Place.exists_marked (place : Place inner outer front behind) :
    front ≠ [] → ∃ part ∈ behind, part.2 = true := by
  have closes : ∀ after : List (List Token × Stmt), ([.symbol .rightBrace], true) ∈ closing after :=
    fun after => List.mem_append_right _ List.mem_cons_self
  induction place with
  | hole => exact fun inside => absurd rfl inside
  | yes =>
      exact fun _ => ⟨_, List.mem_append_right _ (List.mem_append_left _ (closes _)), rfl⟩
  | no => exact fun _ => ⟨_, List.mem_append_right _ (closes _), rfl⟩
  | elseIf _ _ _ ih => exact fun _ => ih (by simp)
  | loop => exact fun _ => ⟨_, List.mem_append_right _ (closes _), rfl⟩

theorem ItemPlace.exists_marked (place : ItemPlace inner front behind) :
    ∃ part ∈ behind, part.2 = true := by
  cases place with
  | statement place => exact place.exists_marked (by simp)
  | operation =>
      exact ⟨_, List.mem_append_right _ (List.mem_append_right _ List.mem_cons_self), rfl⟩

theorem SourcePlace.exists_marked (place : SourcePlace inner front behind) :
    ∃ part ∈ behind, part.2 = true := by
  cases place with
  | items _ _ place =>
      obtain ⟨part, member, isMarked⟩ := place.exists_marked
      exact ⟨part, List.mem_append_left _ member, isMarked⟩

theorem ItemPlace.exists_head (place : ItemPlace inner front behind) :
    ∃ t tail, front = t :: tail ∧ t ≠ .endOfInput ∧ t ≠ .keyword .else_ := by
  cases place with
  | @statement t front _ place =>
      obtain ⟨-, notEnd, notElse, -⟩ := place.opens t rfl
      exact ⟨t, front, rfl, notEnd, notElse⟩
  | operation => exact ⟨_, _, rfl, by simp, by simp⟩

end Places

section Main

variable {inner : Nat} {front : List Token} {last : Located} {ts line : List Located}
  {pieces : List (List Located × Bool)}

theorem parseTokens_filled (isEnd : last.token = .endOfInput)
    (place : SourcePlace inner front (wordsOf pieces)) (spelled : tokensOf ts = front) {s : Stmt}
    (low : LowStatement inner (tokensOf line) s) :
    ∃ program, parseTokens (ts ++ (line ++ sourceOf pieces last)) = .ok program := by
  obtain ⟨program, source⟩ := place.fill low
  refine ⟨program, parseTokens_of_lowSource ?_⟩
  rw [← tokensOf_sourceOf isEnd, ← spelled] at source
  simpa [tokensOf] using source

/-- The problem of a malformed line in a place, and those of what is left of the blocks around
it. -/
theorem parseTokens_malformed (isEnd : last.token = .endOfInput)
    (place : SourcePlace inner front (wordsOf pieces)) (spelled : tokensOf ts = front)
    (malformed : Malformed line) :
    ∃ problem, AtTokenOf problem line ∧
      parseTokens (ts ++ (line ++ sourceOf pieces last)) =
        .error (problem :: (straysOf pieces).map (unexpectedAt "expression")) := by
  generalize marked : wordsOf pieces = behind at place
  cases place with
  | items lowBefore lowAfter place =>
      obtain ⟨leftRest, noElse⟩ :=
        leftover_items (fun part member => ⟨part.2, lowAfter part member⟩) .done (by simp [NoElse])
      rw [List.append_nil] at leftRest noElse
      have left := place.leftover leftRest noElse
      rw [← marked] at left
      obtain ⟨head, tail, rfl, spelledHead, spelledTail⟩ := tokensOf_eq_append_iff.1 spelled
      obtain ⟨t, words, isFront, notEnd, notElse⟩ := place.exists_head
      obtain ⟨l, rest, rfl, rfl, -⟩ := tokensOf_eq_cons_iff.1 (spelledTail.trans isFront)
      rw [List.append_assoc]
      generalize enough : (head ++ (l :: rest ++ (line ++ sourceOf pieces last))).length = turns
      have short := length_le_of_append (Nat.le_of_eq enough)
      have shortRest := length_le_of_append (length_le_of_append short)
      have failed : FailedIn line (sourceOf pieces last) ((item turns).run.run _) :=
        place.comesTo malformed (endsOnce_leftover isEnd left) (l :: rest) spelledTail short
      obtain ⟨problem, inLine, reports⟩ := reports_failure (l :: rest) malformed.1
        (by rintro _ ⟨⟩; exact notEnd) failed (reports_leftover isEnd left shortRest)
      have follows : headToken (l :: rest ++ (line ++ sourceOf pieces last)) ≠ .keyword .else_ :=
        notElse
      obtain ⟨all, -⟩ := reports_items lowBefore follows reports spelledHead (Nat.le_of_eq enough)
      rw [← enough] at all
      exact ⟨problem, inLine, parseTokens_error_of_reports all (by simp)⟩

end Main

/-- With a statement in a place, the source is parsed. With a malformed line in it, there is the
problem of the line, and for each brace and each else part that is left of the blocks around the
place there is one problem more. -/
theorem parseTokens_place {inner : Nat} {front : List Token} {last : Located} {ts : List Located}
    {pieces : List (List Located × Bool)} (isEnd : last.token = .endOfInput)
    (place : SourcePlace inner front (wordsOf pieces)) (spelled : tokensOf ts = front) :
    (∀ line s, LowStatement inner (tokensOf line) s →
      ∃ program, parseTokens (ts ++ (line ++ sourceOf pieces last)) = .ok program) ∧
    straysOf pieces ≠ [] ∧
    ∀ line, Chunk last line none → ∃ problem, AtTokenOf problem line ∧
      parseTokens (ts ++ (line ++ sourceOf pieces last)) =
        .error (problem :: (straysOf pieces).map (unexpectedAt "expression")) := by
  refine ⟨fun line s low => parseTokens_filled isEnd place spelled low, ?_, ?_⟩
  · obtain ⟨part, member, isMarked⟩ := place.exists_marked
    obtain ⟨piece, inPieces, rfl⟩ := List.mem_map.1 member
    exact List.ne_nil_of_mem (List.mem_map_of_mem (List.mem_filter.2 ⟨inPieces, isMarked⟩))
  · rintro line (_ | ⟨isLine, alone⟩)
    exact parseTokens_malformed isEnd place spelled (malformed_of_alone isEnd isLine alone)

/-- The theorem in the body of an operation: the brace that closes it is a problem of its own. -/
theorem parseTokens_place_body :
    let located (tokens : List Token) := tokens.map (Located.mk · .first)
    let last : Located := ⟨.endOfInput, .first⟩
    let front := [Token.keyword .operation, .name "f", .symbol .leftParen, .symbol .rightParen,
      .symbol .leftBrace]
    let pieces := [(located [.symbol .rightBrace], true)]
    let line := located [.keyword .var, .symbol .assign, .integer 1, .symbol .semicolon]
    SourcePlace 127 front (wordsOf pieces) ∧ ∃ problem, AtTokenOf problem line ∧
      parseTokens (located front ++ (line ++ sourceOf pieces last)) =
        .error [problem, unexpectedAt "expression" (located [.symbol .rightBrace])] := by
  intro located last front pieces line
  have inBody : ItemPlace 127 front (closing []) :=
    @ItemPlace.operation 127 127 "f" [] [] [] [] [] rfl nofun nofun .hole
  have place : SourcePlace 127 front (wordsOf pieces) :=
    @SourcePlace.items 127 [] [] front (closing []) nofun nofun inBody
  have isEnd : last.token = .endOfInput := rfl
  have spelled : tokensOf (located front) = front := rfl
  exact ⟨place, (parseTokens_place isEnd place spelled).2.2 line chunk_unnamed⟩

/-- A line that is no statement, in the place of one in the body of an operation, has two problems:
its own, and one at the brace that closes the body. -/
theorem parseTokens_cascade :
    let last : Located := ⟨.endOfInput, .first⟩
    let located (tokens : List Token) := tokens.map (Located.mk · .first)
    let front := located [.keyword .operation, .name "f", .symbol .leftParen, .symbol .rightParen,
      .symbol .leftBrace]
    let line := located [.keyword .var, .symbol .assign, .integer 1, .symbol .semicolon]
    let behind := [⟨.symbol .rightBrace, .first⟩, last]
    parseTokens (front ++ (located [.keyword .ret, .symbol .semicolon] ++ behind)) =
        .ok ⟨[⟨"f", [], [.ret none]⟩], []⟩ ∧
      Chunk last line none ∧
      ∃ problems, parseTokens (front ++ (line ++ behind)) = .error problems ∧
        problems.length ≠ 1 := by
  refine ⟨rfl, chunk_unnamed, _, rfl, by decide⟩

end Parse
end Script
end StagedScript
