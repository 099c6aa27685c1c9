import StagedScript.Proofs.Script.Completeness
import StagedScript.Proofs.Script.Passing
import StagedScript.Proofs.Script.Printer

/-!
# Parsers on a line

A line is a semicolon with tokens before it that neither end a statement nor structure blocks. A
parser of statements takes a whole line or fails in it; what needs a block fails in it. So a line
that is no statement is where a statement or an item fails that begins with it, and also one that
comes upon it: a condition before a line that begins with `else` goes on into the line.

**Results.** A statement or an item fails in a line that is no statement
(`failedIn_statement`, `failedIn_item`). Before a line, a statement is taken or fails in the line
(`comesTo_statement_line`).
-/

namespace StagedScript
namespace Script

open Grammar

/-- The tokens that neither end a statement nor structure blocks. -/
def Flat (t : Token) : Prop :=
  t ∉ [.symbol .semicolon, .symbol .leftBrace, .symbol .rightBrace, .endOfInput]

theorem InExpression.flat {t : Token} (inside : InExpression t) : Flat t := by
  simp only [Flat, List.mem_cons, List.not_mem_nil, or_false]
  rintro (rfl | rfl | rfl | rfl) <;> simp [InExpression] at inside

theorem Flat.ne_endOfInput {t : Token} (flat : Flat t) : t ≠ .endOfInput := by
  rintro rfl
  simp [Flat] at flat

/-- Flat tokens and a semicolon behind them. -/
def Line (ts : List Located) : Prop :=
  ∃ words stop, ts = words ++ [stop] ∧ stop.token = .symbol .semicolon ∧
    ∀ l ∈ words, Flat l.token

theorem line_cons_iff {l : Located} {ts : List Located} :
    Line (l :: ts) ↔ l.token = .symbol .semicolon ∧ ts = [] ∨ Flat l.token ∧ Line ts := by
  constructor
  · rintro ⟨words, stop, split, stops, flat⟩
    cases words with
    | nil =>
        obtain ⟨rfl, rfl⟩ : l = stop ∧ ts = [] := by simpa using split
        exact .inl ⟨stops, rfl⟩
    | cons first words =>
        obtain ⟨rfl, rfl⟩ : l = first ∧ ts = words ++ [stop] := by simpa using split
        exact .inr ⟨flat l (by simp), words, stop, rfl, stops, fun w h => flat w (by simp [h])⟩
  · rintro (⟨stops, rfl⟩ | ⟨flat, words, stop, rfl, stops, all⟩)
    · exact ⟨[], l, rfl, stops, by simp⟩
    · exact ⟨l :: words, stop, rfl, stops, List.forall_mem_cons.2 ⟨flat, all⟩⟩

theorem Line.exists_cons {ts : List Located} (line : Line ts) : ∃ l tail, ts = l :: tail := by
  obtain ⟨words, stop, rfl, -⟩ := line
  cases words <;> exact ⟨_, _, rfl⟩

/-- Behind a flat token, a line goes on. -/
theorem Line.tail {l : Located} {ts : List Located} (line : Line (l :: ts)) (flat : Flat l.token) :
    Line ts := by
  rcases line_cons_iff.1 line with ⟨stops, -⟩ | ⟨-, rest⟩
  · simp [Flat, stops] at flat
  · exact rest

theorem Line.of_append {word left : List Located} (line : Line (word ++ l :: left)) :
    Line (l :: left) := by
  induction word with
  | nil => exact line
  | cons first word ih =>
      rcases line_cons_iff.1 line with ⟨-, none⟩ | ⟨-, rest⟩
      · simp at none
      · exact ih rest

theorem Line.token_cases {ts : List Located} (line : Line ts) :
    ∀ l ∈ ts, l.token = .symbol .semicolon ∨ Flat l.token := by
  obtain ⟨words, stop, rfl, stops, flat⟩ := line
  intro l member
  rcases List.mem_append.1 member with inWords | isStop
  · exact .inr (flat l inWords)
  · obtain rfl := List.mem_singleton.1 isStop
    exact .inl stops

theorem Line.token_ne {ts : List Located} (line : Line ts) {t : Token} (other : ¬ Flat t)
    (noStop : t ≠ .symbol .semicolon) : ∀ l ∈ ts, l.token ≠ t := by
  rintro l member rfl
  exact (line.token_cases l member).elim noStop other

/-- Flat tokens off the front of a line leave a line. -/
theorem Line.split {word : List Located} : ∀ {chunk more rest : List Located}, Line chunk →
    chunk ++ more = word ++ rest → (∀ l ∈ word, Flat l.token) →
    ∃ left, chunk = word ++ left ∧ rest = left ++ more ∧ Line left := by
  induction word with
  | nil => exact fun line same _ => ⟨_, rfl, same.symm, line⟩
  | cons first word ih =>
      intro chunk more rest line same flat
      obtain ⟨flatFirst, flatWord⟩ := List.forall_mem_cons.1 flat
      obtain ⟨l, tail, rfl⟩ := line.exists_cons
      obtain ⟨rfl, sameTail⟩ : l = first ∧ tail ++ more = word ++ rest := by simpa using same
      obtain ⟨left, rfl, rfl, lineLeft⟩ := ih (line.tail flatFirst) sameTail flatWord
      exact ⟨left, rfl, rfl, lineLeft⟩

/-- Tokens in front of what ends once, without an end of their own. -/
theorem EndsOnce.append {more : List Located} (ends : EndsOnce more) {front : List Located}
    (inside : ∀ l ∈ front, l.token ≠ .endOfInput) : EndsOnce (front ++ more) := by
  obtain ⟨body, last, rfl, atEnd, notBefore⟩ := ends
  refine ⟨front ++ body, last, by simp, atEnd, fun l member => ?_⟩
  exact (List.mem_append.1 member).elim (inside l) (notBefore l)

theorem Line.endsOnce_append {chunk more : List Located} (line : Line chunk)
    (ends : EndsOnce more) : EndsOnce (chunk ++ more) :=
  ends.append (line.token_ne (by simp [Flat]) (by simp))

namespace Parse

variable {α β : Type}

/-- An outcome is a failure at a token of a chunk that stands before more. -/
def FailedIn (chunk more : List Located) (outcome : Except Problem α × List Located) : Prop :=
  ∃ problem passed here left, chunk = passed ++ here :: left ∧
    problem.position = here.position ∧ outcome = (.error problem, here :: (left ++ more))

section Failures

variable {chunk more ts : List Located} {p : Parse α} {f : α → Parse β}

theorem FailedIn.bind (failed : FailedIn chunk more (p.run.run ts)) :
    FailedIn chunk more ((p >>= f).run.run ts) := by
  obtain ⟨problem, passed, here, left, split, place, outcome⟩ := failed
  exact ⟨problem, passed, here, left, split, place, fails_bind outcome⟩

theorem FailedIn.append_left {left : List Located} {outcome : Except Problem α × List Located}
    (failed : FailedIn left more outcome) (word : List Located) :
    FailedIn (word ++ left) more outcome := by
  obtain ⟨problem, passed, here, rest, rfl, place, outcome⟩ := failed
  exact ⟨problem, word ++ passed, here, rest, by simp, place, outcome⟩

/-- A failure at the next token of a chunk is one in it. -/
theorem failedIn_head {problem : Problem} {l : Located} {tail : List Located}
    (failed : Fails p (l :: tail ++ more) problem (l :: tail ++ more))
    (place : problem.position = l.position) :
    FailedIn (l :: tail) more (p.run.run (l :: tail ++ more)) :=
  ⟨problem, [], l, tail, rfl, place, failed⟩

end Failures

/-- On a chunk before more, a parser fails in the chunk, or takes the whole of it if it may end
there. -/
def Stays (mayEnd : Prop) (chunk more : List Located) (p : Parse α) : Prop :=
  mayEnd ∧ (∃ a, Yields p (chunk ++ more) a more) ∨
    FailedIn chunk more (p.run.run (chunk ++ more))

/-- A parser stays on every line. -/
def OnLine (mayEnd : Prop) (p : Parse α) : Prop :=
  ∀ chunk more, Line chunk → Stays mayEnd chunk more p

/-- The same, where the first token of the line is known. -/
def OnLineAt (t : Token) (mayEnd : Prop) (p : Parse α) : Prop :=
  ∀ l chunk more, l.token = t → Line (l :: chunk) → Stays mayEnd (l :: chunk) more p

section Rules

variable {mayEnd : Prop} {t : Token} {p : Parse α} {f : α → Parse β} {chunk more : List Located}

theorem OnLine.at (onLine : OnLine mayEnd p) : OnLineAt t mayEnd p :=
  fun l chunk more _ line => onLine (l :: chunk) more line

/-- What passes a part of a chunk stays on the chunk if what follows stays on the rest. -/
theorem Stays.of_yields {word : List Located} {a : α}
    (read : Yields p (word ++ (chunk ++ more)) a (chunk ++ more))
    (stays : Stays mayEnd chunk more (f a)) : Stays mayEnd (word ++ chunk) more (p >>= f) := by
  unfold Stays Yields
  rw [List.append_assoc, run_bind_of_yields read]
  exact stays.imp id fun failed => failed.append_left word

/-- What may pass flat tokens only leaves a part of the line. -/
theorem onLine_bind (passes : Passes Flat 0 p) (next : ∀ a, OnLine mayEnd (f a)) :
    OnLine mayEnd (p >>= f) := by
  intro chunk more line
  obtain ⟨word, rest, split, flat, ends⟩ := passes (chunk ++ more)
  obtain ⟨left, rfl, rfl, lineLeft⟩ := line.split split flat
  rcases ends with ⟨⟨a, read⟩, -⟩ | ⟨problem, failed, place⟩
  · rw [List.append_assoc] at read
    exact .of_yields read (next a left more lineLeft)
  · obtain ⟨here, tail, rfl⟩ := lineLeft.exists_cons
    refine .inr (FailedIn.bind (FailedIn.append_left ?_ _))
    exact ⟨problem, [], here, tail, rfl, place, failed⟩

/-- What fails in every line fails whatever comes behind it. -/
theorem onLine_bind_of_fails (fails : OnLine False p) : OnLine mayEnd (p >>= f) := by
  intro chunk more line
  rcases fails chunk more line with ⟨⟨⟩, -⟩ | failed
  exact .inr failed.bind

theorem onLine_unexpected {expected : String} : OnLine mayEnd (unexpected expected : Parse α) := by
  intro chunk more line
  obtain ⟨l, tail, rfl⟩ := line.exists_cons
  exact .inr (failedIn_head (fails_unexpected expected) rfl)

theorem onLine_peek_bind {f : Token → Parse β} (next : ∀ t, OnLineAt t mayEnd (f t)) :
    OnLine mayEnd (peek >>= f) := by
  intro chunk more line
  obtain ⟨l, tail, rfl⟩ := line.exists_cons
  have look : Yields peek ([] ++ (l :: tail ++ more)) l.token (l :: tail ++ more) := yields_peek
  exact .of_yields look (next l.token l tail more rfl line)

theorem stays_advance_bind {l : Located} (flat : Flat l.token) {f : Unit → Parse β}
    (next : Stays mayEnd chunk more (f ())) : Stays mayEnd (l :: chunk) more (advance >>= f) :=
  have passed : Yields advance ([l] ++ (chunk ++ more)) () (chunk ++ more) :=
    yields_advance flat.ne_endOfInput
  .of_yields passed next

theorem onLineAt_advance_bind (flat : Flat t) {f : Unit → Parse β} (next : OnLine mayEnd (f ())) :
    OnLineAt t mayEnd (advance >>= f) := by
  rintro l chunk more rfl line
  exact stays_advance_bind flat (next chunk more (line.tail flat))

/-- A token that no line has is not found in it. -/
theorem onLine_expect_bind (other : ¬ Flat t) (noStop : t ≠ .symbol .semicolon)
    {expected : String} {f : Unit → Parse β} : OnLine mayEnd (expect t expected >>= f) := by
  intro chunk more line
  obtain ⟨l, tail, rfl⟩ := line.exists_cons
  have isOther : headToken (l :: tail ++ more) ≠ t := line.token_ne other noStop l (by simp)
  exact .inr (failedIn_head (fails_expect isOther expected) rfl).bind

theorem onLine_semicolon (a : α) : OnLine True (do semicolon; return a) := by
  intro chunk more line
  obtain ⟨l, tail, rfl⟩ := line.exists_cons
  unfold semicolon
  rcases line_cons_iff.1 line with ⟨stops, rfl⟩ | ⟨flat, -⟩
  · refine .inl ⟨trivial, a, (yields_expect_bind (by simp)).2 ⟨l, more, rfl, stops, ?_⟩⟩
    exact yields_pure.2 ⟨rfl, rfl⟩
  · have isOther : headToken (l :: tail ++ more) ≠ .symbol .semicolon := by
      intro stops
      rw [List.cons_append, headToken_cons] at stops
      simp [Flat, stops] at flat
    exact .inr (failedIn_head (fails_expect isOther _) rfl).bind

theorem onLineAt_assignAhead (flat : Flat t) {yes no : Parse β} (found : OnLine mayEnd yes)
    (missing : OnLine mayEnd no) :
    OnLineAt t mayEnd (do if ← assignAhead then advance; advance; yes else no) := by
  rintro l chunk more rfl line
  have look : Yields assignAhead ([] ++ (l :: chunk ++ more)) _ (l :: chunk ++ more) :=
    yields_assignAhead
  refine .of_yields look ?_
  split
  next ahead =>
    obtain ⟨sign, rest, rfl⟩ := (line.tail flat).exists_cons
    have isSign : sign.token = .symbol .assign := of_decide_eq_true ahead
    have flatSign : Flat sign.token := by simp [isSign, Flat]
    have onRest := found rest more ((line.tail flat).tail flatSign)
    exact stays_advance_bind (f := fun _ => do advance; yes) flat
      (stays_advance_bind flatSign onRest)
  next => exact missing (l :: chunk) more line

end Rules

section Statements

variable {turns : Nat} {expression : Parse Expr} {block : Parse (List Stmt)}

theorem Passes.flat {p : Parse α} {least : Nat} (passes : Passes InExpression least p) :
    Passes Flat 0 p :=
  (passes.imp fun _ => InExpression.flat : Passes Flat least p).weaken

/-- No line has the brace that opens a block. -/
theorem onLine_blockOver (inner : Option (Parse Stmt)) : OnLine False (blockOver turns inner) :=
  onLine_expect_bind (by simp [Flat]) (by simp)

theorem onLineAt_conditional (passes : Passes InExpression 0 expression)
    (needsBrace : OnLine False block) :
    ∀ count, OnLineAt (.keyword .if_) False (conditional expression block count) := by
  intro count
  cases count with
  | zero => exact onLine_unexpected.at
  | succ count =>
      unfold conditional
      refine onLineAt_advance_bind (by simp [Flat]) (onLine_bind (passes_test passes).flat ?_)
      exact fun condition => onLine_bind_of_fails needsBrace

/-- An expression and its semicolon. -/
theorem onLine_terminated (passes : Passes InExpression 0 expression) (f : Expr → Stmt) :
    OnLine True (do let e ← expression; semicolon; return f e) :=
  onLine_bind passes.flat fun e => onLine_semicolon (f e)

/-- A statement stays on a line: one case for each way to begin one. -/
theorem onLine_statementOver (passes : Passes InExpression 0 expression)
    (needsBrace : OnLine False block) :
    OnLine True (statementOver turns expression block) := by
  have terminated := onLine_terminated passes
  unfold statementOver
  refine onLine_peek_bind fun t => ?_
  split
  case h_1 =>
    refine onLineAt_advance_bind (by simp [Flat]) ?_
    refine onLine_bind (passes_name fun _ => trivial).flat fun x => ?_
    refine onLine_bind (passes_eat (by simp) (by simp [Flat])) fun assigns => ?_
    have ending := fun value => onLine_semicolon (Stmt.var x value)
    dsimp only
    split
    · exact onLine_bind (passes.map some).flat ending
    · exact onLine_bind (passes_pure none) ending
  case h_2 =>
    refine onLineAt_advance_bind (by simp [Flat]) (onLine_peek_bind fun t => OnLine.at ?_)
    have ending := fun value => onLine_semicolon (Stmt.ret value)
    dsimp only
    split
    · exact onLine_bind (passes_pure none) ending
    · exact onLine_bind (passes.map some).flat ending
  case h_3 =>
    intro l chunk more isIf line
    exact (onLineAt_conditional passes needsBrace turns l chunk more isIf line).imp
      (fun ends => ends.1.elim) id
  case h_4 =>
    refine onLineAt_advance_bind (by simp [Flat]) (onLine_bind (passes_test passes).flat ?_)
    exact fun condition => onLine_bind_of_fails needsBrace
  case h_5 => exact onLine_unexpected.at
  case h_6 x =>
    exact onLineAt_assignAhead (by simp [Flat]) (terminated fun e => .assign x e) (terminated .expr)
  case h_7 => exact (terminated .expr).at

theorem onLine_operation (turns : Nat) : OnLine False (operation turns) := by
  have names : ∀ expected, Passes InExpression 1 (name expected) := fun _ =>
    passes_name fun _ => trivial
  unfold operation
  refine onLine_bind (passes_expect (by simp) (by simp [Flat])).weaken fun _ => ?_
  refine onLine_bind (names _).flat fun opName => ?_
  refine onLine_bind (passes_expect (by simp) (by simp [Flat])).weaken fun _ => ?_
  refine onLine_bind (passes_parenList (names _).weaken).flat fun params => ?_
  rw [block_eq]
  exact onLine_bind_of_fails (onLine_blockOver _)

end Statements

theorem onLine_statement (turns room : Nat) : OnLine True (statement turns room) := by
  rw [statement_eq]
  exact onLine_statementOver (passes_expression turns room) (onLine_blockOver _)

/-- A line that is no statement. -/
def Malformed (chunk : List Located) : Prop :=
  Line chunk ∧ ∀ s, ¬ LowStatement maxNesting (tokensOf chunk) s

section Malformed

variable {turns room : Nat} {chunk more : List Located}

/-- With less room, a line that is no statement is none either. -/
theorem failedIn_statement (malformed : Malformed chunk) (le : room ≤ maxNesting)
    (ends : EndsOnce more) (short : (chunk ++ more).length ≤ turns) :
    FailedIn chunk more ((statement turns room).run.run (chunk ++ more)) := by
  obtain ⟨line, noStatement⟩ := malformed
  rcases onLine_statement turns room chunk more line with ⟨-, s, read⟩ | failed
  · obtain ⟨word, split, -, derived, low⟩ :=
      reads_statement turns room _ s more (line.endsOnce_append ends) short read
    obtain rfl := List.append_cancel_right split
    exact absurd ⟨derived.mono le, low⟩ (noStatement s)
  · exact failed

theorem failedIn_item (malformed : Malformed chunk) (ends : EndsOnce more)
    (short : (chunk ++ more).length ≤ turns) :
    FailedIn chunk more ((item turns).run.run (chunk ++ more)) := by
  unfold item
  rw [run_bind_of_yields yields_peek]
  split
  · rcases onLine_operation turns chunk more malformed.1 with ⟨⟨⟩, -⟩ | failed
    exact failed.bind
  · exact (failedIn_statement malformed (Nat.le_refl _) ends short).bind

end Malformed

/-- From a word on, before what follows it, a parser comes to an outcome. -/
def ComesTo (turns : Nat) (p : Parse α) (word : List Token) (follow : List Located)
    (outcome : Except Problem α × List Located → Prop) : Prop :=
  ∀ ts, tokensOf ts = word → (ts ++ follow).length ≤ turns → outcome (p.run.run (ts ++ follow))

section ComesTo

variable {turns : Nat} {p : Parse α} {f : α → Parse β} {t : Token} {word others : List Token}
  {follow : List Located} {outcome : Except Problem β × List Located → Prop}

theorem ComesTo.mono {fewer : Nat} {weaker : Except Problem β × List Located → Prop}
    {p : Parse β} (comes : ComesTo turns p word follow outcome) (le : fewer ≤ turns)
    (weaken : ∀ result, outcome result → weaker result) :
    ComesTo fewer p word follow weaker :=
  fun ts spelled short => weaken _ (comes ts spelled (Nat.le_trans short le))

/-- Behind a word that is accepted before any token, the parser goes on with what is left. -/
theorem comesTo_bind_left {a : α} (first : Accepts turns p (fun _ => True) word a)
    (next : ComesTo (turns - word.length) (f a) others follow outcome) :
    ComesTo turns (p >>= f) (word ++ others) follow outcome := by
  intro ts spelled short
  obtain ⟨head, tail, rfl, rfl, rfl⟩ := tokensOf_eq_append_iff.1 spelled
  rw [List.append_assoc] at short ⊢
  rw [run_bind_of_yields (first head (tail ++ follow) rfl short trivial)]
  refine next tail rfl ?_
  simp only [tokensOf, List.length_map, List.length_append] at short ⊢
  omega

theorem comesTo_bind {a : α} (first : Accepts turns p (fun _ => True) word a)
    (next : ComesTo turns (f a) others follow outcome) :
    ComesTo turns (p >>= f) (word ++ others) follow outcome :=
  comesTo_bind_left first (next.mono (Nat.sub_le ..) fun _ => id)

theorem comesTo_peek_bind {f : Token → Parse β}
    (next : ComesTo turns (f t) (t :: word) follow outcome) :
    ComesTo turns (peek >>= f) (t :: word) follow outcome := by
  intro ts spelled short
  rw [run_bind_of_yields yields_peek, headToken_append_of_tokensOf spelled]
  exact next ts spelled short

theorem comesTo_advance_bind_left (inside : t ≠ .endOfInput) {f : Unit → Parse β}
    (next : ComesTo (turns - 1) (f ()) word follow outcome) :
    ComesTo turns (advance >>= f) (t :: word) follow outcome := by
  intro ts spelled short
  obtain ⟨l, tail, rfl, rfl, rfl⟩ := tokensOf_eq_cons_iff.1 spelled
  rw [List.cons_append, run_bind_of_yields (yields_advance inside)]
  exact next tail rfl (Nat.le_sub_one_of_lt short)

theorem comesTo_expect_bind (inside : t ≠ .endOfInput) {expected : String} {f : Unit → Parse β}
    (next : ComesTo turns (f ()) word follow outcome) :
    ComesTo turns (expect t expected >>= f) (t :: word) follow outcome := by
  intro ts spelled short
  obtain ⟨l, tail, rfl, rfl, rfl⟩ := tokensOf_eq_cons_iff.1 spelled
  rw [List.cons_append, run_bind_of_yields (yields_expect inside expected)]
  exact next tail rfl (length_le_of_cons short)

theorem comesTo_eat_bind (inside : t ≠ .endOfInput) {f : Bool → Parse β}
    (next : ComesTo turns (f true) word follow outcome) :
    ComesTo turns (eat t >>= f) (t :: word) follow outcome := by
  intro ts spelled short
  obtain ⟨l, tail, rfl, rfl, rfl⟩ := tokensOf_eq_cons_iff.1 spelled
  rw [List.cons_append, run_bind_of_yields (yields_eat inside)]
  exact next tail rfl (length_le_of_cons short)

/-- A parser that fails in a chunk fails there whatever it was to hand on to. -/
theorem ComesTo.bind {p : Parse α} {chunk more : List Located}
    (comes : ComesTo turns p word follow (FailedIn chunk more)) :
    ComesTo turns (p >>= f) word follow (FailedIn chunk more) :=
  fun ts spelled short => (comes ts spelled short).bind

end ComesTo

/-- An outcome before a chunk: a value, with the chunk still to come, or a failure in the chunk. -/
def TakenOrFailed (chunk more : List Located) (a : α)
    (outcome : Except Problem α × List Located) : Prop :=
  outcome = (.ok a, chunk ++ more) ∨ FailedIn chunk more outcome

theorem comesTo_of_accepts {turns : Nat} {p : Parse α} {word : List Token} {a : α}
    {follows : Token → Prop} {chunk more : List Located}
    (accepts : Accepts turns p follows word a) (follow : follows (headToken (chunk ++ more))) :
    ComesTo turns p word (chunk ++ more) (TakenOrFailed chunk more a) :=
  fun ts spelled short => .inl (accepts ts (chunk ++ more) spelled short follow)

theorem TakenOrFailed.return {p : Parse α} {g : α → β} {a : α} {chunk more ts : List Located}
    (reaches : TakenOrFailed chunk more a (p.run.run ts)) :
    TakenOrFailed chunk more (g a) ((do return g (← p) : Parse β).run.run ts) := by
  rcases reaches with read | failed
  · exact .inl ((run_bind_of_yields read).trans rfl)
  · exact .inr failed.bind

section BeforeLine

variable {turns nesting : Nat} {word : List Token} {s : Stmt} {chunk more : List Located}

/-- A line that begins with `else` is gone into behind the first block of a condition, and no block
is found there. -/
theorem failedIn_branches {l : Located} (isElse : l.token = .keyword .else_)
    (line : Line (l :: chunk)) (condition : Expr) (yes : List Stmt) (count : Nat) :
    FailedIn (l :: chunk) more
      ((branches condition yes (conditional (expression turns nesting) (block turns nesting) count)
        (block turns nesting)).run.run (l :: chunk ++ more)) := by
  have flat : Flat l.token := by simp [isElse, Flat]
  have needsBrace : OnLine False (block turns nesting) := by
    rw [block_eq]
    exact onLine_blockOver _
  have noBranch : OnLine False (do
      if (← peek) = .keyword .if_ then
        return Stmt.cond condition yes
          [← conditional (expression turns nesting) (block turns nesting) count]
      else
        return Stmt.cond condition yes (← block turns nesting)) := by
    refine onLine_peek_bind fun t => ?_
    split
    next isIf =>
      subst isIf
      intro here rest more isIf line
      refine .inr (FailedIn.bind ?_)
      exact (onLineAt_conditional (passes_expression turns nesting) needsBrace count here rest more
        isIf line).resolve_left fun ends => ends.1
    next => exact (onLine_bind_of_fails needsBrace).at
  have failed := (noBranch chunk more (line.tail flat)).resolve_left fun ends => ends.1
  have goOn : Yields (eat (.keyword .else_)) (l :: (chunk ++ more)) true (chunk ++ more) := by
    rw [← isElse]
    exact yields_eat flat.ne_endOfInput
  unfold branches
  rw [List.cons_append, run_bind_of_yields goOn]
  exact failed.append_left [l]

/-- A parser of conditions comes to an outcome, with a turn for every token. -/
def ConditionalComesTo (turns nesting : Nat) (word : List Token) (follow : List Located)
    (outcome : Except Problem Stmt × List Located → Prop) : Prop :=
  ∀ count ≤ turns,
    ComesTo count (conditional (expression turns nesting) (block turns nesting) count) word follow
      outcome

/-- The head of a condition is accepted, up to its first block. -/
theorem conditionalComesTo_of_block {e : Expr} {test blockWord : List Token}
    {follow : List Located} {outcome : Except Problem Stmt × List Located → Prop}
    (low : LowExpression nesting .disjunction test e)
    (go : ∀ count ≤ turns, ComesTo count (do
      let yes ← block turns nesting
      branches e yes (conditional (expression turns nesting) (block turns nesting) count)
        (block turns nesting)) blockWord follow outcome) :
    ConditionalComesTo turns nesting (.keyword .if_ :: (parenthesized test ++ blockWord)) follow
      outcome := by
  intro count le
  cases count with
  | zero =>
      intro ts spelled short
      obtain ⟨l, tail, rfl, -⟩ := tokensOf_eq_cons_iff.1 spelled
      simp at short
  | succ count =>
      have test : Accepts turns (Parse.test (expression turns nesting)) _ (parenthesized test) e :=
        accepts_test low
      unfold conditional
      refine comesTo_advance_bind_left (by simp) (comesTo_bind (test.mono (by omega)) ?_)
      exact go count (by omega)

/-- The head of a condition and its first block are accepted. -/
theorem conditionalComesTo_of_branches {e : Expr} {test yesWord branchWord : List Token}
    {yes : List Stmt} {follow : List Located} {outcome : Except Problem Stmt × List Located → Prop}
    (low : LowExpression nesting .disjunction test e)
    (accepts : Accepts turns (block turns nesting) (fun _ => True) yesWord yes)
    (go : ∀ count ≤ turns, ComesTo count
      (branches e yes (conditional (expression turns nesting) (block turns nesting) count)
        (block turns nesting)) branchWord follow outcome) :
    ConditionalComesTo turns nesting
      (.keyword .if_ :: (parenthesized test ++ (yesWord ++ branchWord))) follow outcome :=
  conditionalComesTo_of_block low fun count le =>
    comesTo_bind (accepts.mono le) (go count le)

/-- What a condition comes to, a statement comes to that begins as it does. -/
theorem comesTo_of_conditional {follow : List Located}
    {outcome : Except Problem Stmt × List Located → Prop}
    (comes : ConditionalComesTo turns nesting (.keyword .if_ :: word) follow outcome) :
    ComesTo turns (statement turns nesting) (.keyword .if_ :: word) follow outcome := by
  rw [statement_eq]
  unfold statementOver
  refine comesTo_peek_bind ?_
  rw [← block_eq]
  exact comes turns (Nat.le_refl turns)

/-- A block behind `else` is the second branch. -/
theorem comesTo_branches_else {e : Expr} {yes : List Stmt} {count : Nat} {again : Parse Stmt}
    {follow : List Located} {outcome : Except Problem Stmt × List Located → Prop}
    (comes : ComesTo count (do return .cond e yes (← block turns nesting))
      (.symbol .leftBrace :: word) follow outcome) :
    ComesTo count (branches e yes again (block turns nesting))
      (.keyword .else_ :: .symbol .leftBrace :: word) follow outcome := by
  unfold branches
  refine comesTo_eat_bind (by simp) ?_
  rw [if_pos rfl]
  refine comesTo_peek_bind ?_
  rwa [if_neg (by simp)]

/-- A condition behind `else` goes on as a condition does. -/
theorem comesTo_branches_elseIf {e : Expr} {yes : List Stmt} {count : Nat} {follow : List Located}
    {outcome : Except Problem Stmt × List Located → Prop}
    (comes : ComesTo count
      (do return .cond e yes [← conditional (expression turns nesting) (block turns nesting) count])
      (.keyword .if_ :: word) follow outcome) :
    ComesTo count
      (branches e yes (conditional (expression turns nesting) (block turns nesting) count)
        (block turns nesting)) (.keyword .else_ :: .keyword .if_ :: word) follow outcome := by
  unfold branches
  refine comesTo_eat_bind (by simp) ?_
  rw [if_pos rfl]
  refine comesTo_peek_bind ?_
  rwa [if_pos rfl]

/-- Statements in braces are accepted. -/
theorem accepts_braced {parts : List (List Token × Stmt)}
    (low : ∀ part ∈ parts, LowStatement nesting part.1 part.2) :
    Accepts turns (block turns (nesting + 1)) (fun _ => True) (braced (parts.flatMap Prod.fst))
      (parts.map Prod.snd) :=
  accepts_block (fun part member => (accepts_of_statement turns (low part member).1
    (low part member).2).1) fun part member => (low part member).1

theorem lowStatements {parts : List (List Token × Stmt)}
    (derived : ∀ part ∈ parts, Statement nesting part.1 part.2)
    (low : ∀ e ∈ Stmt.expressionsOfAll (parts.map Prod.snd), e.height ≤ maxNesting) :
    ∀ part ∈ parts, LowStatement nesting part.1 part.2 :=
  fun part member => ⟨derived part member, low_of_mem low part member⟩

/-- Where a line begins with `else`, a condition before it may go on into the line; any other
statement is taken. The induction is on conditions that stand behind `else`. -/
theorem comesTo_statement_else {l : Located} (isElse : l.token = .keyword .else_)
    (line : Line (l :: chunk)) (derived : Statement nesting word s) :
    (∀ e ∈ s.expressions, e.height ≤ maxNesting) →
      ComesTo turns (statement turns nesting) word (l :: chunk ++ more)
          (TakenOrFailed (l :: chunk) more s) ∧
        ∀ test yes no, s = .cond test yes no → (∃ tail, word = .keyword .if_ :: tail) ∧
          ConditionalComesTo turns nesting word (l :: chunk ++ more)
            (TakenOrFailed (l :: chunk) more s) := by
  have taken : ∀ {nesting : Nat} {word : List Token} {s : Stmt},
      Accepts turns (statement turns nesting) (fun _ => True) word s →
      ComesTo turns (statement turns nesting) word (l :: chunk ++ more)
        (TakenOrFailed (l :: chunk) more s) :=
    fun accepts => comesTo_of_accepts accepts trivial
  induction derived with
  | var name => exact fun _ => ⟨taken (accepts_var name), by rintro _ _ _ ⟨⟩⟩
  | varWith name expression =>
      exact fun low =>
        ⟨taken (accepts_varWith ⟨expression, low _ (by simp [Stmt.expressions])⟩ name),
          by rintro _ _ _ ⟨⟩⟩
  | ret => exact fun _ => ⟨taken accepts_ret, by rintro _ _ _ ⟨⟩⟩
  | retWith expression =>
      exact fun low =>
        ⟨taken (accepts_retWith ⟨expression, low _ (by simp [Stmt.expressions])⟩),
          by rintro _ _ _ ⟨⟩⟩
  | @cond nesting test e yes expression derivedYes =>
      intro low
      simp only [Stmt.expressions, Stmt.expressionsOfAll, List.append_nil, List.forall_mem_cons]
        at low
      have comes : ConditionalComesTo turns (nesting + 1) _ (l :: chunk ++ more)
          (TakenOrFailed (l :: chunk) more (.cond e (yes.map Prod.snd) [])) :=
        conditionalComesTo_of_branches ⟨expression, low.1⟩
          (accepts_braced (lowStatements derivedYes low.2)) fun count _ => by
            intro ts spelled _
            obtain rfl : ts = [] := List.map_eq_nil_iff.1 spelled
            exact .inr (failedIn_branches isElse line _ _ count)
      rw [List.append_nil] at comes
      exact ⟨comesTo_of_conditional comes, fun _ _ _ _ => ⟨⟨_, rfl⟩, comes⟩⟩
  | @condElse nesting test e yes no expression derivedYes derivedNo =>
      intro low
      simp only [Stmt.expressions, List.forall_mem_cons, List.forall_mem_append] at low
      have accepts : AcceptsConditional turns (nesting + 1) (fun _ => True) _ _ :=
        acceptsConditional_condElse ⟨expression, low.1⟩
          (accepts_braced (lowStatements derivedYes low.2.1))
          (accepts_braced (lowStatements derivedNo low.2.2))
      exact ⟨taken (accepts_of_acceptsConditional accepts), fun _ _ _ _ =>
        ⟨⟨_, rfl⟩, fun count le => comesTo_of_accepts (accepts count le) trivial⟩⟩
  | @condElseIf nesting test rest e again first second yes expression derivedYes _ _ ihAgain =>
      intro low
      simp only [Stmt.expressions, List.forall_mem_cons, List.forall_mem_append,
        Stmt.expressionsOfAll, List.append_nil] at low
      obtain ⟨-, further⟩ := ihAgain (by
        simpa only [Stmt.expressions, List.forall_mem_cons, List.forall_mem_append]
          using low.2.2)
      obtain ⟨⟨tail, rfl⟩, comesAgain⟩ := further _ _ _ rfl
      have comes : ConditionalComesTo turns (nesting + 1) _ (l :: chunk ++ more)
          (TakenOrFailed (l :: chunk) more
            (.cond e (yes.map Prod.snd) [.cond again first second])) :=
        conditionalComesTo_of_branches ⟨expression, low.1⟩
          (accepts_braced (lowStatements derivedYes low.2.1)) fun count le =>
            comesTo_branches_elseIf fun ts spelled short =>
              (comesAgain count le ts spelled short).return
      rw [← List.append_assoc] at comes
      exact ⟨comesTo_of_conditional comes, fun _ _ _ _ => ⟨⟨_, rfl⟩, comes⟩⟩
  | loop body test derivedBody =>
      intro low
      simp only [Stmt.expressions, List.forall_mem_cons] at low
      exact ⟨taken (accepts_loop ⟨test, low.1⟩
        (accepts_braced (lowStatements derivedBody low.2))), by rintro _ _ _ ⟨⟩⟩
  | assign name expression =>
      exact fun low =>
        ⟨taken (accepts_assign ⟨expression, low _ (by simp [Stmt.expressions])⟩ name),
          by rintro _ _ _ ⟨⟩⟩
  | expr expression =>
      exact fun low =>
        ⟨taken (accepts_expr ⟨expression, low _ (by simp [Stmt.expressions])⟩), by rintro _ _ _ ⟨⟩⟩

/-- Before a line, a statement is taken, or a failure in the line puts an end to it. -/
theorem comesTo_statement_line (line : Line chunk) (low : LowStatement nesting word s) :
    ComesTo turns (statement turns nesting) word (chunk ++ more) (TakenOrFailed chunk more s) := by
  obtain ⟨l, tail, rfl⟩ := line.exists_cons
  by_cases isElse : l.token = .keyword .else_
  · exact (comesTo_statement_else isElse line low.1 low.2).1
  · exact comesTo_of_accepts (accepts_of_statement turns low.1 low.2).1 isElse

/-- Before a line, an item is taken, or a failure in the line puts an end to it. -/
theorem comesTo_item_line (line : Line chunk) {found : Item}
    (low : LowItem maxNesting word found) :
    ComesTo turns (item turns) word (chunk ++ more) (TakenOrFailed chunk more found) := by
  cases found with
  | operation op =>
      have read := accepts_operation turns low
      obtain ⟨tail, rfl⟩ := exists_head_of_declaration low.1
      unfold item
      refine comesTo_peek_bind ?_
      rw [if_pos rfl]
      exact fun ts spelled short => (comesTo_of_accepts read trivial ts spelled short).return
  | statement s =>
      have comes : ComesTo turns (statement turns maxNesting) word (chunk ++ more)
          (TakenOrFailed chunk more s) := comesTo_statement_line line low
      obtain ⟨t, tail, rfl, -, -, -, other⟩ := exists_head_of_statement low.1
      unfold item
      refine comesTo_peek_bind ?_
      rw [if_neg other]
      exact fun ts spelled short => (comes ts spelled short).return

end BeforeLine

end Parse
end Script
end StagedScript
