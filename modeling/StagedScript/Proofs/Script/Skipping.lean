import StagedScript.Proofs.Script.Recovery

/-!
# Skipping words

After a problem the loop over the items skips to the next boundary. Within braces that is the brace
that closes them, so that statements and operations are skipped as a whole there: `Skips` keeps
count of the braces that are open before a word and after it.

**Results.** Statements and declarations are skipped as a whole within braces (`balanced_statement`,
`balanced_declaration`); outside of them, a word in braces is (`recover_braced`).
-/

namespace StagedScript
namespace Script

open Grammar

namespace Parse

section Skipping

variable {word others : List Token} {nesting before mid after : Nat}

/-- A word is skipped, and so many braces are open before it and after it. -/
structure Skips (word : List Token) (before after : Nat) : Prop where
  inside : ∀ t ∈ word, t ≠ .endOfInput
  skipped : ∀ ts more, tokensOf ts = word → recover before (ts ++ more) = recover after more

theorem skips_nil (depth : Nat) : Skips [] depth depth := by
  refine ⟨by simp, fun ts more spelled => ?_⟩
  obtain rfl : ts = [] := List.map_eq_nil_iff.1 spelled
  rfl

theorem Skips.append (first : Skips word before mid) (second : Skips others mid after) :
    Skips (word ++ others) before after := by
  refine ⟨List.forall_mem_append.2 ⟨first.inside, second.inside⟩, fun ts more spelled => ?_⟩
  obtain ⟨head, tail, rfl, spelledHead, spelledTail⟩ := tokensOf_eq_append_iff.1 spelled
  rw [List.append_assoc, first.skipped head _ spelledHead, second.skipped tail _ spelledTail]

theorem skips_singleton {t : Token} (inside : t ≠ .endOfInput)
    (step : ∀ l more, l.token = t → recover before (l :: more) = recover after more) :
    Skips [t] before after := by
  refine ⟨by simpa using inside, fun ts more spelled => ?_⟩
  obtain ⟨l, rfl, isToken⟩ := tokensOf_eq_singleton_iff.1 spelled
  exact step l more isToken

theorem skips_flat (flat : ∀ t ∈ word, Flat t) (depth : Nat) : Skips word depth depth := by
  induction word with
  | nil => exact skips_nil depth
  | cons t word ih =>
      obtain ⟨flatFirst, flatRest⟩ := List.forall_mem_cons.1 flat
      have first : Skips [t] depth depth :=
        skips_singleton flatFirst.ne_endOfInput fun l more isToken =>
          recover_flat (isToken ▸ flatFirst) depth more
      exact first.append (ih flatRest)

theorem skips_leftBrace (depth : Nat) : Skips [.symbol .leftBrace] depth (depth + 1) :=
  skips_singleton (by simp) fun l more isBrace => by rw [recover, isBrace]

theorem skips_rightBrace (depth : Nat) : Skips [.symbol .rightBrace] (depth + 2) (depth + 1) :=
  skips_singleton (by simp) fun l more isBrace => by
    rw [recover, isBrace]
    exact if_neg (by omega)

theorem skips_semicolon (depth : Nat) : Skips [.symbol .semicolon] (depth + 1) (depth + 1) :=
  skips_singleton (by simp) fun l more stops => by
    rw [recover, stops]
    exact if_neg (by omega)

/-- Within braces, a word is skipped as a whole. -/
def Balanced (word : List Token) : Prop :=
  ∀ depth, Skips word (depth + 1) (depth + 1)

theorem Balanced.append (first : Balanced word) (second : Balanced others) :
    Balanced (word ++ others) :=
  fun depth => (first depth).append (second depth)

theorem Balanced.cons {t : Token} (flat : Flat t) (balanced : Balanced word) :
    Balanced (t :: word) :=
  fun depth => (skips_flat (List.forall_mem_singleton.2 flat) (depth + 1)).append (balanced depth)

theorem balanced_semicolon : Balanced [.symbol .semicolon] :=
  skips_semicolon

theorem Balanced.braced (balanced : Balanced word) : Balanced (braced word) := by
  intro depth
  have opened := (skips_leftBrace (depth + 1)).append (balanced (depth + 1))
  exact opened.append (skips_rightBrace depth)

theorem balanced_of_inExpression (inside : ∀ t ∈ word, InExpression t) : Balanced word :=
  fun depth => skips_flat (fun t member => (inside t member).flat) (depth + 1)

theorem balanced_parenthesized {level : Level} {e : Expr}
    (derived : Expression nesting level word e) : Balanced (parenthesized word) :=
  balanced_of_inExpression (inExpression_of_mem_parenthesized (inExpression_of_mem derived))

theorem balanced_flatMap {α : Type} {parts : List (List Token × α)}
    (balanced : ∀ part ∈ parts, Balanced part.1) : Balanced (parts.flatMap Prod.fst) := by
  induction parts with
  | nil => exact fun depth => skips_nil (depth + 1)
  | cons part parts ih =>
      obtain ⟨first, others⟩ := List.forall_mem_cons.1 balanced
      exact first.append (ih others)

/-- Statements are skipped as a whole: their braces are closed, and their semicolons are within
the braces around them. -/
theorem balanced_statement {s : Stmt} (derived : Statement nesting word s) : Balanced word := by
  have ends : ∀ {nesting : Nat} {word : List Token} {e : Expr},
      Expression nesting .disjunction word e → Balanced (word ++ [.symbol .semicolon]) :=
    fun derived => (balanced_of_inExpression (inExpression_of_mem derived)).append
      balanced_semicolon
  induction derived with
  | var name => exact .cons (by simp [Flat]) (.cons (by simp [Flat]) balanced_semicolon)
  | varWith name expression =>
      exact .cons (by simp [Flat]) (.cons (by simp [Flat])
        (.cons (by simp [Flat]) (ends expression)))
  | ret => exact .cons (by simp [Flat]) balanced_semicolon
  | retWith expression => exact .cons (by simp [Flat]) (ends expression)
  | cond yes test derivedYes ih =>
      exact .cons (by simp [Flat])
        ((balanced_parenthesized test).append (balanced_flatMap ih).braced)
  | condElse yes no test derivedYes derivedNo ihYes ihNo =>
      have head := (balanced_parenthesized test).append (balanced_flatMap ihYes).braced
      exact .cons (by simp [Flat])
        (head.append (.cons (by simp [Flat]) (balanced_flatMap ihNo).braced))
  | condElseIf yes test derivedYes derivedAgain ihYes ihAgain =>
      have head := (balanced_parenthesized test).append (balanced_flatMap ihYes).braced
      exact .cons (by simp [Flat]) (head.append (.cons (by simp [Flat]) ihAgain))
  | loop body test derivedBody ih =>
      exact .cons (by simp [Flat])
        ((balanced_parenthesized test).append (balanced_flatMap ih).braced)
  | assign name expression =>
      exact .cons (by simp [Flat]) (.cons (by simp [Flat]) (ends expression))
  | expr expression => exact ends expression

theorem balanced_declaration {op : Operation} (derived : Declaration nesting word op) :
    Balanced word := by
  cases derived with
  | operation name params body derivedBody =>
      have isName : ∀ word ∈ params.map fun param => [Token.name param],
          ∀ t ∈ word, InExpression t := by
        simp [InExpression]
      have head := balanced_of_inExpression
        (inExpression_of_mem_parenthesized (inExpression_of_mem_separated isName))
      have body := balanced_flatMap fun part member => balanced_statement (derivedBody part member)
      exact .cons (by simp [Flat]) (.cons (by simp [Flat]) (head.append body.braced))

theorem balanced_item {found : Item} (low : LowItem nesting word found) : Balanced word := by
  cases found with
  | operation op => exact balanced_declaration low.1
  | statement s => exact balanced_statement low.1

theorem recover_rightBrace {l : Located} (closes : l.token = .symbol .rightBrace)
    (more : List Located) : recover 0 (l :: more) = more := by
  rw [recover, closes]
  rfl

/-- Outside of braces, a word in braces is skipped with what is in front of it. -/
theorem recover_braced {flat : List Token} (isFlat : ∀ t ∈ flat, Flat t) (balanced : Balanced word)
    {ts : List Located} (spelled : tokensOf ts = flat ++ braced word) (more : List Located) :
    recover 0 (ts ++ more) = more := by
  have opened := (skips_flat isFlat 0).append ((skips_leftBrace 0).append (balanced 0))
  obtain ⟨front, last, rfl, spelledFront, spelledLast⟩ :=
    tokensOf_eq_append_iff.1 (spelled.trans (by simp [braced]) :
      tokensOf ts = (flat ++ ([.symbol .leftBrace] ++ word)) ++ [.symbol .rightBrace])
  obtain ⟨l, rfl, closes⟩ := tokensOf_eq_singleton_iff.1 spelledLast
  rw [List.append_assoc, opened.skipped front _ spelledFront, List.singleton_append]
  rw [recover, closes]
  rfl

end Skipping
end Parse
end Script
end StagedScript
