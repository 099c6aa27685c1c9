import StagedScript.Script.Lexer
import StagedScript.Proofs.Script.Grammar

/-!
# Printing programs

A program is printed as its operations and then its statements, with one space between tokens. An
expression stands in parentheses only where it binds looser than its place asks for; the place of a
right operand asks for one level more than its operator has, since chains group to the left.

A printed part carries its tokens and how deep they nest, counted as the grammar counts.

**Results.** What is printed is derived by the grammar as what was printed
(`source_print`), with as much nesting as the printed program has.
-/

namespace StagedScript
namespace Script

namespace Token

/-- A character of a text literal, with a backslash before quotes and backslashes. -/
def escaped (c : Char) : List Char :=
  if c = '"' ∨ c = '\\' then ['\\', c] else [c]

/-- The characters that spell a token. -/
def spelling : Token → List Char
  | .integer value => (toString value.toInt).toList
  | .real value => (Decimal.RealFormat.literal.render value).toList
  | .text value => '"' :: (value.toList.flatMap escaped ++ ['"'])
  | .name word => word.toList
  | .keyword word => word.spelling.toList
  | .symbol mark => mark.spelling.toList
  | .endOfInput => []

end Token

/-- A printed part of a program: its tokens, and how deep they nest. -/
structure Printed where
  tokens : List Token
  nesting : Nat

namespace Printed

/-- Tokens that do not nest. -/
def flat (tokens : List Token) : Printed :=
  ⟨tokens, 0⟩

instance : Append Printed where
  append first second :=
    ⟨first.tokens ++ second.tokens, max first.nesting second.nesting⟩

@[simp] theorem tokens_append (first second : Printed) :
    (first ++ second).tokens = first.tokens ++ second.tokens :=
  rfl

@[simp] theorem nesting_append (first second : Printed) :
    (first ++ second).nesting = max first.nesting second.nesting :=
  rfl

/-- A part in parentheses that nest. -/
def parens (part : Printed) : Printed :=
  ⟨Grammar.parenthesized part.tokens, part.nesting + 1⟩

/-- A condition in its parentheses, which do not nest. -/
def test (part : Printed) : Printed :=
  ⟨Grammar.parenthesized part.tokens, part.nesting⟩

/-- A part in braces. -/
def braces (part : Printed) : Printed :=
  ⟨Grammar.braced part.tokens, part.nesting + 1⟩

/-- A prefix operator and its operand. -/
def prefixed (op : UnaryOp) (operand : Printed) : Printed :=
  ⟨op.token :: operand.tokens, operand.nesting + 1⟩

/-- Parts with commas between them. -/
def separated (parts : List Printed) : Printed :=
  ⟨Grammar.separated (parts.map tokens), (parts.map nesting).foldr max 0⟩

/-- An expression of one level at a place that asks for another. -/
def place (asked own : Level) (part : Printed) : Printed :=
  if own.rank < asked.rank then part.parens else part

end Printed

namespace Expr

/-- How tightly the outermost operator of an expression binds. -/
def level : Expr → Level
  | .binary op _ _ => op.level
  | .unary _ _ => .operand
  | _ => .primary

mutual

/-- An expression in print. -/
def print : Expr → Printed
  | .integer value => .flat [.integer value]
  | .real value => .flat [.real value]
  | .text value => .flat [.text value]
  | .boolean true => .flat [.keyword .true_]
  | .boolean false => .flat [.keyword .false_]
  | .null => .flat [.keyword .null]
  | .name word => .flat [.name word]
  | .unary op operand => .prefixed op ((print operand).place .operand operand.level)
  | .binary op left right =>
      (print left).place op.level left.level ++ .flat [op.token] ++
        (print right).place op.level.next right.level
  | .call callee arguments =>
      .flat [.name callee] ++ (Printed.separated (printAll arguments)).parens

/-- Every expression of a list in print. -/
def printAll : List Expr → List Printed
  | [] => []
  | e :: rest => print e :: printAll rest

end

theorem printAll_eq_map (all : List Expr) : printAll all = all.map print := by
  induction all with
  | nil => rfl
  | cons e rest ih => rw [printAll, ih, List.map_cons]

end Expr

namespace Stmt

/-- Whether a branch is a single condition, which needs no braces behind `else`. -/
def isCondition : List Stmt → Bool
  | [.cond _ _ _] => true
  | _ => false

mutual

/-- A statement in print. A branch that is a single condition may stand behind `else` without
braces. -/
def print (elseIf : Bool) : Stmt → Printed
  | .var name none => .flat [.keyword .var, .name name, .symbol .semicolon]
  | .var name (some e) =>
      .flat [.keyword .var, .name name, .symbol .assign] ++ e.print ++ .flat [.symbol .semicolon]
  | .assign name e =>
      .flat [.name name, .symbol .assign] ++ e.print ++ .flat [.symbol .semicolon]
  | .ret none => .flat [.keyword .ret, .symbol .semicolon]
  | .ret (some e) => .flat [.keyword .ret] ++ e.print ++ .flat [.symbol .semicolon]
  | .cond test yes no =>
      .flat [.keyword .if_] ++ test.print.test ++ (printAll elseIf yes).braces ++
        if no.isEmpty then .flat []
        else if elseIf && isCondition no then .flat [.keyword .else_] ++ printAll elseIf no
        else .flat [.keyword .else_] ++ (printAll elseIf no).braces
  | .loop test body =>
      .flat [.keyword .while_] ++ test.print.test ++ (printAll elseIf body).braces
  | .expr e => e.print ++ .flat [.symbol .semicolon]

/-- Statements in print, one after the other. -/
def printAll (elseIf : Bool) : List Stmt → Printed
  | [] => .flat []
  | s :: rest => print elseIf s ++ printAll elseIf rest

end

end Stmt

/-- An operation in print. -/
def Operation.print (elseIf : Bool) (op : Operation) : Printed :=
  .flat (.keyword .operation :: .name op.name ::
    Grammar.parenthesized (Grammar.separated (op.params.map fun param => [.name param]))) ++
      (Stmt.printAll elseIf op.body).braces

namespace Program

/-- A program in print: its operations, then its statements. -/
def print (elseIf : Bool) (program : Program) : Printed :=
  program.operations.foldr (fun op rest => op.print elseIf ++ rest)
    (Stmt.printAll elseIf program.statements)

/-- The text of a program: what spells its tokens, with one space between them. -/
def text (elseIf : Bool) (program : Program) : String :=
  String.ofList ([' '].intercalate ((program.print elseIf).tokens.map Token.spelling))

end Program

namespace Grammar

/-- What nests so deep may nest deeper. -/
theorem Expression.mono {nesting : Nat} {level : Level} {word : List Token} {e : Expr}
    (derived : Expression nesting level word e) :
    ∀ {more : Nat}, nesting ≤ more → Expression more level word e := by
  induction derived with
  | integer value => exact fun _ => .integer value
  | real value => exact fun _ => .real value
  | text value => exact fun _ => .text value
  | true_ => exact fun _ => .true_
  | false_ => exact fun _ => .false_
  | null => exact fun _ => .null
  | name name => exact fun _ => .name name
  | call name arguments _ ih =>
      intro more le
      obtain ⟨more, rfl⟩ := Nat.exists_eq_add_one_of_ne_zero (n := more) (by omega)
      exact .call name arguments fun argument member => ih argument member (by omega)
  | parens _ ih =>
      intro more le
      obtain ⟨more, rfl⟩ := Nat.exists_eq_add_one_of_ne_zero (n := more) (by omega)
      exact .parens (ih (by omega))
  | unary op _ ih =>
      intro more le
      obtain ⟨more, rfl⟩ := Nat.exists_eq_add_one_of_ne_zero (n := more) (by omega)
      exact .unary op (ih (by omega))
  | binary op _ _ ihLeft ihRight => exact fun le => .binary op (ihLeft le) (ihRight le)
  | tighter level _ ih => exact fun le => .tighter level (ih le)

theorem Statement.mono {nesting : Nat} {word : List Token} {s : Stmt}
    (derived : Statement nesting word s) :
    ∀ {more : Nat}, nesting ≤ more → Statement more word s := by
  induction derived with
  | var name => exact fun _ => .var name
  | varWith name expression => exact fun le => .varWith name (expression.mono le)
  | ret => exact fun _ => .ret
  | retWith expression => exact fun le => .retWith (expression.mono le)
  | cond yes test _ ih =>
      intro more le
      obtain ⟨more, rfl⟩ := Nat.exists_eq_add_one_of_ne_zero (n := more) (by omega)
      exact .cond yes (test.mono le) fun part member => ih part member (by omega)
  | condElse yes no test _ _ ihYes ihNo =>
      intro more le
      obtain ⟨more, rfl⟩ := Nat.exists_eq_add_one_of_ne_zero (n := more) (by omega)
      exact .condElse yes no (test.mono le) (fun part member => ihYes part member (by omega))
        fun part member => ihNo part member (by omega)
  | condElseIf yes test _ _ ihYes ihAgain =>
      intro more le
      obtain ⟨more, rfl⟩ := Nat.exists_eq_add_one_of_ne_zero (n := more) (by omega)
      exact .condElseIf yes (test.mono le) (fun part member => ihYes part member (by omega))
        (ihAgain le)
  | loop body test _ ih =>
      intro more le
      obtain ⟨more, rfl⟩ := Nat.exists_eq_add_one_of_ne_zero (n := more) (by omega)
      exact .loop body (test.mono le) fun part member => ih part member (by omega)
  | assign name expression => exact fun le => .assign name (expression.mono le)
  | expr expression => exact fun le => .expr (expression.mono le)

/-- What binds tight may stand where less is asked for. -/
theorem Expression.loosen {nesting : Nat} {word : List Token} {e : Expr} {asked : Level} :
    ∀ {own : Level}, Expression nesting own word e → asked.rank ≤ own.rank →
      Expression nesting asked word e := by
  intro own derived le
  by_cases same : asked = own
  · exact same ▸ derived
  · have closer : asked.next.rank ≤ own.rank ∧ asked.rank < asked.next.rank := by
      cases asked <;> cases own <;> first | decide | exact absurd rfl same | simp [Level.rank] at le
    exact .tighter asked (derived.loosen closer.1)
termination_by own => own.rank - asked.rank

end Grammar

open Grammar

/-- An expression at a place that asks for some level. -/
theorem expression_place {part : Printed} {own : Level} {e : Expr} (asked : Level)
    (derived : Expression part.nesting own part.tokens e) :
    Expression (part.place asked own).nesting asked (part.place asked own).tokens e := by
  unfold Printed.place
  split
  next =>
    have whole : Expression part.nesting .disjunction part.tokens e :=
      derived.loosen (Nat.zero_le _)
    exact (Expression.parens whole).loosen (by cases asked <;> decide)
  next fits => exact derived.loosen (Nat.le_of_not_lt fits)

/-- A part nests no deeper than the deepest of a list. -/
theorem nesting_le_separated {part : Printed} : ∀ {parts : List Printed}, part ∈ parts →
    part.nesting ≤ (Printed.separated parts).nesting
  | other :: parts, member => by
      change part.nesting ≤ max other.nesting (Printed.separated parts).nesting
      rcases List.mem_cons.1 member with rfl | member
      · exact Nat.le_max_left _ _
      · exact Nat.le_trans (nesting_le_separated member) (Nat.le_max_right _ _)

/-- A printed expression is derived as itself, at its own level. -/
theorem expression_print : ∀ e : Expr, Expression e.print.nesting e.level e.print.tokens e
  | .integer value => .integer value
  | .real value => .real value
  | .text value => .text value
  | .boolean true => .true_
  | .boolean false => .false_
  | .null => .null
  | .name name => .name name
  | .unary op operand => .unary op (expression_place .operand (expression_print operand))
  | .binary op left right => by
      have derivedLeft := expression_place op.level (expression_print left)
      have derivedRight := expression_place op.level.next (expression_print right)
      have derived := Expression.binary op
        (derivedLeft.mono (Nat.le_trans (Nat.le_max_left _ 0) (Nat.le_max_left _ _)))
        (derivedRight.mono (Nat.le_max_right (max _ 0) _))
      rw [Expr.print, Expr.level]
      simpa [Printed.flat] using derived
  | .call name arguments => by
      have derived := Expression.call name (arguments.map fun e => (e.print.tokens, e))
        fun argument member => by
          obtain ⟨e, inArguments, rfl⟩ := List.mem_map.1 member
          have inPrint := List.mem_map_of_mem (f := Expr.print) inArguments
          exact ((expression_print e).loosen (Nat.zero_le _)).mono (nesting_le_separated inPrint)
      change Expression _ .primary _ _
      rw [Expr.print, Expr.printAll_eq_map]
      simpa [Printed.flat, Printed.parens, Printed.separated, Function.comp_def] using derived

/-- Parts that derive printed statements, one each. -/
structure DerivesAll (elseIf : Bool) (body : List Stmt) (parts : List (List Token × Stmt)) :
    Prop where
  values : parts.map Prod.snd = body
  words : parts.flatMap Prod.fst = (Stmt.printAll elseIf body).tokens
  all : ∀ part ∈ parts, ∀ {more : Nat}, (Stmt.printAll elseIf body).nesting ≤ more →
    Statement more part.1 part.2

theorem exists_derivesAll {elseIf : Bool} : ∀ body : List Stmt,
    (∀ s ∈ body, Statement (s.print elseIf).nesting (s.print elseIf).tokens s) →
    ∃ parts, DerivesAll elseIf body parts
  | [], _ => ⟨[], rfl, rfl, by simp⟩
  | s :: body, derived => by
      obtain ⟨parts, values, words, all⟩ :=
        exists_derivesAll body fun s member => derived s (List.mem_cons_of_mem _ member)
      refine ⟨((s.print elseIf).tokens, s) :: parts, by rw [List.map_cons, values], ?_, ?_⟩
      · rw [List.flatMap_cons, words]
        rfl
      · intro part member more le
        rcases List.mem_cons.1 member with rfl | member
        · exact (derived s (by simp)).mono (Nat.le_trans (Nat.le_max_left _ _) le)
        · exact all part member (Nat.le_trans (Nat.le_max_right _ _) le)

/-- A whole expression in print. -/
theorem expression_print_whole (e : Expr) :
    Expression e.print.nesting .disjunction e.print.tokens e :=
  (expression_print e).loosen (Nat.zero_le _)

theorem isCondition_iff {body : List Stmt} :
    Stmt.isCondition body = true ↔ ∃ test yes no, body = [.cond test yes no] := by
  constructor
  · intro h
    unfold Stmt.isCondition at h
    split at h
    · exact ⟨_, _, _, rfl⟩
    · cases h
  · rintro ⟨test, yes, no, rfl⟩
    rfl

/-- A printed condition is derived as itself: without an else branch, with a condition in its place,
or with a block. -/
theorem statement_print_cond {elseIf : Bool} {test : Expr} {yes no : List Stmt}
    {yesParts noParts : List (List Token × Stmt)} (derivesYes : DerivesAll elseIf yes yesParts)
    (derivesNo : DerivesAll elseIf no noParts) :
    Statement ((Stmt.cond test yes no).print elseIf).nesting
      ((Stmt.cond test yes no).print elseIf).tokens (.cond test yes no) := by
  have depth : max test.print.nesting ((Stmt.printAll elseIf yes).nesting + 1) ≤
      ((Stmt.cond test yes no).print elseIf).nesting := by
    simp only [Stmt.print, Printed.nesting_append, Printed.test, Printed.braces]
    omega
  obtain ⟨less, isMore⟩ := Nat.exists_eq_add_one_of_ne_zero
    (n := ((Stmt.cond test yes no).print elseIf).nesting) (by omega)
  have derivedTest : Expression (less + 1) .disjunction test.print.tokens test :=
    (expression_print_whole test).mono (by omega)
  have derivedYes : ∀ part ∈ yesParts, Statement less part.1 part.2 :=
    fun part member => derivesYes.all part member (by omega)
  rw [isMore]
  rw [Stmt.print] at isMore ⊢
  by_cases empty : no.isEmpty
  · obtain rfl := List.isEmpty_iff.1 empty
    have derived := Statement.cond yesParts derivedTest derivedYes
    simpa [Printed.flat, Printed.test, Printed.braces, derivesYes.values, derivesYes.words]
      using derived
  · rw [if_neg empty] at isMore ⊢
    by_cases chained : elseIf && Stmt.isCondition no
    · rw [if_pos chained] at isMore ⊢
      obtain ⟨test', yes', no', rfl⟩ := isCondition_iff.1 (Bool.and_eq_true_iff.1 chained).2
      obtain ⟨part, rfl, value⟩ := List.map_eq_singleton_iff.1 derivesNo.values
      simp only [Printed.nesting_append] at isMore
      have derivedNo : Statement (less + 1) part.1 (.cond test' yes' no') :=
        value ▸ derivesNo.all part (by simp) (by omega)
      have derived := Statement.condElseIf yesParts derivedTest derivedYes derivedNo
      have words := derivesNo.words
      rw [List.flatMap_singleton] at words
      simpa [Printed.flat, Printed.test, Printed.braces, derivesYes.values, derivesYes.words,
        words] using derived
    · rw [if_neg chained] at isMore ⊢
      simp only [Printed.nesting_append, Printed.braces] at isMore
      have derivedNo : ∀ part ∈ noParts, Statement less part.1 part.2 :=
        fun part member => derivesNo.all part member (by omega)
      have derived := Statement.condElse yesParts noParts derivedTest derivedYes derivedNo
      simpa [Printed.flat, Printed.test, Printed.braces, derivesYes.values, derivesYes.words,
        derivesNo.values, derivesNo.words] using derived

theorem statement_print_loop {elseIf : Bool} {test : Expr} {body : List Stmt}
    {parts : List (List Token × Stmt)} (derives : DerivesAll elseIf body parts) :
    Statement ((Stmt.loop test body).print elseIf).nesting
      ((Stmt.loop test body).print elseIf).tokens (.loop test body) := by
  have depth : ((Stmt.loop test body).print elseIf).nesting =
      max test.print.nesting ((Stmt.printAll elseIf body).nesting + 1) := by
    simp [Stmt.print, Printed.flat, Printed.test, Printed.braces]
  obtain ⟨less, isMore⟩ := Nat.exists_eq_add_one_of_ne_zero
    (n := ((Stmt.loop test body).print elseIf).nesting) (by omega)
  have derivedTest : Expression (less + 1) .disjunction test.print.tokens test :=
    (expression_print_whole test).mono (by omega)
  have derived := Statement.loop parts derivedTest
    fun part member => derives.all part member (by omega)
  rw [isMore, Stmt.print]
  simpa [Printed.flat, Printed.test, Printed.braces, derives.values, derives.words] using derived

/-- A printed statement is derived as itself. -/
theorem statement_print (elseIf : Bool) : ∀ s : Stmt,
    Statement (s.print elseIf).nesting (s.print elseIf).tokens s
  | .var name none => .var name
  | .var name (some e) => by
      have derived := Statement.varWith name (expression_print_whole e)
      rw [Stmt.print]
      simpa [Printed.flat] using derived
  | .assign name e => by
      have derived := Statement.assign name (expression_print_whole e)
      rw [Stmt.print]
      simpa [Printed.flat] using derived
  | .ret none => .ret
  | .ret (some e) => by
      have derived := Statement.retWith (expression_print_whole e)
      rw [Stmt.print]
      simpa [Printed.flat] using derived
  | .cond test yes no => by
      obtain ⟨yesParts, derivesYes⟩ :=
        exists_derivesAll yes fun s _ => statement_print elseIf s
      obtain ⟨noParts, derivesNo⟩ :=
        exists_derivesAll no fun s _ => statement_print elseIf s
      exact statement_print_cond derivesYes derivesNo
  | .loop test body => by
      obtain ⟨parts, derives⟩ :=
        exists_derivesAll body fun s _ => statement_print elseIf s
      exact statement_print_loop derives
  | .expr e => by
      have derived := Statement.expr (expression_print_whole e)
      rw [Stmt.print]
      simpa [Printed.flat] using derived

theorem declaration_print (elseIf : Bool) (op : Operation) {nesting : Nat}
    (fits : (op.print elseIf).nesting ≤ nesting) :
    Declaration nesting (op.print elseIf).tokens op := by
  obtain ⟨parts, derives⟩ := exists_derivesAll op.body fun s _ => statement_print elseIf s
  have depth : (op.print elseIf).nesting = (Stmt.printAll elseIf op.body).nesting + 1 :=
    Nat.zero_max _
  obtain ⟨less, rfl⟩ := Nat.exists_eq_add_one_of_ne_zero (n := nesting) (by omega)
  have derivedBody : ∀ part ∈ parts, Statement less part.1 part.2 :=
    fun part member => derives.all part member (by omega)
  have derived := Declaration.operation op.name op.params parts derivedBody
  rw [Operation.print]
  simpa [Printed.flat, Printed.braces, derives.values, derives.words] using derived

/-- A printed program is derived as itself, with as much nesting as the print has. -/
theorem source_print (elseIf : Bool) {nesting : Nat} (program : Program)
    (fits : (program.print elseIf).nesting ≤ nesting) :
    Source nesting ((program.print elseIf).tokens ++ [.endOfInput]) program := by
  obtain ⟨operations, statements⟩ := program
  unfold Program.print at fits ⊢
  dsimp only at fits ⊢
  induction operations with
  | nil =>
      rw [List.foldr_nil] at fits ⊢
      induction statements with
      | nil => exact .done
      | cons s statements ih =>
          rw [Stmt.printAll, Printed.nesting_append] at fits
          rw [Stmt.printAll, Printed.tokens_append, List.append_assoc]
          exact .statement ((statement_print elseIf s).mono (by omega)) (ih (by omega))
  | cons op operations ih =>
      rw [List.foldr_cons, Printed.nesting_append] at fits
      rw [List.foldr_cons, Printed.tokens_append, List.append_assoc]
      exact .operation (declaration_print elseIf op (by omega)) (ih (by omega))

example :
    (Program.mk [] [.cond (.unary .not (.name "x")) [.expr (.call "f" [.text "\""])]
      [.cond .null [] [.assign "x" (.binary .sub (.integer 2) (.binary .sub (.integer 1) .null))]]]
      ).text true =
    "if ( not x ) \x7b f ( \"\\\"\" ) ; \x7d else if ( null ) \x7b \x7d else \x7b x = 2 - ( 1 - null ) ; \x7d" := by
  rfl

end Script
end StagedScript
