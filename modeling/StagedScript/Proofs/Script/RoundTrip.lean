import StagedScript.Proofs.Script.Completeness
import StagedScript.Proofs.Script.Lexemes

/-!
# Parsing undoes printing

A program can be read back when its names are names for the lexer, its integers are not negative
and it has no reals: then every token of its print is a lexeme. The print is derived as the
program, so that the parser has no choice but to build the program again.

**Results.** A printed program within the limits on nesting and heights is parsed as itself,
whether or not conditions stand behind `else` without braces (`parse_text`).
-/

namespace StagedScript
namespace Script

open Grammar Parse

namespace Expr

mutual

/-- Whether an expression has a print that the lexer reads token by token. -/
def isPrintable : Expr → Bool
  | .integer value => 0 ≤ value.toInt
  | .real _ => false
  | .text _ => true
  | .boolean _ => true
  | .null => true
  | .name word => isName word
  | .unary _ operand => isPrintable operand
  | .binary _ left right => isPrintable left && isPrintable right
  | .call callee arguments => isName callee && areAllPrintable arguments

/-- Whether every expression of a list has such a print. -/
def areAllPrintable : List Expr → Bool
  | [] => true
  | e :: rest => isPrintable e && areAllPrintable rest

end

theorem areAllPrintable_iff {all : List Expr} :
    areAllPrintable all = true ↔ ∀ e ∈ all, e.isPrintable = true := by
  induction all with
  | nil => simp [areAllPrintable]
  | cons e rest ih => rw [areAllPrintable, Bool.and_eq_true, ih, List.forall_mem_cons]

end Expr

namespace Stmt

mutual

/-- Whether a statement has a print that the lexer reads token by token. -/
def isPrintable : Stmt → Bool
  | .var x value => isName x && value.all Expr.isPrintable
  | .assign x value => isName x && value.isPrintable
  | .ret value => value.all Expr.isPrintable
  | .cond test yes no => test.isPrintable && areAllPrintable yes && areAllPrintable no
  | .loop test body => test.isPrintable && areAllPrintable body
  | .expr e => e.isPrintable

/-- Whether every statement of a list has such a print. -/
def areAllPrintable : List Stmt → Bool
  | [] => true
  | s :: rest => isPrintable s && areAllPrintable rest

end

end Stmt

/-- Whether an operation has a print that the lexer reads token by token. -/
def Operation.isPrintable (op : Operation) : Bool :=
  isName op.name && op.params.all isName && Stmt.areAllPrintable op.body

/-- Whether a program has a print that the lexer reads token by token. -/
def Program.isPrintable (program : Program) : Bool :=
  program.operations.all Operation.isPrintable && Stmt.areAllPrintable program.statements

/-- Tokens that are all printable. -/
def AllPrintable (ts : List Token) : Prop :=
  ∀ t ∈ ts, t.isPrintable = true

namespace AllPrintable

variable {t : Token} {ts more : List Token}

@[simp] theorem nil : AllPrintable [] := by
  simp [AllPrintable]

@[simp] theorem cons_iff : AllPrintable (t :: ts) ↔ t.isPrintable = true ∧ AllPrintable ts :=
  List.forall_mem_cons

@[simp] theorem append_iff : AllPrintable (ts ++ more) ↔ AllPrintable ts ∧ AllPrintable more :=
  List.forall_mem_append

@[simp] theorem parenthesized_iff : AllPrintable (Grammar.parenthesized ts) ↔ AllPrintable ts := by
  simp [Grammar.parenthesized, Token.isPrintable]

@[simp] theorem braced_iff : AllPrintable (Grammar.braced ts) ↔ AllPrintable ts := by
  simp [Grammar.braced, Token.isPrintable]

theorem separated {words : List (List Token)} (all : ∀ word ∈ words, AllPrintable word) :
    AllPrintable (Grammar.separated words) := by
  induction words with
  | nil => exact nil
  | cons word words ih =>
      cases words with
      | nil => simpa using all
      | cons second words =>
          rw [Grammar.separated_cons_cons, append_iff, cons_iff]
          exact ⟨all word (by simp), rfl, ih fun word member => all word (by simp [member])⟩

end AllPrintable

theorem Token.isPrintable_unary (op : UnaryOp) : op.token.isPrintable = true := by
  cases op <;> rfl

theorem Token.isPrintable_binary (op : BinaryOp) : op.token.isPrintable = true := by
  cases op <;> rfl

/-- Parentheses around a part are printable. -/
theorem allPrintable_place {part : Printed} (printable : AllPrintable part.tokens)
    (asked own : Level) : AllPrintable (part.place asked own).tokens := by
  unfold Printed.place
  split
  · exact AllPrintable.parenthesized_iff.2 printable
  · exact printable

theorem allPrintable_expression : ∀ e : Expr, e.isPrintable = true →
    AllPrintable e.print.tokens
  | .integer value, printable => AllPrintable.cons_iff.2 ⟨printable, .nil⟩
  | .real value, printable => by cases printable
  | .text value, _ => by simp [Expr.print, Printed.flat, Token.isPrintable]
  | .boolean true, _ => by simp [Expr.print, Printed.flat, Token.isPrintable]
  | .boolean false, _ => by simp [Expr.print, Printed.flat, Token.isPrintable]
  | .null, _ => by simp [Expr.print, Printed.flat, Token.isPrintable]
  | .name word, printable => AllPrintable.cons_iff.2 ⟨printable, .nil⟩
  | .unary op operand, printable => by
      have inner := allPrintable_expression operand (by simpa [Expr.isPrintable] using printable)
      exact AllPrintable.cons_iff.2
        ⟨Token.isPrintable_unary op, allPrintable_place inner .operand operand.level⟩
  | .binary op left right, printable => by
      rw [Expr.isPrintable, Bool.and_eq_true] at printable
      have first := allPrintable_expression left printable.1
      have second := allPrintable_expression right printable.2
      rw [Expr.print]
      simp only [Printed.tokens_append, AllPrintable.append_iff]
      exact ⟨⟨allPrintable_place first _ _, by simp [Printed.flat, Token.isPrintable_binary]⟩,
        allPrintable_place second _ _⟩
  | .call callee arguments, printable => by
      rw [Expr.isPrintable, Bool.and_eq_true, Expr.areAllPrintable_iff] at printable
      rw [Expr.print, Expr.printAll_eq_map]
      refine AllPrintable.append_iff.2 ⟨AllPrintable.cons_iff.2 ⟨printable.1, .nil⟩, ?_⟩
      refine AllPrintable.parenthesized_iff.2 (AllPrintable.separated fun word member => ?_)
      obtain ⟨part, inPrint, rfl⟩ := List.mem_map.1 member
      obtain ⟨e, inArguments, rfl⟩ := List.mem_map.1 inPrint
      exact allPrintable_expression e (printable.2 e inArguments)

/-- Statements that are each printable make a printable list. -/
theorem allPrintable_printAll (elseIf : Bool) {body : List Stmt}
    (all : ∀ s ∈ body, AllPrintable (s.print elseIf).tokens) :
    AllPrintable (Stmt.printAll elseIf body).tokens := by
  induction body with
  | nil => exact .nil
  | cons s body ih =>
      rw [Stmt.printAll, Printed.tokens_append, AllPrintable.append_iff]
      exact ⟨all s (by simp), ih fun s member => all s (by simp [member])⟩

theorem Stmt.areAllPrintable_iff {body : List Stmt} :
    Stmt.areAllPrintable body = true ↔ ∀ s ∈ body, s.isPrintable = true := by
  induction body with
  | nil => simp [Stmt.areAllPrintable]
  | cons s rest ih => rw [Stmt.areAllPrintable, Bool.and_eq_true, ih, List.forall_mem_cons]

theorem allPrintable_statement (elseIf : Bool) : ∀ s : Stmt, s.isPrintable = true →
    AllPrintable (s.print elseIf).tokens
  | .var x none, printable => by
      have named : isName x = true := by simpa [Stmt.isPrintable] using printable
      simp [Stmt.print, Printed.flat, Token.isPrintable, named]
  | .var x (some e), printable => by
      have both : isName x = true ∧ e.isPrintable = true := by
        simpa [Stmt.isPrintable] using printable
      simp [Stmt.print, Printed.flat, Token.isPrintable, both.1, allPrintable_expression e both.2]
  | .assign x e, printable => by
      have both : isName x = true ∧ e.isPrintable = true := by
        simpa [Stmt.isPrintable] using printable
      simp [Stmt.print, Printed.flat, Token.isPrintable, both.1, allPrintable_expression e both.2]
  | .ret none, _ => by simp [Stmt.print, Printed.flat, Token.isPrintable]
  | .ret (some e), printable => by
      simp [Stmt.print, Printed.flat, Token.isPrintable, allPrintable_expression e printable]
  | .cond test yes no, printable => by
      simp only [Stmt.isPrintable, Bool.and_eq_true, Stmt.areAllPrintable_iff] at printable
      have printableTest := allPrintable_expression test printable.1.1
      have printableYes := allPrintable_printAll elseIf
        fun s member => allPrintable_statement elseIf s (printable.1.2 s member)
      have printableNo := allPrintable_printAll elseIf
        fun s member => allPrintable_statement elseIf s (printable.2 s member)
      rw [Stmt.print]
      simp only [Printed.tokens_append, AllPrintable.append_iff]
      refine ⟨⟨⟨by simp [Printed.flat, Token.isPrintable], ?_⟩, ?_⟩, ?_⟩
      · exact AllPrintable.parenthesized_iff.2 printableTest
      · exact AllPrintable.braced_iff.2 printableYes
      · split
        · exact .nil
        · split <;> simp [Printed.flat, Printed.braces, Token.isPrintable, printableNo]
  | .loop test body, printable => by
      simp only [Stmt.isPrintable, Bool.and_eq_true, Stmt.areAllPrintable_iff] at printable
      have printableTest := allPrintable_expression test printable.1
      have printableBody := allPrintable_printAll elseIf
        fun s member => allPrintable_statement elseIf s (printable.2 s member)
      simp [Stmt.print, Printed.flat, Printed.test, Printed.braces, Token.isPrintable,
        printableTest, printableBody]
  | .expr e, printable => by
      simp [Stmt.print, Printed.flat, Token.isPrintable, allPrintable_expression e printable]

theorem allPrintable_operation (elseIf : Bool) {op : Operation}
    (printable : op.isPrintable = true) : AllPrintable (op.print elseIf).tokens := by
  simp only [Operation.isPrintable, Bool.and_eq_true, List.all_eq_true,
    Stmt.areAllPrintable_iff] at printable
  have params : AllPrintable
      (Grammar.separated (op.params.map fun param => [Token.name param])) := by
    refine AllPrintable.separated fun word member => ?_
    obtain ⟨param, inParams, rfl⟩ := List.mem_map.1 member
    exact AllPrintable.cons_iff.2 ⟨printable.1.2 param inParams, .nil⟩
  have body := allPrintable_printAll elseIf
    fun s member => allPrintable_statement elseIf s (printable.2 s member)
  simp [Operation.print, Printed.flat, Printed.braces, Token.isPrintable, printable.1.1, params,
    body]

theorem allPrintable_program (elseIf : Bool) {program : Program}
    (printable : program.isPrintable = true) : AllPrintable (program.print elseIf).tokens := by
  obtain ⟨operations, statements⟩ := program
  simp only [Program.isPrintable, Bool.and_eq_true, List.all_eq_true,
    Stmt.areAllPrintable_iff] at printable
  obtain ⟨printableOps, printableStmts⟩ := printable
  unfold Program.print
  dsimp only
  induction operations with
  | nil =>
      exact allPrintable_printAll elseIf
        fun s member => allPrintable_statement elseIf s (printableStmts s member)
  | cons op operations ih =>
      rw [List.foldr_cons, Printed.tokens_append, AllPrintable.append_iff]
      exact ⟨allPrintable_operation elseIf (printableOps op (by simp)),
        ih fun op member => printableOps op (by simp [member])⟩

/-- A source with the tokens of a printed program is parsed as the program, within the limits. -/
theorem parse_of_spelled {elseIf : Bool} {source : String} {program : Program}
    {located : List Located} (tokenized : tokenize source = .ok located)
    (spelled : tokensOf located = (program.print elseIf).tokens ++ [.endOfInput])
    (nests : (program.print elseIf).nesting ≤ maxNesting)
    (low : ∀ e ∈ program.expressions, e.height ≤ maxNesting) : parse source = .ok program := by
  have derived : Source maxNesting (tokensOf located) program :=
    spelled ▸ source_print elseIf program nests
  unfold parse
  rw [tokenized]
  exact parseTokens_of_lowSource ⟨derived, low⟩

/-- A program that can be printed, within the limits on nesting and on heights, is what its text is
parsed as. -/
theorem parse_text (elseIf : Bool) (program : Program) (printable : program.isPrintable = true)
    (nests : (program.print elseIf).nesting ≤ maxNesting)
    (low : ∀ e ∈ program.expressions, e.height ≤ maxNesting) :
    parse (program.text elseIf) = .ok program := by
  obtain ⟨located, tokenized, spelled⟩ :=
    tokenizeChars_joined (allPrintable_program elseIf printable)
  have derived : Source maxNesting (tokensOf located) program :=
    spelled ▸ source_print elseIf program nests
  unfold parse tokenize Program.text
  rw [String.toList_ofList, tokenized]
  exact parseTokens_of_lowSource ⟨derived, low⟩

/-- The theorem at a program with an operation, an escaped quote, a right operand that needs its
parentheses and a condition behind `else`. -/
theorem parse_text_example :
    let program : Program :=
      ⟨[⟨"f", ["a"], [.ret (some (.binary .sub (.name "a") (.binary .sub (.integer 2) .null)))]⟩],
        [.cond (.unary .not (.name "x")) [.expr (.call "f" [.text "\""])]
          [.cond (.boolean true) [] [.assign "x" (.integer 0)]]]⟩
    program.isPrintable = true ∧ (program.print true).nesting ≤ maxNesting ∧
      (∀ e ∈ program.expressions, e.height ≤ maxNesting) ∧
      parse (program.text true) = .ok program := by
  intro program
  have printable : program.isPrintable = true := by decide
  have nests : (program.print true).nesting ≤ maxNesting := by decide
  have low : ∀ e ∈ program.expressions, e.height ≤ maxNesting := by
    simp [program, Program.expressions, Stmt.expressionsOfAll, Stmt.expressions, Expr.height,
      Expr.heightOfAll, maxNesting]
  exact ⟨printable, nests, low, parse_text true program printable nests low⟩

end Script
end StagedScript
