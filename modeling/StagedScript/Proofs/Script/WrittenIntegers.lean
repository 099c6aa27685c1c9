import StagedScript.Proofs.Engine.Sources
import StagedScript.Proofs.Script.Arithmetic
import StagedScript.Proofs.Script.RoundTrip
import StagedScript.Proofs.Script.Transcript

/-!
# Integers that are written out

A negative integer is displayed with a sign in front, and the sign is read as an operator on the
integer behind it. So the digits have to fit in 64 bits without the sign, and the least integer is
the one whose digits do not.

**Results.** A program that returns an integer as it is displayed is accepted and comes to that
integer, exactly if it is not the least one (`returned_integer_iff`), which is refused
(`parse_returned_least`).
-/

namespace StagedScript

/-- The source of a program that returns a value as it is displayed. -/
def Value.returned (value : Value) : String :=
  "return " ++ value.display ++ ";"

namespace Script

/-- An integer as an expression: a literal, behind a sign if it is negative. -/
def Arithmetic.writing (value : Int64) : Arithmetic :=
  if 0 ≤ value.toInt then .literal value else .neg (.literal (Int64.ofInt (-value.toInt)))

/-- The program that returns an integer. -/
def Program.returning (value : Int64) : Program :=
  ⟨[], [.ret (some (Arithmetic.writing value).expr)]⟩

section Least

variable {value : Int64}

theorem lt_toInt_of_ne_least (notLeast : value ≠ Int64.minValue) :
    -9223372036854775808 < value.toInt := by
  have least : value.toInt ≠ -9223372036854775808 := fun same =>
    notLeast (Int64.toInt_inj.1 same)
  have bound := value.le_toInt
  omega

/-- The integer without its sign fits if it is not the least one. -/
theorem toInt_neg_of_ne_least (notLeast : value ≠ Int64.minValue) (negative : value.toInt < 0) :
    (Int64.ofInt (-value.toInt)).toInt = -value.toInt := by
  have bound := lt_toInt_of_ne_least notLeast
  exact toInt_ofInt_of_fits ⟨by omega, by omega⟩

/-- A written integer comes to itself. -/
theorem Arithmetic.outcome_writing (notLeast : value ≠ Int64.minValue) :
    (writing value).outcome = .ok (.integer value) := by
  have literal (n : Int64) : (Arithmetic.literal n).outcome = .ok (.integer n) := by
    rw [outcome_of_none (firstOffence?_literal n), exact, Int64.ofInt_toInt]
  unfold writing
  split
  next => exact literal value
  next negative =>
    rw [outcome_neg, literal]
    change exactInteger (-(Int64.ofInt (-value.toInt)).toInt) = _
    rw [toInt_neg_of_ne_least notLeast (Int.not_le.1 negative), Int.neg_neg, exactInteger_eq,
      if_pos (fits_toInt value), Int64.ofInt_toInt]

end Least

section Reading

variable {value : Int64}

theorem nesting_writing (value : Int64) :
    (Arithmetic.writing value).expr.print.nesting ≤ maxNesting := by
  unfold Arithmetic.writing
  split <;> simp [Arithmetic.expr, Expr.print, Printed.flat, Printed.prefixed, Printed.place,
    Expr.level, Level.rank, maxNesting]

theorem height_writing (value : Int64) : (Arithmetic.writing value).expr.height ≤ maxNesting := by
  unfold Arithmetic.writing
  split <;> simp [Arithmetic.expr, Expr.height, maxNesting]

/-- Digits and a semicolon are scanned as an integer and the end of a statement. -/
theorem scans_digits (positive : 0 ≤ value.toInt) (before : List Char) :
    ∃ located, tokensOf located = [.integer value, .symbol .semicolon] ∧
      Scans before ((toString value.toInt).toList ++ [';']) located [] := by
  have digits : LongestLexeme (toString value.toInt).toList [';'] (.integer value) := by
    refine longest_integer_of_ends positive ?_ (by simp)
    rintro d ⟨⟩
    decide
  have semicolon : LongestLexeme [';'] [] (.symbol .semicolon) := longest_symbol .semicolon nofun
  exact ⟨_, rfl, .lexeme .nil digits (.lexeme .nil semicolon (.stop .nil))⟩

/-- A displayed integer and a semicolon are scanned as the tokens of the integer and the end of a
statement. -/
theorem scans_displayed (notLeast : value ≠ Int64.minValue) (before : List Char) :
    ∃ located, tokensOf located = (Arithmetic.writing value).expr.print.tokens ++
        [.symbol .semicolon] ∧
      Scans before ((toString value.toInt).toList ++ [';']) located [] := by
  unfold Arithmetic.writing
  split
  next positive => exact scans_digits positive before
  next negative =>
    have negative := Int.not_le.1 negative
    have same := toInt_neg_of_ne_least notLeast negative
    have positive : 0 ≤ (Int64.ofInt (-value.toInt)).toInt := by omega
    obtain ⟨located, tokens, scans⟩ := scans_digits positive (before ++ ['-'])
    have spelled : (toString value.toInt).toList =
        '-' :: (toString (Int64.ofInt (-value.toInt)).toInt).toList := by
      rw [same]
      obtain ⟨n, isNat⟩ := Int.eq_negSucc_of_lt_zero negative
      rw [isNat]
      change ("-" ++ Nat.repr (n + 1)).toList = '-' :: (Nat.repr (n + 1)).toList
      rw [String.toList_append]
      rfl
    have sign : LongestLexeme ['-']
        ((toString (Int64.ofInt (-value.toInt)).toInt).toList ++ [';']) (.symbol .minus) := by
      refine longest_mark rfl ?_ fun _ _ _ => rfl
      rintro opens (rfl | rfl) begins <;>
        exact absurd (List.cons_prefix_cons.1 begins).1 (by decide)
    rw [spelled]
    refine ⟨⟨.symbol .minus, .ofText (before ++ [])⟩ :: located, ?_, ?_⟩
    · exact congrArg (.symbol .minus :: ·) tokens
    · rw [← List.append_nil before] at scans
      exact .lexeme .nil sign scans

/-- The source that returns an integer is the program that returns it. -/
theorem parse_returned (notLeast : value ≠ Int64.minValue) :
    parse (Value.returned (.integer value)) = .ok (.returning value) := by
  obtain ⟨located, tokens, scans⟩ := scans_displayed notLeast ("return".toList ++ [' '])
  have keyword : LongestLexeme "return".toList
      ([' '] ++ ((toString value.toInt).toList ++ [';'])) (.keyword .ret) := by
    refine longest_word ⟨by decide, List.all_eq_true.1 (by decide)⟩ ?_
    rintro d ⟨⟩
    decide
  have blank : Gap ([' '] ++ []) ((toString value.toInt).toList ++ [';']) :=
    .cons (.blank (by decide)) .nil
  have whole : Scans [] ("return".toList ++ ([' '] ++ ((toString value.toInt).toList ++ [';'])))
      (⟨.keyword .ret, .ofText []⟩ :: located) [] :=
    .lexeme .nil keyword (.afterGap blank scans)
  have source : (Value.returned (.integer value)).toList =
      "return".toList ++ ([' '] ++ ((toString value.toInt).toList ++ [';'])) := by
    simp [Value.returned, Value.display]
  have printed : (Program.print false (.returning value)).tokens =
      .keyword .ret :: (Arithmetic.writing value).expr.print.tokens ++ [.symbol .semicolon] := by
    simp [Program.print, Program.returning, Stmt.printAll, Stmt.print, Printed.flat]
  have tokenized : tokenize (Value.returned (.integer value)) = _ :=
    (congrArg tokenizeChars source).trans (tokenizeChars_of_scans whole)
  have spelled (position : Position) :
      tokensOf (⟨.keyword .ret, .ofText []⟩ :: located ++ [⟨.endOfInput, position⟩]) =
        (Program.print false (.returning value)).tokens ++ [.endOfInput] := by
    rw [printed, List.cons_append, List.cons_append, ← tokens]
    simp [tokensOf]
  refine parse_of_spelled tokenized (spelled _) ?_ ?_
  · simpa [Program.print, Program.returning, Stmt.printAll, Stmt.print, Printed.flat]
      using nesting_writing value
  · simpa [Program.expressions, Program.returning, Stmt.expressionsOfAll, Stmt.expressions]
      using height_writing value

/-- The digits of the least integer do not fit without the sign. -/
theorem parse_returned_least :
    parse (Value.returned (.integer Int64.minValue)) =
      .error [.error ⟨1, 9⟩ (Fault.integerTooLarge "9223372036854775808").message] := by
  have refused : tokenize (Value.returned (.integer Int64.minValue)) =
      .error (.error ⟨1, 9⟩ (Fault.integerTooLarge "9223372036854775808").message) := by
    decide +kernel
  rw [parse, refused]

end Reading

section Running

variable {setting : Setting}

/-- A program that returns arithmetic comes to its outcome and changes nothing. -/
theorem Eval.run_script_returning {e : Arithmetic}
    (states : setting.program.statements = [.ret (some e.expr)]) (before : Scratch) :
    (script setting).run.run before = (e.outcome.mapError .runtime, before) := by
  have body (inside : Scratch) :
      (block setting (invoke setting maxCallDepth) [.ret (some e.expr)]).run.run inside =
        ((e.outcome.mapError .runtime).map .returned, inside) := by
    rw [block, stmt, run_bind, run_bind, run_arithmetic]
    cases e.outcome <;> rfl
  rw [script, run_bind, run_inScope, states, body]
  cases e.outcome <;> rfl

end Running

end Script

namespace ScriptEngine

theorem apply_parseCode (code : String) (engine : ScriptEngine) (resources : Resources) :
    Act.apply (parseCode code) (engine, resources) =
      (.ok (engine.parsed code none).1, (engine.parsed code none).2, resources) :=
  rfl

/-- A program that returns an integer as it is displayed is accepted without problems and comes to
that integer, exactly if it is not the least one. -/
theorem returned_integer_iff (engine : ScriptEngine) (resources : Resources) (value : Int64) :
    let loaded := Act.apply (parseCode (Value.returned (.integer value))) (engine, resources)
    let ran := Act.apply execute loaded.2
    (loaded.1 = .ok true ∧ loaded.2.1.problems = [] ∧ ran.1 = .ok (.integer value)) ↔
      value ≠ Int64.minValue := by
  rw [apply_parseCode, fst_parsed]
  have adopted := adopted_parsed engine (Value.returned (.integer value)) none
  generalize (engine.parsed (Value.returned (.integer value)) none).2 = parsed at adopted ⊢
  dsimp only
  constructor
  · rintro ⟨accepted, -, -⟩ rfl
    rw [Script.parse_returned_least] at accepted
    cases accepted
  · intro notLeast
    have isProgram := Script.parse_returned notLeast
    obtain ⟨runs, problems⟩ := adopted.accepted _ isProgram
    have executed := apply_evaluate_some runs.held Script.Eval.script resources
    rw [Script.Eval.run_script_returning rfl,
      Script.Arithmetic.outcome_writing notLeast] at executed
    refine ⟨?_, problems, ?_⟩
    · rw [isProgram]
      rfl
    · exact congrArg Prod.fst executed

/-- The least integer is refused as it is displayed, and there is nothing to execute. -/
theorem returned_least_refused :
    let value : Value := .integer Int64.minValue
    let loaded := Act.apply (parseCode value.returned) (new 0, .initial)
    value.returned = "return -9223372036854775808;" ∧ loaded.1 = .ok false ∧
      loaded.2.1.problems =
        [.error ⟨1, 9⟩ (Script.Fault.integerTooLarge "9223372036854775808").message] ∧
      (Act.apply execute loaded.2).1 = .error (.runtime .noProgram) := by
  intro value
  rw [apply_parseCode, fst_parsed]
  have adopted := adopted_parsed (new 0) value.returned none
  generalize ((new 0).parsed value.returned none).2 = parsed at adopted ⊢
  have refused := Script.parse_returned_least
  obtain ⟨idle, problems⟩ := adopted.refused _ refused
  refine ⟨by decide +kernel, ?_, problems, ?_⟩
  · exact congrArg (Except.ok ∘ Except.isOk) refused
  · exact congrArg Prod.fst (apply_evaluate_none idle.held Script.Eval.script .initial)

end ScriptEngine
end StagedScript
