import StagedScript.Proofs.Script.Confinement

/-!
# Integer arithmetic

Arithmetic expressions are built from integers of 64 bits with a sign in front and the five
operators between. Each has an exact value, over the unbounded integers: division truncates towards
zero, and a remainder has the sign of the dividend.

The nodes of an expression are its parts in the order of their evaluation, each behind its operands.
A node offends if it divides by zero, if its exact value does not fit in 64 bits, or if it takes the
remainder of the least integer by minus one.

**Results.** An arithmetic expression comes to its exact value exactly if no node offends; else it
fails with the fault of the first node that does (`arithmetic_exact`).
-/

namespace StagedScript
namespace Script

/-- Whether an integer has 64 bits. -/
def Fits (value : Int) : Prop :=
  -9223372036854775808 ≤ value ∧ value ≤ 9223372036854775807

instance : DecidablePred Fits :=
  fun _ => inferInstanceAs (Decidable (_ ∧ _))

theorem fits_toInt (value : Int64) : Fits value.toInt :=
  ⟨value.le_toInt, Int.le_of_lt_add_one value.toInt_lt⟩

theorem toInt_ofInt_of_fits {value : Int} (fits : Fits value) :
    (Int64.ofInt value).toInt = value :=
  Int64.toInt_ofInt_of_le fits.1 (Int.lt_of_le_of_lt fits.2 (by decide))

/-- An integer operator. -/
inductive ArithmeticOp where
  | add
  | sub
  | mul
  | div
  | rem
deriving DecidableEq

namespace ArithmeticOp

/-- The operator of programs. -/
def operator : ArithmeticOp → BinaryOp
  | .add => .add
  | .sub => .sub
  | .mul => .mul
  | .div => .div
  | .rem => .rem

/-- The exact result of an operator. -/
def exact : ArithmeticOp → Int → Int → Int
  | .add, a, b => a + b
  | .sub, a, b => a - b
  | .mul, a, b => a * b
  | .div, a, b => a.tdiv b
  | .rem, a, b => a.tmod b

/-- Whether an operator with a right operand divides by zero. -/
def DividesByZero (op : ArithmeticOp) (b : Int) : Prop :=
  (op = .div ∨ op = .rem) ∧ b = 0

/-- Whether an operator with two operands overflows. -/
def Overflows (op : ArithmeticOp) (a b : Int) : Prop :=
  ¬Fits (op.exact a b) ∨ (op = .rem ∧ a = -9223372036854775808 ∧ b = -1)

instance (op : ArithmeticOp) (b : Int) : Decidable (op.DividesByZero b) :=
  inferInstanceAs (Decidable (_ ∧ _))

instance (op : ArithmeticOp) (a b : Int) : Decidable (op.Overflows a b) :=
  inferInstanceAs (Decidable (_ ∨ _))

end ArithmeticOp

/-- An arithmetic expression. -/
inductive Arithmetic where
  | literal (value : Int64)
  | neg (operand : Arithmetic)
  | binary (op : ArithmeticOp) (left right : Arithmetic)
deriving DecidableEq

namespace Arithmetic

/-- An arithmetic expression as an expression of programs. -/
def expr : Arithmetic → Expr
  | .literal value => .integer value
  | .neg operand => .unary .neg operand.expr
  | .binary op left right => .binary op.operator left.expr right.expr

/-- The exact value, over the unbounded integers. -/
def exact : Arithmetic → Int
  | .literal value => value.toInt
  | .neg operand => -operand.exact
  | .binary op left right => op.exact left.exact right.exact

/-- The parts of an expression in the order of their evaluation, the whole last. -/
def nodes : Arithmetic → List Arithmetic
  | .literal value => [.literal value]
  | .neg operand => operand.nodes ++ [.neg operand]
  | .binary op left right => left.nodes ++ right.nodes ++ [.binary op left right]

/-- Whether the divisor of a node is zero. -/
def DividesByZero : Arithmetic → Prop
  | .binary op _ right => op.DividesByZero right.exact
  | _ => False

/-- Whether the value of a node is beyond 64 bits, or counts as such. -/
def Overflows : Arithmetic → Prop
  | .binary op left right => op.Overflows left.exact right.exact
  | e => ¬Fits e.exact

instance : DecidablePred DividesByZero
  | .binary op _ right => inferInstanceAs (Decidable (op.DividesByZero right.exact))
  | .literal _ => inferInstanceAs (Decidable False)
  | .neg _ => inferInstanceAs (Decidable False)

instance : DecidablePred Overflows
  | .binary op left right => inferInstanceAs (Decidable (op.Overflows left.exact right.exact))
  | .literal value => inferInstanceAs (Decidable ¬Fits (literal value).exact)
  | .neg operand => inferInstanceAs (Decidable ¬Fits (neg operand).exact)

/-- Whether a node has no value. -/
def Offends (e : Arithmetic) : Prop :=
  e.DividesByZero ∨ e.Overflows

instance : DecidablePred Offends :=
  fun _ => inferInstanceAs (Decidable (_ ∨ _))

/-- The fault of a node that offends. -/
def fault (e : Arithmetic) : RuntimeFault :=
  if e.DividesByZero then .divisionByZero else .overflow

/-- The first node that offends. -/
def firstOffence? (e : Arithmetic) : Option Arithmetic :=
  e.nodes.find? fun node => node.Offends

/-- What an expression comes to: its value, or the fault of the first node that offends. -/
def outcome (e : Arithmetic) : Except RuntimeFault Value :=
  match e.firstOffence? with
  | none => .ok (.integer (Int64.ofInt e.exact))
  | some node => .error node.fault

theorem firstOffence?_literal (value : Int64) : (literal value).firstOffence? = none := by
  have fits : ¬(literal value).Offends := by
    rintro (zero | beyond)
    · exact zero
    · exact beyond (fits_toInt value)
  rw [firstOffence?, nodes, List.find?_singleton, if_neg (by simpa using fits)]

theorem firstOffence?_neg (operand : Arithmetic) :
    (neg operand).firstOffence? = operand.firstOffence?.or
      (if (neg operand).Offends then some (neg operand) else none) := by
  rw [firstOffence?, nodes, List.find?_append, List.find?_singleton]
  simp only [decide_eq_true_eq]
  rfl

theorem firstOffence?_binary (op : ArithmeticOp) (left right : Arithmetic) :
    (Arithmetic.binary op left right).firstOffence? =
      left.firstOffence?.or (right.firstOffence?.or
        (if (Arithmetic.binary op left right).Offends then some (.binary op left right)
          else none)) := by
  rw [firstOffence?, nodes, List.find?_append, List.find?_append, List.find?_singleton,
    Option.or_assoc]
  simp only [decide_eq_true_eq]
  rfl

theorem self_mem_nodes (e : Arithmetic) : e ∈ e.nodes := by
  cases e <;> simp [nodes]

theorem firstOffence?_eq_none_iff (e : Arithmetic) :
    e.firstOffence? = none ↔ ∀ node ∈ e.nodes, ¬node.Offends := by
  simp [firstOffence?]

/-- The value of an expression without offence has 64 bits. -/
theorem fits_of_firstOffence? {e : Arithmetic} (sound : e.firstOffence? = none) :
    Fits e.exact := by
  have whole := (firstOffence?_eq_none_iff e).1 sound e e.self_mem_nodes
  rw [Offends, not_or] at whole
  cases e with
  | literal value => exact fits_toInt value
  | neg operand => exact not_not.1 whole.2
  | binary op left right => exact not_not.1 (not_or.1 whole.2).1

end Arithmetic

/-- A result is exact or an overflow. -/
theorem exactInteger_eq (value : Int) :
    exactInteger value =
      if Fits value then .ok (.integer (Int64.ofInt value)) else .error .overflow := by
  unfold exactInteger int64?
  by_cases fits : Fits value
  · rw [if_pos fits, if_pos (show _ ∧ _ from fits)]
  · rw [if_neg fits, if_neg (show ¬(_ ∧ _) from fits)]

theorem toInt_eq_zero_iff (value : Int64) : value.toInt = 0 ↔ value = 0 :=
  Int64.toInt_inj (y := 0)

theorem remainderOverflows_iff (a b : Int64) :
    remainderOverflows a b = true ↔ a.toInt = -9223372036854775808 ∧ b.toInt = -1 := by
  unfold remainderOverflows
  rw [Bool.and_eq_true, decide_eq_true_eq, decide_eq_true_eq, ← Int64.toInt_inj,
    ← Int64.toInt_inj (y := -1)]
  rfl

/-- What an integer operator comes to: a division by zero and an overflow are found, and nothing
else is a fault. -/
theorem binaryOp_integers (op : ArithmeticOp) (a b : Int64) :
    binaryOp op.operator (.integer a) (.integer b) =
      if op.DividesByZero b.toInt then .error .divisionByZero
      else if op.Overflows a.toInt b.toInt then .error .overflow
      else .ok (.integer (Int64.ofInt (op.exact a.toInt b.toInt))) := by
  cases op with
  | add =>
    change exactInteger (a.toInt + b.toInt) = _
    rw [exactInteger_eq]
    simp [ArithmeticOp.DividesByZero, ArithmeticOp.Overflows, ArithmeticOp.exact]
  | sub =>
    change exactInteger (a.toInt - b.toInt) = _
    rw [exactInteger_eq]
    simp [ArithmeticOp.DividesByZero, ArithmeticOp.Overflows, ArithmeticOp.exact]
  | mul =>
    change exactInteger (a.toInt * b.toInt) = _
    rw [exactInteger_eq]
    simp [ArithmeticOp.DividesByZero, ArithmeticOp.Overflows, ArithmeticOp.exact]
  | div =>
    change (if b = 0 then _ else exactInteger (a.toInt.tdiv b.toInt)) = _
    rw [exactInteger_eq]
    simp [ArithmeticOp.DividesByZero, ArithmeticOp.Overflows, ArithmeticOp.exact,
      toInt_eq_zero_iff]
  | rem =>
    change (if b = 0 then _ else if remainderOverflows a b = true then _
      else exactInteger (a.toInt.tmod b.toInt)) = _
    rw [exactInteger_eq]
    simp only [ArithmeticOp.DividesByZero, ArithmeticOp.Overflows, ArithmeticOp.exact,
      toInt_eq_zero_iff, remainderOverflows_iff]
    by_cases zero : b = 0
    · simp [zero]
    · by_cases least : a.toInt = -9223372036854775808 ∧ b.toInt = -1
      · simp [zero, least]
      · simp [zero, least]

namespace Arithmetic

theorem outcome_of_some {e node : Arithmetic} (first : e.firstOffence? = some node) :
    e.outcome = .error node.fault := by
  rw [outcome, first]

theorem outcome_of_none {e : Arithmetic} (sound : e.firstOffence? = none) :
    e.outcome = .ok (.integer (Int64.ofInt e.exact)) := by
  rw [outcome, sound]

/-- If only the whole can offend, it is the node that decides. -/
theorem outcome_of_whole {e : Arithmetic}
    (first : e.firstOffence? = if e.Offends then some e else none) :
    e.outcome =
      if e.DividesByZero then .error .divisionByZero
      else if e.Overflows then .error .overflow
      else .ok (.integer (Int64.ofInt e.exact)) := by
  by_cases zero : e.DividesByZero
  · rw [if_pos (.inl zero)] at first
    rw [outcome_of_some first, fault, if_pos zero, if_pos zero]
  · by_cases beyond : e.Overflows
    · rw [if_pos (.inr beyond)] at first
      rw [outcome_of_some first, fault, if_neg zero, if_neg zero, if_pos beyond]
    · have sound : ¬e.Offends := not_or.2 ⟨zero, beyond⟩
      rw [if_neg sound] at first
      rw [outcome_of_none first, if_neg zero, if_neg beyond]

/-- A sign is taken into account when its operand has a value. -/
theorem outcome_neg (operand : Arithmetic) :
    (neg operand).outcome = operand.outcome.bind (unaryOp .neg) := by
  have first := firstOffence?_neg operand
  cases found : operand.firstOffence? with
  | some node =>
      rw [found, Option.some_or] at first
      rw [outcome_of_some first, outcome_of_some found]
      rfl
  | none =>
      rw [found, Option.none_or] at first
      rw [outcome_of_whole first, outcome_of_none found]
      change _ = exactInteger (-(Int64.ofInt operand.exact).toInt)
      rw [toInt_ofInt_of_fits (fits_of_firstOffence? found), exactInteger_eq,
        if_neg (show ¬(neg operand).DividesByZero from not_false)]
      exact ite_not _ _ _

/-- An operator is applied when both of its operands have values, the left one first. -/
theorem outcome_binary (op : ArithmeticOp) (left right : Arithmetic) :
    (binary op left right).outcome =
      left.outcome.bind fun a => right.outcome.bind fun b => binaryOp op.operator a b := by
  have first := firstOffence?_binary op left right
  cases foundLeft : left.firstOffence? with
  | some node =>
      rw [foundLeft, Option.some_or] at first
      rw [outcome_of_some first, outcome_of_some foundLeft]
      rfl
  | none =>
      rw [foundLeft, Option.none_or] at first
      rw [outcome_of_none foundLeft]
      cases foundRight : right.firstOffence? with
      | some node =>
          rw [foundRight, Option.some_or] at first
          rw [outcome_of_some first, outcome_of_some foundRight]
          rfl
      | none =>
          rw [foundRight, Option.none_or] at first
          rw [outcome_of_whole first, outcome_of_none foundRight]
          change _ = binaryOp op.operator (.integer _) (.integer _)
          rw [binaryOp_integers, toInt_ofInt_of_fits (fits_of_firstOffence? foundLeft),
            toInt_ofInt_of_fits (fits_of_firstOffence? foundRight)]
          rfl

/-- The first node that offends stands behind nodes that do not. -/
theorem firstOffence?_eq_some {e node : Arithmetic} (first : e.firstOffence? = some node) :
    ∃ front rest, e.nodes = front ++ node :: rest ∧ (∀ earlier ∈ front, ¬earlier.Offends) ∧
      node.Offends := by
  obtain ⟨offends, front, rest, split, sound⟩ := List.find?_eq_some_iff_append.1 first
  exact ⟨front, rest, split, fun earlier mem => by simpa using sound earlier mem,
    of_decide_eq_true offends⟩

end Arithmetic

namespace Eval

variable {setting : Setting} {invoke : Invoke}

theorem run_ofResult (result : Except RuntimeFault Value) (before : Scratch) :
    (ofResult result).run.run before = (result.mapError .runtime, before) := by
  cases result <;> rfl

theorem expr_binary (op : ArithmeticOp) (left right : Expr) :
    expr setting invoke (.binary op.operator left right) =
      expr setting invoke left >>= fun a => expr setting invoke right >>= fun b =>
        ofResult (binaryOp op.operator a b) := by
  cases op <;> rw [ArithmeticOp.operator, expr] <;> nofun

/-- Arithmetic comes to its outcome and changes nothing. -/
theorem run_arithmetic (e : Arithmetic) (before : Scratch) :
    (expr setting invoke e.expr).run.run before = (e.outcome.mapError .runtime, before) := by
  induction e with
  | literal value =>
      rw [Arithmetic.outcome_of_none (Arithmetic.firstOffence?_literal value), Arithmetic.exact,
        Int64.ofInt_toInt, Arithmetic.expr, expr]
      rfl
  | neg operand ih =>
      rw [Arithmetic.outcome_neg, Arithmetic.expr, expr, run_bind, ih]
      cases operand.outcome with
      | ok value => exact run_ofResult _ before
      | error cause => rfl
  | binary op left right ihLeft ihRight =>
      rw [Arithmetic.outcome_binary, Arithmetic.expr, expr_binary, run_bind, ihLeft]
      cases left.outcome with
      | error cause => rfl
      | ok a =>
          change (_ >>= _ : Eval Value).run.run before = _
          rw [run_bind, ihRight]
          cases right.outcome with
          | ok b => exact run_ofResult _ before
          | error cause => rfl

/-- Integer arithmetic is exact or an error. An arithmetic expression comes to its exact value
exactly if no node offends; if some node does, it fails with the fault of the first one, in the
order of evaluation. -/
theorem arithmetic_exact (setting : Setting) (invoke : Invoke) (e : Arithmetic)
    (before : Scratch) :
    let ran := (expr setting invoke e.expr).run.run before
    ran.2 = before ∧
      ((∃ value : Int64, ran.1 = .ok (.integer value) ∧ value.toInt = e.exact) ↔
        ∀ node ∈ e.nodes, ¬node.DividesByZero ∧ ¬node.Overflows) ∧
      ((∀ node ∈ e.nodes, ¬node.DividesByZero ∧ ¬node.Overflows) ∨
        ∃ front node rest, e.nodes = front ++ node :: rest ∧
          (∀ earlier ∈ front, ¬earlier.DividesByZero ∧ ¬earlier.Overflows) ∧
          (node.DividesByZero ∨ node.Overflows) ∧
          ∃ fault, ran.1 = .error (.runtime fault) ∧
            fault.message =
              if node.DividesByZero then "Division by zero" else "Integer overflow") := by
  intro ran
  have came : ran = (e.outcome.mapError .runtime, before) := run_arithmetic e before
  have sound_iff : e.firstOffence? = none ↔
      ∀ node ∈ e.nodes, ¬node.DividesByZero ∧ ¬node.Overflows := by
    rw [Arithmetic.firstOffence?_eq_none_iff]
    simp only [Arithmetic.Offends, not_or]
  rw [came]
  refine ⟨rfl, ?_, ?_⟩
  · rw [← sound_iff]
    constructor
    · rintro ⟨value, answer, -⟩
      cases found : e.firstOffence? with
      | none => rfl
      | some node =>
          rw [Arithmetic.outcome_of_some found] at answer
          cases answer
    · intro sound
      rw [Arithmetic.outcome_of_none sound]
      exact ⟨_, rfl, toInt_ofInt_of_fits (Arithmetic.fits_of_firstOffence? sound)⟩
  · cases found : e.firstOffence? with
    | none => exact .inl (sound_iff.1 found)
    | some node =>
        obtain ⟨front, rest, split, earlier, offends⟩ := Arithmetic.firstOffence?_eq_some found
        rw [Arithmetic.outcome_of_some found]
        refine .inr ⟨front, node, rest, split, fun n mem => not_or.1 (earlier n mem), offends,
          node.fault, rfl, ?_⟩
        rw [Arithmetic.fault]
        split <;> rfl

end Eval

end Script
end StagedScript
