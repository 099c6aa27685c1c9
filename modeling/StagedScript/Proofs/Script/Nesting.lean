import StagedScript.Proofs.Script.RoundTrip

/-!
# How deep statements stand

A statement stands in the bodies and branches around it: bodies of operations and loops, and the
branches of conditions. The limit on nesting is kept by the braces of a source. A condition that
stands behind `else` without braces is a branch as well, but no brace was opened for it; so the
limit bounds how many of the other bodies and branches stand around each other
(`placed_le_of_parse`), and there are accepted programs with as many branches around a statement as
one likes (`exists_placed_of_parse`).

In a tree one does not see whether a single condition behind `else` had braces. `Stmt.placed` counts
such a branch by a number that it is given, which is one if every branch is to count.
-/

namespace StagedScript
namespace Script

open Grammar

namespace Stmt

/-- What a branch behind `else` counts, if a single condition counts as given. -/
def weight (elseIf : Nat) (no : List Stmt) : Nat :=
  if isCondition no then elseIf else 1

mutual

/-- A statement and the statements in it, each with the count of the bodies and branches around
it. -/
def placed (elseIf : Nat) : Stmt → Nat → List (Nat × Stmt)
  | .cond test yes no, around =>
      (around, .cond test yes no) ::
        (placedAll elseIf yes (around + 1) ++ placedAll elseIf no (around + weight elseIf no))
  | .loop test body, around =>
      (around, .loop test body) :: placedAll elseIf body (around + 1)
  | .var name value, around => [(around, .var name value)]
  | .assign name value, around => [(around, .assign name value)]
  | .ret value, around => [(around, .ret value)]
  | .expr e, around => [(around, .expr e)]

def placedAll (elseIf : Nat) : List Stmt → Nat → List (Nat × Stmt)
  | [], _ => []
  | s :: rest, around => placed elseIf s around ++ placedAll elseIf rest around

end

theorem mem_placedAll_iff {elseIf around : Nat} {body : List Stmt} {p : Nat × Stmt} :
    p ∈ placedAll elseIf body around ↔ ∃ s ∈ body, p ∈ s.placed elseIf around := by
  induction body with
  | nil => simp [placedAll]
  | cons s rest ih => simp [placedAll, ih]

end Stmt

/-- The statements of a program, each with the count of the bodies and branches around it. -/
def Program.placed (elseIf : Nat) (program : Program) : List (Nat × Stmt) :=
  program.operations.flatMap (fun op => Stmt.placedAll elseIf op.body 1) ++
    Stmt.placedAll elseIf program.statements 0

theorem Program.mem_placed_iff {elseIf : Nat} {program : Program} {p : Nat × Stmt} :
    p ∈ program.placed elseIf ↔
      (∃ op ∈ program.operations, p ∈ Stmt.placedAll elseIf op.body 1) ∨
        p ∈ Stmt.placedAll elseIf program.statements 0 := by
  rw [placed, List.mem_append, List.mem_flatMap]

/-! The end of input is no lexeme, so that it is found once, at the end. -/

theorem ne_endOfInput_of_readNumber {text : List Char} {token : Token} {cut : Cut}
    (read : readNumber text = .ok (token, cut)) : token ≠ .endOfInput := by
  rintro rfl
  unfold readNumber at read
  dsimp only at read
  split at read
  · cases read
  · split at read <;> cases read

theorem wordToken_ne_endOfInput (word : String) : wordToken word ≠ .endOfInput := by
  unfold wordToken
  split <;> exact Token.noConfusion

theorem ne_endOfInput_of_readLexeme {c : Char} {rest : List Char} {token : Token} {cut : Cut}
    (read : readLexeme c rest = .ok (token, cut)) : token ≠ .endOfInput := by
  rintro rfl
  unfold readLexeme at read
  split at read
  · split at read <;> cases read
  split at read
  · exact ne_endOfInput_of_readNumber read rfl
  split at read
  · exact wordToken_ne_endOfInput _ (congrArg Prod.fst (Except.ok.inj read))
  split at read
  · cases read
  · split at read <;> cases read

theorem endsOnce_of_tokensFrom {turns : Nat} :
    ∀ {position : Position} {text : List Char} {ts : List Located},
      tokensFrom turns position text = .ok ts → EndsOnce ts := by
  have last : ∀ position, EndsOnce [⟨.endOfInput, position⟩] :=
    fun position => ⟨[], _, rfl, rfl, nofun⟩
  induction turns with
  | zero =>
      rintro position text ts ⟨⟩
      exact last position
  | succ turns ih =>
      intro position text ts tokenized
      rw [tokensFrom] at tokenized
      split at tokenized
      next =>
        cases tokenized
        exact last _
      next c rest _ =>
        split at tokenized
        next => cases tokenized
        next token cut read =>
          split at tokenized
          next => cases tokenized
          next tokens others =>
            cases tokenized
            obtain ⟨body, final, rfl, isEnd, notBefore⟩ := ih others
            refine ⟨⟨token, _⟩ :: body, final, rfl, isEnd, ?_⟩
            exact List.forall_mem_cons.2 ⟨ne_endOfInput_of_readLexeme read, notBefore⟩

namespace Grammar

/-- A body or branch in braces counts one, and is derived with one less. -/
theorem placed_le_of_parts {nesting around inner : Nat} {body : List (List Token × Stmt)}
    (each : ∀ part ∈ body, ∀ around, ∀ p ∈ part.2.placed 0 around, p.1 ≤ around + nesting)
    (near : inner ≤ around + 1) :
    ∀ p ∈ Stmt.placedAll 0 (body.map Prod.snd) inner, p.1 ≤ around + (nesting + 1) := by
  intro p member
  obtain ⟨s, inBody, inside⟩ := Stmt.mem_placedAll_iff.1 member
  obtain ⟨part, isPart, rfl⟩ := List.mem_map.1 inBody
  have bound := each part isPart inner p inside
  omega

/-- What nests within a limit has no statement further in, if conditions that stand behind `else`
are not counted. -/
theorem placed_le_of_statement {nesting : Nat} {word : List Token} {s : Stmt}
    (derived : Statement nesting word s) :
    ∀ around, ∀ p ∈ s.placed 0 around, p.1 ≤ around + nesting := by
  induction derived with
  | cond yes _ _ ihYes =>
      intro around p member
      rcases List.mem_cons.1 member with rfl | member
      · exact Nat.le_add_right _ _
      rcases List.mem_append.1 member with inYes | inNo
      · exact placed_le_of_parts ihYes (Nat.le_refl _) p inYes
      · cases inNo
  | condElse yes no _ _ _ ihYes ihNo =>
      intro around p member
      rcases List.mem_cons.1 member with rfl | member
      · exact Nat.le_add_right _ _
      rcases List.mem_append.1 member with inYes | inNo
      · exact placed_le_of_parts ihYes (Nat.le_refl _) p inYes
      · refine placed_le_of_parts ihNo ?_ p inNo
        unfold Stmt.weight
        split <;> omega
  | condElseIf yes _ _ _ ihYes ihRest =>
      intro around p member
      rcases List.mem_cons.1 member with rfl | member
      · exact Nat.le_add_right _ _
      rcases List.mem_append.1 member with inYes | inRest
      · exact placed_le_of_parts ihYes (Nat.le_refl _) p inYes
      · obtain ⟨s, single, inRest⟩ := Stmt.mem_placedAll_iff.1 inRest
        obtain rfl := List.mem_singleton.1 single
        exact ihRest around p inRest
  | loop body _ _ ihBody =>
      intro around p member
      rcases List.mem_cons.1 member with rfl | member
      · exact Nat.le_add_right _ _
      · exact placed_le_of_parts ihBody (Nat.le_refl _) p member
  | _ =>
      intro around p member
      obtain rfl := List.mem_singleton.1 member
      exact Nat.le_add_right _ _

theorem placed_le_of_declaration {nesting : Nat} {word : List Token} {op : Operation}
    (declared : Declaration nesting word op) :
    ∀ p ∈ Stmt.placedAll 0 op.body 1, p.1 ≤ nesting := by
  cases declared with
  | @operation nesting name params body parts =>
      intro p member
      have each := fun part isPart => placed_le_of_statement (parts part isPart)
      have bound := placed_le_of_parts each (Nat.le_refl (0 + 1)) p member
      rwa [Nat.zero_add] at bound

theorem placed_le_of_source {nesting : Nat} {word : List Token} {program : Program}
    (derived : Source nesting word program) : ∀ p ∈ program.placed 0, p.1 ≤ nesting := by
  induction derived with
  | done => nofun
  | operation declared _ ih =>
      intro p member
      rw [Program.mem_placed_iff] at member
      rcases member with ⟨op, inOperations, inBody⟩ | inStatements
      · rcases List.mem_cons.1 inOperations with rfl | later
        · exact placed_le_of_declaration declared p inBody
        · exact ih p (Program.mem_placed_iff.2 (.inl ⟨op, later, inBody⟩))
      · exact ih p (Program.mem_placed_iff.2 (.inr inStatements))
  | statement stated _ ih =>
      intro p member
      rw [Program.mem_placed_iff] at member
      rcases member with inOperations | inStatements
      · exact ih p (Program.mem_placed_iff.2 (.inl inOperations))
      · rcases List.mem_append.1 inStatements with here | later
        · have bound := placed_le_of_statement stated 0 p here
          rwa [Nat.zero_add] at bound
        · exact ih p (Program.mem_placed_iff.2 (.inr later))

end Grammar

/-- Conditions behind `else`, one in the other; only the last one holds. -/
def elseIfChain : Nat → Stmt
  | 0 => .cond (.boolean true) [.ret (some (.integer 7))] []
  | count + 1 => .cond (.boolean false) [] [elseIfChain count]

theorem isCondition_elseIfChain (count : Nat) :
    Stmt.isCondition [elseIfChain count] = true := by
  cases count <;> rfl

/-- The conditions of a chain are printed behind `else` without braces. -/
theorem nesting_elseIfChain (count : Nat) : ((elseIfChain count).print true).nesting = 1 := by
  induction count with
  | zero => rfl
  | succ count ih =>
      rw [elseIfChain, Stmt.print, isCondition_elseIfChain]
      simp [Stmt.printAll, Printed.flat, Printed.test, Printed.braces, Expr.print, ih]

theorem isPrintable_elseIfChain (count : Nat) : (elseIfChain count).isPrintable = true := by
  induction count with
  | zero => rfl
  | succ count ih =>
      simp [elseIfChain, Stmt.isPrintable, Stmt.areAllPrintable, Expr.isPrintable, ih]

theorem height_of_mem_elseIfChain (count : Nat) :
    ∀ e ∈ (elseIfChain count).expressions, e.height = 1 := by
  induction count with
  | zero => simp [elseIfChain, Stmt.expressions, Stmt.expressionsOfAll, Expr.height]
  | succ count ih =>
      simpa [elseIfChain, Stmt.expressions, Stmt.expressionsOfAll, Expr.height] using ih

theorem mem_placed_elseIfChain (count : Nat) :
    ∀ around, (around + count, elseIfChain 0) ∈ (elseIfChain count).placed 1 around := by
  induction count with
  | zero => exact fun around => List.mem_cons_self
  | succ count ih =>
      intro around
      have further := ih (around + 1)
      rw [Nat.add_assoc, Nat.add_comm 1 count] at further
      change _ ∈ Stmt.placed 1 (.cond (.boolean false) [] [elseIfChain count]) around
      rw [Stmt.placed, Stmt.weight, isCondition_elseIfChain]
      refine List.mem_cons_of_mem _ (List.mem_append_right _ ?_)
      exact Stmt.mem_placedAll_iff.2 ⟨_, List.mem_singleton_self _, further⟩

/-- A chain of any length is accepted. -/
theorem parse_elseIfChain (count : Nat) :
    parse (Program.text true ⟨[], [elseIfChain count]⟩) = .ok ⟨[], [elseIfChain count]⟩ := by
  have printable : (⟨[], [elseIfChain count]⟩ : Program).isPrintable = true := by
    simp [Program.isPrintable, Stmt.areAllPrintable, isPrintable_elseIfChain]
  have nests : (Program.print true ⟨[], [elseIfChain count]⟩).nesting ≤ maxNesting := by
    simp [Program.print, Stmt.printAll, Printed.flat, nesting_elseIfChain, maxNesting]
  have low : ∀ e ∈ (⟨[], [elseIfChain count]⟩ : Program).expressions, e.height ≤ maxNesting := by
    intro e member
    have inChain : e ∈ (elseIfChain count).expressions := by
      simpa [Program.expressions, Stmt.expressionsOfAll] using member
    rw [height_of_mem_elseIfChain count e inChain]
    decide
  obtain ⟨located, tokenized, spelled⟩ := tokenizeChars_joined (allPrintable_program true printable)
  refine parse_of_spelled ?_ spelled nests low
  rw [tokenize, Program.text, String.toList_ofList, tokenized]

/-- In an accepted program, a statement stands in no more bodies of operations and loops and
branches of conditions than the limit on nesting, if a branch that is a single condition behind
`else` is not counted. -/
theorem placed_le_of_parse {source : String} {program : Program}
    (parsed : parse source = .ok program) : ∀ p ∈ program.placed 0, p.1 ≤ maxNesting := by
  unfold parse at parsed
  split at parsed
  next ts tokenized =>
    have ends : EndsOnce ts := endsOnce_of_tokensFrom tokenized
    exact placed_le_of_source (lowSource_of_parseTokens ends parsed).1
  next => cases parsed

/-- The bound at a chain of 129 conditions, none of which is counted behind `else`. -/
theorem placed_le_of_parse_elseIfChain :
    parse (Program.text true ⟨[], [elseIfChain 129]⟩) = .ok ⟨[], [elseIfChain 129]⟩ ∧
      ∀ p ∈ (⟨[], [elseIfChain 129]⟩ : Program).placed 0, p.1 ≤ maxNesting :=
  ⟨parse_elseIfChain 129, placed_le_of_parse (parse_elseIfChain 129)⟩

/-- However many branches are asked for, an accepted program has a statement in so many. -/
theorem exists_placed_of_parse (count : Nat) :
    ∃ source program, parse source = .ok program ∧ ∃ p ∈ program.placed 1, p.1 = count := by
  refine ⟨_, _, parse_elseIfChain count, (0 + count, elseIfChain 0), ?_, Nat.zero_add count⟩
  refine Program.mem_placed_iff.2 (.inr (Stmt.mem_placedAll_iff.2 ?_))
  exact ⟨_, List.mem_singleton_self _, mem_placed_elseIfChain count 0⟩

/-- A chain of 129 conditions behind `else` is accepted, and its last condition stands in more
branches than the limit on nesting. -/
theorem parse_elseIfChain_129 :
    parse (Program.text true ⟨[], [elseIfChain 129]⟩) = .ok ⟨[], [elseIfChain 129]⟩ ∧
      (129, elseIfChain 0) ∈ (⟨[], [elseIfChain 129]⟩ : Program).placed 1 ∧ maxNesting < 129 := by
  refine ⟨parse_elseIfChain 129, Program.mem_placed_iff.2 (.inr ?_), by decide⟩
  exact Stmt.mem_placedAll_iff.2 ⟨_, List.mem_singleton_self _, mem_placed_elseIfChain 129 0⟩

end Script
end StagedScript
