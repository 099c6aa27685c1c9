import StagedScript.Proofs.Script.Recovery
import StagedScript.Proofs.Script.Turns

/-!
# Progress of the loop over the items

The loop over the items of a source is given a number of turns, and so are the loops of the parsers
below it. `Loops` is the loop without them: turn after turn until the end of input, where what a
turn does is the same with any number of turns from the number of tokens on, and what it leaves
begins behind its first token.

**Results.** From any tokens that end with the end of input, the loop comes to its end, and its
problems are at tokens in their order, one of them at the end of input at most
(`parseTokens_loops`).
-/

namespace StagedScript
namespace Script
namespace Parse

/-- The loop over the items of a source, and what its turns find. -/
inductive Loops : List Located → List (Except Problem Item) → Prop
  | done {l : Located} {ts : List Located} : l.token = .endOfInput → Loops (l :: ts) []
  | turn {l : Located} {ts rest : List Located} {outcome : Except Problem Item}
      {others : List (Except Problem Item)} :
      l.token ≠ .endOfInput →
      (∀ turns, (l :: ts).length ≤ turns → turn turns (l :: ts) = (outcome, rest)) →
      rest <:+ ts → Loops rest others → Loops (l :: ts) (outcome :: others)

section Turn

variable {l : Located} {ts : List Located}

theorem recover_of_end (atEnd : l.token = .endOfInput) (depth : Nat) :
    recover depth (l :: ts) = l :: ts := by
  rw [recover, atEnd]

/-- Before the end of input, skipping passes a token, and then stops or goes on. -/
theorem recover_cons (inside : l.token ≠ .endOfInput) (depth : Nat) (ts : List Located) :
    recover depth (l :: ts) = ts ∨ ∃ depth', recover depth (l :: ts) = recover depth' ts := by
  rw [recover]
  split
  next atEnd => exact absurd atEnd inside
  next =>
    split
    · exact .inl rfl
    · exact .inr ⟨depth, rfl⟩
  next => exact .inr ⟨depth + 1, rfl⟩
  next =>
    split
    · exact .inl rfl
    · exact .inr ⟨depth - 1, rfl⟩
  next => exact .inr ⟨depth, rfl⟩

/-- Skipping leaves the end of input, and before it nothing but later tokens. -/
theorem recover_suffix (ended : Ended ts) (depth : Nat) :
    recover depth ts <:+ ts ∧ Ended (recover depth ts) := by
  induction ts generalizing depth with
  | nil => exact absurd rfl ended.ne_nil
  | cons l ts ih =>
      by_cases atEnd : l.token = .endOfInput
      · rw [recover_of_end atEnd]
        exact ⟨List.suffix_rfl, ended⟩
      · have tail := ended.tail atEnd
        rcases recover_cons atEnd depth ts with stops | ⟨depth', goesOn⟩
        · rw [stops]
          exact ⟨List.suffix_cons l ts, tail⟩
        · rw [goesOn]
          obtain ⟨suffix, left⟩ := ih tail depth'
          exact ⟨suffix.trans (List.suffix_cons l ts), left⟩

/-- Skipping passes a token that is not the end of input. -/
theorem recover_suffix_tail (ended : Ended (l :: ts)) (inside : l.token ≠ .endOfInput)
    (depth : Nat) : recover depth (l :: ts) <:+ ts := by
  rcases recover_cons inside depth ts with stops | ⟨depth', goesOn⟩
  · exact stops.symm ▸ List.suffix_refl ts
  · rw [goesOn]
    exact (recover_suffix (ended.tail inside) depth').1

/-- A turn finds an item, or it fails at a token and skips from there. -/
theorem turn_cases (ended : Ended (l :: ts)) (turns : Nat) :
    (∃ found rest, turn turns (l :: ts) = (.ok found, rest) ∧ rest <:+ ts ∧ Ended rest) ∨
      ∃ problem word here left, turn turns (l :: ts) = (.error problem, recover 0 (here :: left)) ∧
        problem.position = here.position ∧ l :: ts = word ++ here :: left ∧
        Ended (here :: left) := by
  obtain ⟨word, rest, split, notEnd, ⟨⟨found, read⟩, some⟩ | ⟨problem, failed, place⟩⟩ :=
    passes_item turns (l :: ts)
  · have left : Ended rest := (split ▸ ended).of_append notEnd
    refine .inl ⟨found, rest, turn_of_yields read, ?_, left⟩
    cases word with
    | nil => simp at some
    | cons first word =>
        obtain ⟨rfl, rfl⟩ := List.cons_eq_cons.1 split
        exact List.suffix_append word rest
  · have left : Ended rest := (split ▸ ended).of_append notEnd
    cases rest with
    | nil => exact absurd rfl left.ne_nil
    | cons here rest =>
        exact .inr ⟨problem, word, here, rest, turn_of_fails failed, place, split, left⟩

/-- A turn passes a token at least. -/
theorem turn_suffix (ended : Ended (l :: ts)) (inside : l.token ≠ .endOfInput) (turns : Nat) :
    (turn turns (l :: ts)).2 <:+ ts ∧ Ended (turn turns (l :: ts)).2 := by
  rcases turn_cases ended turns with
    ⟨found, rest, finds, suffix, left⟩ | ⟨problem, word, here, left, fails, -, split, ended'⟩
  · rw [finds]
    exact ⟨suffix, left⟩
  · rw [fails]
    refine ⟨?_, (recover_suffix ended' 0).2⟩
    cases word with
    | nil =>
        obtain ⟨rfl, rfl⟩ := List.cons_eq_cons.1 split
        exact recover_suffix_tail ended inside 0
    | cons first word =>
        obtain ⟨rfl, rfl⟩ := List.cons_eq_cons.1 split
        exact (recover_suffix ended' 0).1.trans (List.suffix_append word (here :: left))

/-- With more turns than tokens, a turn does the same. -/
theorem turn_eq (ended : Ended ts) {turns : Nat} (enough : ts.length ≤ turns) :
    turn turns ts = turn ts.length ts := by
  unfold turn
  rw [agree_item enough (Nat.le_refl _) ts ended (Nat.le_refl _)]

end Turn

section Loop

variable {ts : List Located} {outcomes : List (Except Problem Item)}

/-- The loop comes to its end. The induction is on the number of tokens that are left. -/
theorem exists_loops (ended : Ended ts) : ∃ outcomes, Loops ts outcomes := by
  induction size : ts.length using Nat.strongRecOn generalizing ts with
  | ind count ih =>
      cases ts with
      | nil => exact absurd rfl ended.ne_nil
      | cons l ts =>
          by_cases atEnd : l.token = .endOfInput
          · exact ⟨[], .done atEnd⟩
          · obtain ⟨suffix, left⟩ := turn_suffix ended atEnd (l :: ts).length
            have shorter : (turn (l :: ts).length (l :: ts)).2.length < count := by
              rw [← size]
              exact Nat.lt_succ_of_le suffix.length_le
            obtain ⟨others, loops⟩ := ih _ shorter left rfl
            exact ⟨_, .turn atEnd (fun turns enough => turn_eq ended enough) suffix loops⟩

/-- With as many turns as there are tokens, or more, the loop is not cut short. -/
theorem items_of_loops (loops : Loops ts outcomes) {turns count : Nat} (enough : ts.length ≤ turns)
    (enoughToo : ts.length ≤ count) : items turns count ts = outcomes := by
  induction loops generalizing count with
  | done atEnd => exact items_of_end atEnd _ count
  | turn inside same suffix loops ih =>
      have shorter := suffix.length_le
      rw [List.length_cons] at enough enoughToo
      cases count with
      | zero => contradiction
      | succ count =>
          rw [items_eq_turn inside, same turns enough, ih (by omega) (by omega)]

/-- A failure at the end of input ends the loop, and after any other failure the loop goes on behind
the token that it was at. -/
theorem exists_places_of_loops (loops : Loops ts outcomes) (ended : Ended ts) :
    ∃ places : List Located, places.Sublist ts ∧
      (problemsOf outcomes).map Problem.position = places.map Located.position ∧
      (places.filter fun l => l.token = .endOfInput).length ≤ 1 := by
  induction loops with
  | done => exact ⟨[], List.nil_sublist _, rfl, Nat.zero_le 1⟩
  | @turn l ts rest outcome others inside same suffix loops ih =>
      have now := same _ (Nat.le_refl _)
      have left := (turn_suffix ended inside (l :: ts).length).2
      rw [now] at left
      obtain ⟨places, sublist, positions, once⟩ := ih left
      rcases turn_cases ended (l :: ts).length with
        ⟨found, rest', finds, -, -⟩ | ⟨problem, word, here, more, fails, place, split, ended'⟩
      · obtain ⟨rfl, rfl⟩ := Prod.mk.inj (now.symm.trans finds)
        exact ⟨places, (sublist.trans suffix.sublist).cons l, positions, once⟩
      · obtain ⟨rfl, rfl⟩ := Prod.mk.inj (now.symm.trans fails)
        rw [split]
        by_cases atEnd : here.token = .endOfInput
        · rw [recover_of_end atEnd] at loops
          cases loops with
          | turn inside => exact absurd atEnd inside
          | done =>
              refine ⟨[here], ?_, congrArg (fun position => [position]) place, ?_⟩
              · exact List.singleton_sublist.2 (by simp)
              · exact List.length_filter_le _ _
        · have behind := (recover_suffix_tail ended' atEnd 0).sublist
          refine ⟨here :: places, ?_, List.cons_eq_cons.2 ⟨place, positions⟩, ?_⟩
          · exact ((sublist.trans behind).cons_cons here).trans (List.sublist_append_right word _)
          · rwa [List.filter_cons_of_neg (by simpa using atEnd)]

/-- Problems are at tokens whose places in the source increase, one of them at most an end of
input. -/
def InOrder (problems : List Problem) (ts : List Located) : Prop :=
  ∃ places : List (Fin ts.length), places.Pairwise (· < ·) ∧
    problems.map Problem.position = places.map (fun place => ts[place].position) ∧
    (places.filter fun place => ts[place].token = .endOfInput).length ≤ 1

theorem inOrder_of_loops (loops : Loops ts outcomes) (ended : Ended ts) :
    InOrder (problemsOf outcomes) ts := by
  obtain ⟨places, sublist, positions, once⟩ := exists_places_of_loops loops ended
  obtain ⟨indices, rfl, increasing⟩ := List.sublist_eq_map_getElem sublist
  refine ⟨indices, increasing, ?_, ?_⟩
  · rw [positions, List.map_map]
    rfl
  · rwa [List.filter_map, List.length_map] at once

/-- From tokens that end with the end of input, the loop comes to its end, which no number of turns
keeps it from. Its problems are at tokens, in their order, one at most at the end of input. -/
theorem parseTokens_loops (ended : Ended ts) :
    ∃ outcomes, Loops ts outcomes ∧
      (∀ turns count, ts.length ≤ turns → ts.length ≤ count → items turns count ts = outcomes) ∧
      ∀ problems, parseTokens ts = .error problems → InOrder problems ts := by
  obtain ⟨outcomes, loops⟩ := exists_loops ended
  refine ⟨outcomes, loops, fun turns count => items_of_loops loops, fun problems fails => ?_⟩
  have all : problems = problemsOf outcomes := by
    unfold parseTokens at fails
    dsimp only at fails
    rw [items_of_loops loops (Nat.le_refl _) (Nat.le_refl _)] at fails
    split at fails
    · cases fails
    · exact (Except.error.inj fails).symm
  rw [all]
  exact inOrder_of_loops loops ended

/-- The theorem at `var ; } x`: a problem for each of the three parts, the last one at the end of
input. -/
theorem parseTokens_loops_thrice :
    let ts := [Token.keyword .var, .symbol .semicolon, .symbol .rightBrace, .name "x",
      .endOfInput].map (Located.mk · .first)
    Ended ts ∧ ∃ problems, parseTokens ts = .error problems ∧ problems.length = 3 ∧
      InOrder problems ts := by
  intro ts
  have ended : Ended ts := ⟨ts.dropLast, ⟨.endOfInput, .first⟩, rfl, rfl⟩
  obtain ⟨-, -, -, ordered⟩ := parseTokens_loops ended
  have fails : parseTokens ts = .error [_, _, _] := rfl
  exact ⟨ended, _, fails, rfl, ordered _ fails⟩

end Loop
end Parse
end Script
end StagedScript
