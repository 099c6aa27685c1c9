import Mathlib.Data.List.Forall2
import StagedScript.Proofs.Script.Lines

/-!
# Recovery from malformed lines

The loop over the items of a source takes one turn for each item, and one for each problem: after a
problem it skips past the next boundary. What is skipped on a line is the rest of the line, so that
the next turn starts behind it.

**Results.** A source of well-formed items and malformed lines has one problem for each malformed
line, at a token of it; without malformed lines it is the program of its items
(`parseTokens_chunks`).
-/

namespace StagedScript
namespace Script
namespace Parse

/-- One turn of the loop over the items: an item, or a problem and a skip to the next boundary. -/
def turn (turns : Nat) (ts : List Located) : Except Problem Item × List Located :=
  match (item turns).run.run ts with
  | (.ok found, rest) => (.ok found, rest)
  | (.error problem, rest) => (.error problem, recover 0 rest)

theorem turn_of_yields {turns : Nat} {ts rest : List Located} {found : Item}
    (read : Yields (item turns) ts found rest) : turn turns ts = (.ok found, rest) := by
  unfold Yields at read
  unfold turn
  rw [read]

theorem turn_of_fails {turns : Nat} {ts rest : List Located} {problem : Problem}
    (failed : Fails (item turns) ts problem rest) :
    turn turns ts = (.error problem, recover 0 rest) := by
  unfold Fails at failed
  unfold turn
  rw [failed]

theorem yields_of_turn {turns : Nat} {ts rest : List Located} {found : Item}
    (finds : turn turns ts = (.ok found, rest)) : Yields (item turns) ts found rest := by
  unfold turn at finds
  split at finds
  next run =>
    cases finds
    exact run
  next => cases finds

/-- Before the end of input, the items are what one turn finds and what the others find. -/
theorem items_eq_turn {turns count : Nat} {l : Located} {ts : List Located}
    (inside : l.token ≠ .endOfInput) :
    items turns (count + 1) (l :: ts) =
      (turn turns (l :: ts)).1 :: items turns count (turn turns (l :: ts)).2 := by
  rw [items, if_neg inside]
  unfold turn
  rcases (item turns).run.run (l :: ts) with ⟨_ | found, rest⟩ <;> rfl

theorem items_of_end {turns : Nat} {l : Located} (atEnd : l.token = .endOfInput)
    (ts : List Located) : ∀ count, items turns count (l :: ts) = []
  | 0 => rfl
  | count + 1 => by rw [items, if_pos atEnd]

/-- With a turn left, there are no items only at the end of input. -/
theorem exists_of_items_eq_nil {turns count : Nat} {ts : List Located} (ends : EndsOnce ts)
    (none : items turns (count + 1) ts = []) : ∃ last, ts = [last] := by
  cases ts with
  | nil => exact absurd rfl ends.ne_nil
  | cons l ts =>
      by_cases atEnd : l.token = .endOfInput
      · exact ⟨l, by rw [ends.eq_singleton atEnd]⟩
      · rw [items_eq_turn atEnd] at none
        cases none

section Skipping

variable {l : Located} {chunk more : List Located}

theorem recover_flat (flat : Flat l.token) (depth : Nat) (ts : List Located) :
    recover depth (l :: ts) = recover depth ts := by
  rw [recover]
  split
  next atEnd => exact absurd atEnd flat.ne_endOfInput
  next stops => simp [Flat, stops] at flat
  next opens => simp [Flat, opens] at flat
  next closes => simp [Flat, closes] at flat
  next => rfl

/-- Outside of braces, a line is skipped. -/
theorem recover_line : ∀ {chunk : List Located}, Line chunk → recover 0 (chunk ++ more) = more
  | [], line => by
      obtain ⟨l, tail, none⟩ := line.exists_cons
      cases none
  | l :: chunk, line => by
      rcases line_cons_iff.1 line with ⟨stops, rfl⟩ | ⟨flat, rest⟩
      · rw [List.cons_append, List.nil_append, recover]
        simp [stops]
      · rw [List.cons_append, recover_flat flat]
        exact recover_line rest

/-- After a failure in a line, the next turn starts behind the line. -/
theorem turn_of_failedIn {turns : Nat} {ts : List Located} (line : Line chunk)
    (failed : FailedIn chunk more ((item turns).run.run ts)) :
    ∃ problem, (∃ here ∈ chunk, problem.position = here.position) ∧
      turn turns ts = (.error problem, more) := by
  obtain ⟨problem, passed, here, left, rfl, place, outcome⟩ := failed
  refine ⟨problem, ⟨here, by simp, place⟩, ?_⟩
  rw [turn_of_fails outcome, ← List.cons_append, recover_line line.of_append]

end Skipping

/-- The loop over the items finds the problems, whatever number of turns it has left beyond the
number of tokens. -/
def Reports (turns : Nat) (ts : List Located) (problems : List Problem) : Prop :=
  ∀ count, ts.length ≤ count → problemsOf (items turns count ts) = problems

section Reporting

variable {turns : Nat} {l : Located} {ts rest chunk more : List Located} {problems : List Problem}

theorem reports_end (atEnd : l.token = .endOfInput) : Reports turns (l :: ts) [] := by
  intro count _
  rw [items_of_end atEnd]
  rfl

/-- A turn that finds an item leaves the problems to the others. -/
theorem reports_of_found {found : Item} (inside : l.token ≠ .endOfInput)
    (finds : turn turns (l :: ts) = (.ok found, rest)) (shorter : rest.length ≤ ts.length)
    (others : Reports turns rest problems) : Reports turns (l :: ts) problems := by
  intro count enough
  cases count with
  | zero => simp at enough
  | succ count =>
      rw [List.length_cons] at enough
      rw [items_eq_turn inside, finds]
      exact others count (by omega)

/-- A turn that fails puts a problem in front of those of the others. -/
theorem reports_of_problem {problem : Problem} (inside : l.token ≠ .endOfInput)
    (fails : turn turns (l :: ts) = (.error problem, rest)) (shorter : rest.length ≤ ts.length)
    (others : Reports turns rest problems) : Reports turns (l :: ts) (problem :: problems) := by
  intro count enough
  cases count with
  | zero => simp at enough
  | succ count =>
      rw [List.length_cons] at enough
      rw [items_eq_turn inside, fails]
      exact congrArg (problem :: ·) (others count (by omega))

/-- An item that is taken leaves the problems to the others. -/
theorem reports_item {tokens : List Located} {found : Item}
    (low : LowItem maxNesting (tokensOf tokens) found)
    (read : Yields (item turns) (tokens ++ more) found more)
    (others : Reports turns more problems) :
    Reports turns (tokens ++ more) problems := by
  obtain ⟨t, words, isWord, inside, -⟩ := exists_head_of_item low
  obtain ⟨l, tail, rfl, rfl, -⟩ := tokensOf_eq_cons_iff.1 isWord
  exact reports_of_found inside (turn_of_yields read) (by simp) others

/-- An item is taken where nothing goes on with it. -/
theorem reports_accepted {tokens : List Located} {found : Item}
    (low : LowItem maxNesting (tokensOf tokens) found) (short : (tokens ++ more).length ≤ turns)
    (follows : headToken more ≠ .keyword .else_) (others : Reports turns more problems) :
    Reports turns (tokens ++ more) problems :=
  reports_item low (accepts_item turns low tokens more rfl short follows) others

/-- A failure in a line is a problem at one of its tokens, and the other turns start behind it. -/
theorem reports_failure (front : List Located) (line : Line chunk)
    (inside : ∀ l ∈ front.head?, l.token ≠ .endOfInput)
    (failed : FailedIn chunk more ((item turns).run.run (front ++ (chunk ++ more))))
    (others : Reports turns more problems) :
    ∃ problem, (∃ l ∈ chunk, problem.position = l.position) ∧
      Reports turns (front ++ (chunk ++ more)) (problem :: problems) := by
  obtain ⟨problem, place, fails⟩ := turn_of_failedIn line failed
  refine ⟨problem, place, ?_⟩
  obtain ⟨first, tail, rfl⟩ := line.exists_cons
  cases front with
  | nil =>
      exact reports_of_problem (line.token_ne (by simp [Flat]) (by simp) first (by simp)) fails
        (by simp) others
  | cons l front =>
      exact reports_of_problem (inside l rfl) fails (by simp; omega) others

theorem parseTokens_error_of_reports (reports : Reports ts.length ts problems)
    (some : problems ≠ []) : parseTokens ts = .error problems := by
  unfold parseTokens
  dsimp only
  rw [reports ts.length (Nat.le_refl _), if_neg (by simpa using some)]

end Reporting

/-- A single item is told from its program. -/
theorem eq_singleton_of_ofItems {found : Item} {items : List Item}
    (same : Program.ofItems items = .ofItems [found]) : items = [found] := by
  have count : ∀ items : List Item,
      (Program.ofItems items).operations.length + (Program.ofItems items).statements.length =
        items.length := by
    intro items
    induction items with
    | nil => rfl
    | cons first items ih =>
        cases first <;> simp [Program.ofItems] at ih ⊢ <;> omega
  have one : items.length = 1 := by
    rw [← count, same, count, List.length_singleton]
  obtain ⟨only, rfl⟩ := List.length_eq_one_iff.1 one
  cases only <;> cases found <;> simp [Program.ofItems] at same <;> rw [same]

/-- A piece of a source that, alone before the end of input, is one item, or a line that is no
statement. -/
inductive Chunk (last : Located) : List Located → Option Item → Prop
  | item {tokens : List Located} {found : Item} :
      (∀ l ∈ tokens, l.token ≠ .endOfInput) →
      parseTokens (tokens ++ [last]) = .ok (.ofItems [found]) →
      Chunk last tokens (some found)
  | malformed {tokens : List Located} :
      Line tokens →
      (∀ s, parseTokens (tokens ++ [last]) ≠ .ok ⟨[], [s]⟩) →
      Chunk last tokens none

section Chunks

variable {last : Located}

/-- What alone is parsed as one item is derived as that item. -/
theorem lowItem_of_alone (isEnd : last.token = .endOfInput) {tokens : List Located} {found : Item}
    (inside : ∀ l ∈ tokens, l.token ≠ .endOfInput)
    (alone : parseTokens (tokens ++ [last]) = .ok (.ofItems [found])) :
    LowItem maxNesting (tokensOf tokens) found := by
  obtain ⟨items, sameItems, same⟩ := parseTokens_eq_ok_iff.1 alone
  obtain rfl := eq_singleton_of_ofItems same.symm
  have ends : EndsOnce (tokens ++ [last]) := ⟨tokens, last, rfl, isEnd, inside⟩
  cases tokens with
  | nil =>
      rw [List.nil_append, items_of_end isEnd] at sameItems
      cases sameItems
  | cons l tail =>
      rw [List.cons_append, List.length_cons, List.length_append, List.length_singleton,
        items_eq_turn (inside l (by simp))] at sameItems
      rcases taken : turn (tail.length + 1 + 1) (l :: (tail ++ [last])) with ⟨outcome, rest⟩
      rw [taken] at sameItems
      obtain ⟨rfl, others⟩ := List.cons_eq_cons.1 sameItems
      obtain ⟨word, split, ends', low⟩ :=
        reads_item _ (l :: (tail ++ [last])) found rest ends (by simp) (yields_of_turn taken)
      obtain ⟨end', rfl⟩ := exists_of_items_eq_nil ends' others
      rw [← List.cons_append] at split
      obtain ⟨rfl, -⟩ := List.append_inj' split rfl
      exact low

/-- A line that alone is no statement is malformed. -/
theorem malformed_of_alone (isEnd : last.token = .endOfInput) {tokens : List Located}
    (line : Line tokens) (alone : ∀ s, parseTokens (tokens ++ [last]) ≠ .ok ⟨[], [s]⟩) :
    Malformed tokens := by
  refine ⟨line, fun s low => alone s (parseTokens_of_lowSource ?_)⟩
  have item : LowItem maxNesting (tokensOf tokens) (.statement s) := low
  have spelled : tokensOf (tokens ++ [last]) = tokensOf tokens ++ [.endOfInput] := by
    simp [tokensOf, isEnd]
  rw [spelled]
  exact lowSource_cons item lowSource_end

/-- An item does not go on with a condition. -/
theorem Chunk.headToken_ne_else {tokens : List Located} {found : Item}
    (isEnd : last.token = .endOfInput) (chunk : Chunk last tokens (some found))
    (more : List Located) : headToken (tokens ++ more) ≠ .keyword .else_ := by
  cases chunk with
  | item inside alone =>
      obtain ⟨t, tail, isWord, -, notElse⟩ :=
        exists_head_of_item (lowItem_of_alone isEnd inside alone)
      rwa [headToken_append_of_tokensOf isWord]

/-- The tokens of chunks, and the end of input. -/
def sourceOf {α : Type} (chunks : List (List Located × α)) (last : Located) : List Located :=
  chunks.flatMap Prod.fst ++ [last]

@[simp] theorem sourceOf_nil {α : Type} :
    sourceOf ([] : List (List Located × α)) last = [last] :=
  rfl

@[simp] theorem sourceOf_cons {α : Type} {chunk : List Located × α}
    {chunks : List (List Located × α)} :
    sourceOf (chunk :: chunks) last = chunk.1 ++ sourceOf chunks last := by
  simp [sourceOf]

/-- The chunks that are malformed. -/
def malformedOf (chunks : List (List Located × Option Item)) : List (List Located) :=
  (chunks.filter fun chunk => chunk.2.isNone).map Prod.fst

theorem endsOnce_sourceOf (isEnd : last.token = .endOfInput) :
    ∀ {chunks : List (List Located × Option Item)},
      (∀ chunk ∈ chunks, Chunk last chunk.1 chunk.2) → EndsOnce (sourceOf chunks last) := by
  intro chunks each
  refine ⟨_, last, rfl, isEnd, fun l member => ?_⟩
  obtain ⟨chunk, inChunks, inTokens⟩ := List.mem_flatMap.1 member
  cases chunk with
  | mk tokens found =>
      cases each _ inChunks with
      | item inside => exact inside l inTokens
      | malformed line => exact line.token_ne (by simp [Flat]) (by simp) l inTokens

/-- A problem is at one of the tokens of a chunk. -/
def AtTokenOf (problem : Problem) (chunk : List Located) : Prop :=
  ∃ l ∈ chunk, problem.position = l.position

theorem Chunk.reports {tokens more : List Located} {found : Item} {turns : Nat}
    {problems : List Problem} (isEnd : last.token = .endOfInput)
    (chunk : Chunk last tokens (some found)) (short : (tokens ++ more).length ≤ turns)
    (follows : headToken more ≠ .keyword .else_) (others : Reports turns more problems) :
    Reports turns (tokens ++ more) problems := by
  cases chunk with
  | item inside alone =>
      exact reports_accepted (lowItem_of_alone isEnd inside alone) short follows others

/-- The loop reports one problem for each malformed chunk. An item before a malformed chunk may go
on into it, and then one turn is made for the two of them. -/
theorem exists_reports (turns : Nat) (isEnd : last.token = .endOfInput) :
    ∀ chunks : List (List Located × Option Item),
      (∀ chunk ∈ chunks, Chunk last chunk.1 chunk.2) → (sourceOf chunks last).length ≤ turns →
      ∃ problems, Reports turns (sourceOf chunks last) problems ∧
        List.Forall₂ AtTokenOf problems (malformedOf chunks)
  | [], _, _ => ⟨[], reports_end isEnd, .nil⟩
  | (tokens, none) :: chunks, each, short => by
      obtain ⟨_ | ⟨line, alone⟩, others⟩ := List.forall_mem_cons.1 each
      rw [sourceOf_cons] at short ⊢
      obtain ⟨problems, reports, located⟩ :=
        exists_reports turns isEnd chunks others (length_le_of_append short)
      have failed := failedIn_item (malformed_of_alone isEnd line alone)
        (endsOnce_sourceOf isEnd others) short
      obtain ⟨problem, place, whole⟩ := reports_failure [] line nofun failed reports
      exact ⟨problem :: problems, whole, .cons place located⟩
  | [(tokens, some found)], each, short => by
      obtain ⟨first, -⟩ := List.forall_mem_cons.1 each
      have follows : headToken [last] ≠ .keyword .else_ := by
        simp [headToken, isEnd]
      rw [sourceOf_cons] at short ⊢
      exact ⟨[], first.reports isEnd short follows (reports_end isEnd), .nil⟩
  | (tokens, some found) :: (next, some other) :: chunks, each, short => by
      obtain ⟨first, rest⟩ := List.forall_mem_cons.1 each
      have second : Chunk last next (some other) := rest _ List.mem_cons_self
      have follows := second.headToken_ne_else isEnd (sourceOf chunks last)
      rw [sourceOf_cons] at short ⊢
      obtain ⟨problems, reports, located⟩ := exists_reports turns isEnd
        ((next, some other) :: chunks) rest (length_le_of_append short)
      exact ⟨problems, first.reports isEnd short (by rwa [sourceOf_cons]) reports, located⟩
  | (tokens, some found) :: (next, none) :: chunks, each, short => by
      obtain ⟨⟨inside, alone⟩, rest⟩ := List.forall_mem_cons.1 each
      obtain ⟨_ | ⟨line, -⟩, others⟩ := List.forall_mem_cons.1 rest
      have low := lowItem_of_alone isEnd inside alone
      rw [sourceOf_cons] at short ⊢
      rcases comesTo_item_line line low tokens rfl (sourceOf_cons ▸ short) with read | failed
      · obtain ⟨problems, reports, located⟩ := exists_reports turns isEnd
          ((next, none) :: chunks) rest (length_le_of_append short)
        rw [sourceOf_cons] at reports ⊢
        exact ⟨problems, reports_item low read reports, located⟩
      · rw [sourceOf_cons] at short ⊢
        obtain ⟨problems, reports, located⟩ := exists_reports turns isEnd chunks others
          (length_le_of_append (length_le_of_append short))
        have first : ∀ l ∈ tokens.head?, l.token ≠ .endOfInput :=
          fun l isFirst => inside l (List.mem_of_mem_head? isFirst)
        obtain ⟨problem, place, whole⟩ := reports_failure tokens line first failed reports
        exact ⟨problem :: problems, whole, .cons place located⟩

/-- Without malformed chunks, the source is derived as the program of its items. -/
theorem lowSource_of_chunks (isEnd : last.token = .endOfInput) :
    ∀ chunks : List (List Located × Option Item),
      (∀ chunk ∈ chunks, Chunk last chunk.1 chunk.2) → malformedOf chunks = [] →
      LowSource maxNesting (tokensOf (sourceOf chunks last))
        (.ofItems (chunks.filterMap Prod.snd))
  | [], _, _ => by
      simpa [tokensOf, isEnd] using lowSource_end
  | (tokens, none) :: chunks, _, allFound => by
      simp [malformedOf] at allFound
  | (tokens, some found) :: chunks, each, allFound => by
      obtain ⟨⟨inside, alone⟩, others⟩ := List.forall_mem_cons.1 each
      have source := lowSource_of_chunks isEnd chunks others (by simpa [malformedOf] using allFound)
      have low := lowItem_of_alone isEnd inside alone
      simpa [tokensOf] using lowSource_cons low source

/-- A source of items and malformed lines has one problem for each malformed line, at one of its
tokens, and without malformed lines it is the program of its items. -/
theorem parseTokens_chunks (isEnd : last.token = .endOfInput)
    {chunks : List (List Located × Option Item)}
    (each : ∀ chunk ∈ chunks, Chunk last chunk.1 chunk.2) :
    (malformedOf chunks = [] →
      parseTokens (sourceOf chunks last) = .ok (.ofItems (chunks.filterMap Prod.snd))) ∧
    (malformedOf chunks ≠ [] → ∃ problems,
      parseTokens (sourceOf chunks last) = .error problems ∧
        List.Forall₂ AtTokenOf problems (malformedOf chunks)) := by
  refine ⟨fun allFound => parseTokens_of_lowSource (lowSource_of_chunks isEnd chunks each allFound),
    fun some => ?_⟩
  obtain ⟨problems, reports, located⟩ := exists_reports _ isEnd chunks each (Nat.le_refl _)
  refine ⟨problems, parseTokens_error_of_reports reports ?_, located⟩
  rintro rfl
  exact some (List.forall₂_nil_left_iff.1 located)

end Chunks

/-- A declaration of a variable without its name is no statement. -/
theorem chunk_unnamed :
    Chunk ⟨.endOfInput, .first⟩ ([Token.keyword .var, .symbol .assign, .integer 1,
      .symbol .semicolon].map (Located.mk · .first)) none := by
  refine .malformed ?_ fun s alone => ?_
  · exact ⟨[Token.keyword .var, .symbol .assign, .integer 1].map (Located.mk · .first), _, rfl, rfl,
      by simp [Flat]⟩
  · have fails : parseTokens ([Token.keyword .var, .symbol .assign, .integer 1, .symbol .semicolon,
        .endOfInput].map (Located.mk · .first)) = .error [_] := rfl
    cases fails.symm.trans alone

/-- The theorem at a source whose second statement lacks the name of its variable: what is around
it is no problem. -/
theorem parseTokens_chunks_around :
    let last : Located := ⟨.endOfInput, .first⟩
    let chunk (tokens : List Token) := tokens.map (Located.mk · .first)
    let chunks : List (List Located × Option Item) :=
      [(chunk [.name "x", .symbol .assign, .integer 1, .symbol .semicolon],
          some (.statement (.assign "x" (.integer 1)))),
        (chunk [.keyword .var, .symbol .assign, .integer 1, .symbol .semicolon], none),
        (chunk [.name "y", .symbol .semicolon], some (.statement (.expr (.name "y"))))]
    (∀ chunk ∈ chunks, Chunk last chunk.1 chunk.2) ∧
      ∃ problem, parseTokens (sourceOf chunks last) = .error [problem] := by
  intro last chunk chunks
  have each : ∀ chunk ∈ chunks, Chunk last chunk.1 chunk.2 := by
    refine List.forall_mem_cons.2 ⟨.item (by simp [chunk]) rfl, ?_⟩
    refine List.forall_mem_cons.2 ⟨chunk_unnamed, ?_⟩
    exact List.forall_mem_singleton.2 (.item (by simp [chunk]) rfl)
  obtain ⟨problems, errors, located⟩ :=
    (parseTokens_chunks rfl each).2 (by simp [malformedOf, chunks])
  obtain ⟨problem, rfl⟩ := List.length_eq_one_iff.1
    (located.length_eq.trans (by simp [malformedOf, chunks]))
  exact ⟨each, problem, errors⟩

end Parse
end Script
end StagedScript
