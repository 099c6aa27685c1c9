import StagedScript.Proofs.Script.LongestMatch

/-!
# Scanning a source

The lexer goes from one lexeme to the next. A step of it is either at the end of the text, or it
reads the longest lexeme after a gap, or it is stuck; a scan is made of such steps. What is before a
text counts for the positions of its tokens only.

**Results.** A scan up to a place is a scan of the text before it (`Scans.scanned`). A source is
tokenized as the scan to its end has it, and if there is none, then the problem stands where the
scan gets stuck (`tokenize_exact`).
-/

namespace StagedScript
namespace Script

section Scanning

variable {before text rest : List Char} {tokens : List Located} {turns : Nat}

theorem Scans.exists_scanned (scans : Scans before text tokens rest) :
    ∃ scanned, text = scanned ++ rest := by
  induction scans with
  | stop => exact ⟨_, rfl⟩
  | @lexeme _ gap lexeme _ _ _ _ _ _ _ ih =>
      obtain ⟨scanned, rfl⟩ := ih
      exact ⟨gap ++ (lexeme ++ scanned), by simp⟩

/-- A scan up to a place is a scan of the text before that place. -/
theorem Scans.scanned {scanned : List Char} (scans : Scans before (scanned ++ rest) tokens rest) :
    Scans before scanned tokens [] := by
  generalize same : scanned ++ rest = text at scans
  induction scans generalizing scanned with
  | @stop before gap rest isGap =>
      obtain rfl := List.append_cancel_right same
      have ends : Scans before (scanned ++ []) [] [] := .stop (isGap.of_front List.nil_prefix)
      rwa [List.append_nil] at ends
  | @lexeme before gap lexeme text rest token tokens isGap longest scans ih =>
      obtain ⟨scanned', rfl⟩ := scans.exists_scanned
      obtain rfl : scanned = gap ++ (lexeme ++ scanned') := by
        refine (List.append_left_inj rest).1 ?_
        rw [same]
        simp
      have shorter : lexeme ++ scanned' <+: lexeme ++ (scanned' ++ rest) := by
        rw [← List.append_assoc]
        exact List.prefix_append _ rest
      refine .lexeme (isGap.of_front shorter) ⟨longest.spells, ?_⟩ (ih rfl)
      intro form denoted spells begins
      exact longest.longest form denoted spells (begins.trans shorter)

theorem Gap.append {gap more : List Char} (isGap : Gap gap (more ++ rest))
    (further : Gap more rest) : Gap (gap ++ more) rest := by
  generalize following : more ++ rest = text at isGap
  induction isGap with
  | nil => exact further
  | @cons first others text filler _ ih =>
      subst following
      rw [List.append_assoc]
      rw [← List.append_assoc] at filler
      exact .cons filler (ih rfl)

/-- A gap in front of a text that is scanned. -/
theorem Scans.afterGap {gap : List Char} (isGap : Gap gap text)
    (scans : Scans (before ++ gap) text tokens rest) : Scans before (gap ++ text) tokens rest := by
  generalize here : before ++ gap = place at scans
  cases scans with
  | stop further =>
      rw [← List.append_assoc]
      exact .stop (isGap.append further)
  | lexeme further longest scans =>
      subst here
      rw [List.append_assoc before] at scans ⊢
      rw [← List.append_assoc gap]
      exact .lexeme (isGap.append further) longest scans

theorem after_ofText (before text : List Char) :
    (Position.ofText before).after text = .ofText (before ++ text) := by
  rw [← Position.after_first, ← Position.after_append, Position.after_first]

/-! One step of the lexer: at the end, at a lexeme, and where it is stuck. -/

theorem tokensFrom_end {gap : List Char} (isGap : Gap gap []) (room : gap.length ≤ turns) :
    tokensFrom (turns + 1) (.ofText before) gap =
      .ok [⟨.endOfInput, .ofText (before ++ gap)⟩] := by
  have trivia := cutTrivia_gap isGap noFiller_nil turns (by rwa [List.append_nil])
  rw [List.append_nil] at trivia
  rw [tokensFrom, trivia, ← after_ofText]

theorem tokensFrom_lexeme {gap lexeme : List Char} {token : Token}
    (isGap : Gap gap (lexeme ++ rest)) (longest : LongestLexeme lexeme rest token)
    (room : (gap ++ (lexeme ++ rest)).length ≤ turns) :
    tokensFrom (turns + 1) (.ofText before) (gap ++ (lexeme ++ rest)) =
      (tokensFrom turns (.ofText (before ++ gap ++ lexeme)) rest).map
        (⟨token, .ofText (before ++ gap)⟩ :: ·) := by
  have trivia := cutTrivia_gap isGap longest.noFiller turns room
  obtain ⟨c, tail, rfl⟩ := longest.spells.exists_cons
  rw [List.cons_append] at trivia ⊢
  rw [tokensFrom, trivia]
  dsimp only
  rw [readLexeme_of_longest longest (List.cons_append ..).symm]
  dsimp only
  rw [after_ofText, after_ofText]
  cases tokensFrom turns (.ofText (before ++ gap ++ c :: tail)) rest <;> rfl

theorem tokensFrom_stuck {gap : List Char} {c : Char} {fault : Fault} (isGap : Gap gap (c :: rest))
    (none : NoFiller (c :: rest)) (fails : readLexeme c rest = .error fault)
    (room : (gap ++ c :: rest).length ≤ turns) :
    tokensFrom (turns + 1) (.ofText before) (gap ++ c :: rest) =
      .error (.error (.ofText (before ++ gap)) fault.message) := by
  rw [tokensFrom, cutTrivia_gap isGap none turns room]
  dsimp only
  rw [fails, ← after_ofText]

/-- The lexer finds the tokens of a scan to the end. -/
theorem tokensFrom_of_scans (scans : Scans before text tokens []) (room : text.length < turns) :
    tokensFrom turns (.ofText before) text =
      .ok (tokens ++ [⟨.endOfInput, .ofText (before ++ text)⟩]) := by
  obtain ⟨turns, rfl⟩ := Nat.exists_eq_add_one_of_ne_zero (Nat.ne_of_gt (Nat.zero_lt_of_lt room))
  generalize ends : [] = rest at scans
  induction scans generalizing turns with
  | stop isGap =>
      subst ends
      rw [List.append_nil] at room ⊢
      exact tokensFrom_end isGap (Nat.le_of_lt_succ room)
  | @lexeme before gap lexeme text _ token tokens isGap longest _ ih =>
      have taken := longest.length_pos
      rw [tokensFrom_lexeme isGap longest (Nat.le_of_lt_succ room)]
      simp only [List.length_append] at room
      obtain ⟨turns, rfl⟩ := Nat.exists_eq_add_one_of_ne_zero (n := turns) (by omega)
      rw [ih turns (by omega) ends]
      simp [Except.map]

/-- The lexer scans a text to its end or to the first place where it is stuck. -/
theorem exists_scans_of_tokensFrom (before text : List Char) (room : text.length < turns) :
    (∃ tokens, Scans before text tokens []) ∨
    ∃ scanned rest tokens fault, text = scanned ++ rest ∧ Scans before text tokens rest ∧
      Stuck rest fault ∧ tokensFrom turns (.ofText before) text =
        .error (.error (.ofText (before ++ scanned)) fault.message) := by
  induction turns generalizing before text with
  | zero => exact absurd room (Nat.not_lt_zero _)
  | succ turns ih =>
      obtain ⟨gap, following, rfl, isGap, none, -⟩ :=
        cutTrivia_spec turns text (Nat.le_of_lt_succ room)
      cases following with
      | nil => exact .inl ⟨[], .stop isGap⟩
      | cons c following =>
          have reads := readsAt_of_noFiller none
          cases read : readLexeme c following with
          | error fault =>
              rw [read] at reads
              exact .inr ⟨gap, _, [], fault, rfl, .stop isGap, reads,
                tokensFrom_stuck isGap none read (Nat.le_of_lt_succ room)⟩
          | ok found =>
              obtain ⟨token, lexeme, text⟩ := found
              rw [read] at reads
              obtain ⟨whole, longest⟩ := reads
              change c :: following = lexeme ++ text at whole
              change LongestLexeme lexeme text token at longest
              rw [whole] at isGap room ⊢
              have taken := longest.length_pos
              rw [tokensFrom_lexeme isGap longest (Nat.le_of_lt_succ room)]
              simp only [List.length_append] at room
              rcases ih (before ++ gap ++ lexeme) text (by omega) with
                ⟨tokens, scans⟩ | ⟨scanned, rest, tokens, fault, rfl, scans, stuck, stops⟩
              · exact .inl ⟨_, .lexeme isGap longest scans⟩
              · refine .inr ⟨gap ++ (lexeme ++ scanned), rest, _, fault, ?_,
                  .lexeme isGap longest scans, stuck, ?_⟩
                · simp
                · rw [stops]
                  simp [Except.map]

theorem tokenizeChars_of_scans (scans : Scans [] text tokens []) :
    tokenizeChars text = .ok (tokens ++ [⟨.endOfInput, .ofText text⟩]) :=
  tokensFrom_of_scans scans (Nat.lt_succ_self _)

/-- The lexer's tokens are those of the scan of the whole source, with the end of input behind them.
Where there is none, the problem stands at the first place where the source is stuck, and the text
before that place has the tokens that were scanned. -/
theorem tokenize_exact (source : String) :
    (∀ located, tokenize source = .ok located ↔
      ∃ tokens, located = tokens ++ [⟨.endOfInput, .ofText source.toList⟩] ∧
        Scans [] source.toList tokens []) ∧
    ∀ problem, tokenize source = .error problem →
      ∃ scanned rest tokens fault, source.toList = scanned ++ rest ∧
        Scans [] source.toList tokens rest ∧ Stuck rest fault ∧
        problem = .error (.ofText scanned) fault.message ∧
        tokenize (String.ofList scanned) =
          .ok (tokens ++ [⟨.endOfInput, .ofText scanned⟩]) := by
  rcases exists_scans_of_tokensFrom [] source.toList (Nat.lt_succ_self _) with
    ⟨tokens, scans⟩ | ⟨scanned, rest, tokens, fault, same, scans, stuck, stops⟩
  · have accepted : tokenize source = _ := tokenizeChars_of_scans scans
    refine ⟨fun located => ⟨fun read => ?_, ?_⟩, fun problem failed => ?_⟩
    · rw [accepted] at read
      exact ⟨tokens, (Except.ok.inj read).symm, scans⟩
    · rintro ⟨tokens', rfl, scans'⟩
      exact tokenizeChars_of_scans scans'
    · rw [accepted] at failed
      cases failed
  · have refused : tokenize source = _ := stops
    refine ⟨fun located => ⟨fun read => ?_, ?_⟩, fun problem failed => ?_⟩
    · rw [refused] at read
      cases read
    · rintro ⟨tokens', rfl, scans'⟩
      exact tokenizeChars_of_scans scans'
    · rw [refused] at failed
      refine ⟨scanned, rest, tokens, fault, same, scans, stuck, (Except.error.inj failed).symm, ?_⟩
      rw [tokenize, String.toList_ofList]
      exact tokenizeChars_of_scans (same ▸ scans).scanned

end Scanning

end Script
end StagedScript
