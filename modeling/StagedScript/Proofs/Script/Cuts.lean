import StagedScript.Proofs.Script.LexicalGrammar

/-!
# What the lexer cuts off

Each way to cut a front off a text takes what the lexical grammar says: a line through its line
feed, a block comment through its first closing mark, a quotation through its closing quote, and
blanks and comments as long as there are any.

**Results.** A text is a gap and a rest where neither a blank nor a comment begins, and the lexer
cuts it there (`cutTrivia_spec`); it cuts every text that is put together like that where it was
put together (`cutTrivia_gap`).
-/

namespace StagedScript
namespace Script

section Cuts

variable {c quote : Char} {body text rest chars : List Char} {cut : Cut}

/-- A front of accepted characters is cut off where none follows. -/
theorem cutWhile_append {accept : Char → Bool} {word rest : List Char}
    (all : ∀ c ∈ word, accept c = true) (ends : ∀ c ∈ rest.head?, accept c = false) :
    cutWhile accept (word ++ rest) = ⟨word, rest⟩ := by
  induction word with
  | nil =>
      cases rest with
      | nil => rfl
      | cons c rest =>
          rw [List.nil_append, cutWhile, if_neg (by simp [ends c rfl])]
  | cons c word ih =>
      rw [List.cons_append, cutWhile, if_pos (all c (by simp)),
        ih fun c member => all c (by simp [member])]
      rfl

theorem cutLine_append (noFeed : '\n' ∉ body) (rest : List Char) :
    cutLine (body ++ '\n' :: rest) = ⟨body ++ ['\n'], rest⟩ := by
  induction body with
  | nil => rfl
  | cons c body ih =>
      obtain ⟨here, later⟩ := not_or.1 (mt List.mem_cons.2 noFeed)
      rw [List.cons_append, cutLine, if_neg (Ne.symm here), ih later]
      rfl

theorem cutLine_of_not_mem (noFeed : '\n' ∉ text) : cutLine text = ⟨text, []⟩ := by
  induction text with
  | nil => rfl
  | cons c text ih =>
      obtain ⟨here, later⟩ := not_or.1 (mt List.mem_cons.2 noFeed)
      rw [cutLine, if_neg (Ne.symm here), ih later]
      rfl

theorem cutComment?_cons (opens : ¬['*', '/'] <+: c :: text) :
    cutComment? (c :: text) = (cutComment? text).map (·.before c) := by
  rw [cutComment?.eq_def]
  dsimp only
  split
  next rest => exact absurd (List.prefix_append ['*', '/'] rest) opens
  next => rfl

theorem cutComment?_append (first : ¬['*', '/'] <:+: body ++ ['*']) (rest : List Char) :
    cutComment? (body ++ '*' :: '/' :: rest) = some ⟨body ++ ['*', '/'], rest⟩ := by
  induction body with
  | nil => rfl
  | cons c body ih =>
      have later := ih fun inside => first (List.infix_cons inside)
      have notHere : ¬['*', '/'] <+: c :: (body ++ '*' :: '/' :: rest) := by
        intro opens
        refine first ((List.prefix_of_prefix_length_le opens ?_ ?_).isInfix)
        · exact ⟨'/' :: rest, by simp⟩
        · simp
      rw [List.cons_append, cutComment?_cons notHere, later]
      rfl

/-- A comment is closed at its first closing mark, if there is one. -/
theorem cutComment?_cases (text : List Char) :
    (∃ body rest, text = body ++ '*' :: '/' :: rest ∧ ¬['*', '/'] <:+: body ++ ['*'] ∧
      cutComment? text = some ⟨body ++ ['*', '/'], rest⟩) ∨
    (¬['*', '/'] <:+: text ∧ cutComment? text = none) := by
  induction text with
  | nil => exact .inr ⟨by simp, rfl⟩
  | cons c text ih =>
      by_cases opens : ['*', '/'] <+: c :: text
      · obtain ⟨rest, same⟩ := opens
        refine .inl ⟨[], rest, same.symm, by decide, ?_⟩
        rw [← same]
        rfl
      · rw [cutComment?_cons opens]
        rcases ih with ⟨body, rest, rfl, first, found⟩ | ⟨unclosed, none⟩
        · refine .inl ⟨c :: body, rest, rfl, ?_, by rw [found]; rfl⟩
          rw [List.cons_append, List.infix_cons_iff]
          rintro (here | inside)
          · exact opens (here.trans ⟨'/' :: rest, by simp⟩)
          · exact first inside
        · refine .inr ⟨?_, by rw [none]; rfl⟩
          rw [List.infix_cons_iff]
          exact not_or.2 ⟨opens, unclosed⟩

theorem cutText?_append (quotation : Quotation quote body chars) (isQuote : IsQuote quote)
    (rest : List Char) :
    cutText? quote (body ++ quote :: rest) = some (chars, ⟨body ++ [quote], rest⟩) := by
  have notEscape : '\\' ≠ quote := by
    rcases isQuote with rfl | rfl <;> decide
  induction quotation with
  | nil =>
      rw [List.nil_append, cutText?.eq_def]
      dsimp only
      rw [if_pos rfl]
      rfl
  | plain notQuote plain _ ih =>
      rw [List.cons_append, cutText?.eq_def]
      dsimp only
      rw [if_neg notQuote, if_neg plain, ih]
      rfl
  | lineFeed _ ih | tab _ ih =>
      rw [List.cons_append, List.cons_append, cutText?.eq_def]
      dsimp only
      rw [if_neg notEscape, if_pos rfl, ih]
      rfl
  | @escaped c _ _ notFeed notTab _ ih =>
      have same : unescaped c = c := by
        unfold unescaped
        split
        · exact absurd rfl notFeed
        · exact absurd rfl notTab
        · rfl
      rw [List.cons_append, List.cons_append, cutText?.eq_def]
      dsimp only
      rw [if_neg notEscape, if_pos rfl, ih, Option.map_some]
      dsimp only
      rw [same]
      rfl

theorem quotation_escape (escape : Char) (quotation : Quotation quote body chars) :
    Quotation quote ('\\' :: escape :: body) (unescaped escape :: chars) := by
  unfold unescaped
  split
  next => exact .lineFeed quotation
  next => exact .tab quotation
  next notFeed notTab => exact .escaped notFeed notTab quotation

theorem exists_quotation_of_cutText? (found : cutText? quote text = some (chars, cut)) :
    ∃ body, Quotation quote body chars ∧ cut.taken = body ++ [quote] ∧
      text = body ++ quote :: cut.rest := by
  fun_induction cutText? quote text generalizing chars cut with
  | case1 => cases found
  | case2 text =>
      cases found
      exact ⟨[], .nil, rfl, rfl⟩
  | case3 => cases found
  | case4 escape rest notQuote ih =>
      obtain ⟨⟨chars', cut'⟩, read, same⟩ := Option.map_eq_some_iff.1 found
      cases same
      obtain ⟨body, quotation, taken, rfl⟩ := ih read
      exact ⟨'\\' :: escape :: body, quotation_escape escape quotation,
        congrArg ('\\' :: escape :: ·) taken, rfl⟩
  | case5 c text notQuote notEscape ih =>
      obtain ⟨⟨chars', cut'⟩, read, same⟩ := Option.map_eq_some_iff.1 found
      cases same
      obtain ⟨body, quotation, taken, rfl⟩ := ih read
      exact ⟨c :: body, .plain notQuote notEscape quotation, congrArg (c :: ·) taken, rfl⟩

/-- A front of accepted characters is cut off, up to one that is not accepted or to the end. -/
theorem cutWhile_spec (accept : Char → Bool) (text : List Char) :
    ∃ front rest, text = front ++ rest ∧ (∀ c ∈ front, accept c = true) ∧
      (∀ c ∈ rest.head?, accept c = false) ∧ cutWhile accept text = ⟨front, rest⟩ := by
  induction text with
  | nil => exact ⟨[], [], rfl, nofun, nofun, rfl⟩
  | cons c text ih =>
      cases accepted : accept c with
      | true =>
          obtain ⟨front, rest, rfl, all, ends, cut⟩ := ih
          refine ⟨c :: front, rest, rfl, ?_, ends, ?_⟩
          · exact List.forall_mem_cons.2 ⟨accepted, all⟩
          · rw [cutWhile, if_pos accepted, cut]
            rfl
      | false =>
          refine ⟨[], c :: text, rfl, nofun, ?_, ?_⟩
          · rintro d ⟨⟩
            exact accepted
          · rw [cutWhile, if_neg (by simp [accepted])]

end Cuts

section Gaps

variable {c : Char} {rest first gap : List Char} {turns : Nat}

theorem noFiller_nil : NoFiller [] := by
  intro first rest same filler
  obtain ⟨rfl, -⟩ := List.append_eq_nil_iff.1 same.symm
  cases filler

theorem noFiller_cons_iff : NoFiller (c :: rest) ↔ Text.isBlank c = false ∧
    (∀ line, c :: rest ≠ '/' :: '/' :: line) ∧
    ∀ body, c :: rest = '/' :: '*' :: body → ¬['*', '/'] <:+: body := by
  constructor
  · intro none
    refine ⟨?_, ?_, ?_⟩
    · cases blank : Text.isBlank c with
      | false => rfl
      | true => exact absurd (.blank blank) (none [c] rest rfl)
    · intro line same
      by_cases feed : '\n' ∈ line
      · obtain ⟨body, more, rfl, noFeed⟩ := List.eq_append_cons_of_mem feed
        refine none ('/' :: '/' :: (body ++ ['\n'])) more ?_ (.line noFeed)
        rw [same]
        simp
      · exact none ('/' :: '/' :: line) [] (by rw [same, List.append_nil]) (.lastLine feed)
    · intro body same closed
      rcases cutComment?_cases body with ⟨front, more, rfl, first, -⟩ | ⟨unclosed, -⟩
      · refine none ('/' :: '*' :: (front ++ ['*', '/'])) more ?_ (.block first)
        rw [same]
        simp
      · exact unclosed closed
  · rintro ⟨notBlank, noLine, unclosed⟩ first more same filler
    cases filler with
    | blank blank =>
        obtain ⟨rfl, -⟩ := List.cons.inj same
        rw [blank] at notBlank
        cases notBlank
    | line => exact noLine _ same
    | lastLine => exact noLine _ same
    | @block body =>
        refine unclosed _ same ?_
        change ['*', '/'] <:+: body ++ ['*', '/'] ++ more
        rw [List.append_assoc]
        exact (List.prefix_append ['*', '/'] more).isInfix.trans (List.suffix_append body _).isInfix

theorem cutTrivia_filler (filler : Filler first rest) (turns : Nat) :
    cutTrivia (turns + 1) (first ++ rest) = (cutTrivia turns rest).beforeAll first := by
  cases filler with
  | blank blank =>
      rw [List.singleton_append, cutTrivia.eq_def]
      dsimp only
      rw [if_pos blank]
      rfl
  | @line body _ noFeed =>
      rw [List.cons_append, List.cons_append, List.append_assoc, List.singleton_append, cutTrivia,
        if_neg (by decide)]
      dsimp only
      rw [cutLine_append noFeed]
      rfl
  | @lastLine body noFeed =>
      rw [List.append_nil, cutTrivia, if_neg (by decide)]
      dsimp only
      rw [cutLine_of_not_mem noFeed]
      rfl
  | @block body _ first =>
      rw [List.cons_append, List.cons_append, List.append_assoc, List.cons_append,
        List.singleton_append, cutTrivia, if_neg (by decide)]
      dsimp only
      rw [cutComment?_append first]
      rfl

theorem cutTrivia_of_noFiller (none : NoFiller rest) (turns : Nat) :
    cutTrivia turns rest = ⟨[], rest⟩ := by
  cases turns with
  | zero => rfl
  | succ turns =>
      cases rest with
      | nil => rfl
      | cons c rest =>
          obtain ⟨notBlank, noLine, unclosed⟩ := noFiller_cons_iff.1 none
          rw [cutTrivia.eq_def]
          dsimp only
          rw [if_neg (by simp [notBlank])]
          split
          next line => exact absurd rfl (noLine line)
          next body =>
            rcases cutComment?_cases body with ⟨front, more, rfl, -⟩ | ⟨-, none⟩
            · refine absurd ?_ (unclosed _ rfl)
              exact (List.prefix_append ['*', '/'] more).isInfix.trans
                (List.suffix_append front _).isInfix
            · rw [none]
          next => rfl

theorem Filler.length_pos (filler : Filler first rest) : 0 < first.length := by
  cases filler <;> exact Nat.zero_lt_succ _

theorem cutTrivia_gap (isGap : Gap gap rest) (none : NoFiller rest) :
    ∀ turns, (gap ++ rest).length ≤ turns → cutTrivia turns (gap ++ rest) = ⟨gap, rest⟩ := by
  induction isGap with
  | nil => exact fun turns _ => cutTrivia_of_noFiller none turns
  | @cons first more rest filler _ ih =>
      intro turns room
      have taken := filler.length_pos
      rw [List.append_assoc, List.length_append] at room
      cases turns with
      | zero => omega
      | succ turns =>
          rw [List.append_assoc, cutTrivia_filler filler, ih none turns (by omega)]
          rfl

theorem cutTrivia_spec : ∀ turns (text : List Char), text.length ≤ turns →
    ∃ gap rest, text = gap ++ rest ∧ Gap gap rest ∧ NoFiller rest ∧
      cutTrivia turns text = ⟨gap, rest⟩ := by
  intro turns
  induction turns with
  | zero =>
      intro text room
      obtain rfl := List.length_eq_zero_iff.1 (Nat.le_zero.1 room)
      exact ⟨[], [], rfl, .nil, noFiller_nil, rfl⟩
  | succ turns ih =>
      intro text room
      by_cases none : NoFiller text
      · exact ⟨[], text, rfl, .nil, none, cutTrivia_of_noFiller none _⟩
      · obtain ⟨first, following, rfl, filler⟩ : ∃ first rest, text = first ++ rest ∧
            Filler first rest := by
          simpa [NoFiller] using none
        have taken := filler.length_pos
        rw [List.length_append] at room
        obtain ⟨gap, rest, rfl, isGap, none, cut⟩ := ih following (by omega)
        refine ⟨first ++ gap, rest, (List.append_assoc ..).symm, .cons filler isGap, none, ?_⟩
        rw [cutTrivia_filler filler, cut]
        rfl

end Gaps

end Script
end StagedScript
