import StagedScript.Proofs.Script.Scanning

/-!
# Sources in two parts

No lexeme but a string literal goes on behind a line feed, and a comment in the last line of a text
ends with it. So a source that can be scanned to its end is done with at the next line feed, and
what follows is scanned as a source of its own, only that its places are further down. Where a
source is stuck for a reason that its end has no part in, it is stuck whatever follows.

**Results.** The tokens of two sources with a line feed between them are those of the first one
without its end and those of the second one, as many lines further down; a problem of the second
one is as many lines further down, and a problem of the first one stays, unless it is a text or a
comment that is not closed (`tokenize_lineFeed`).
-/

namespace StagedScript

namespace Position

/-- The place in the same column some lines further down. -/
def lower (count : Nat) (position : Position) : Position :=
  ⟨position.line + count, position.column⟩

theorem after_lower (count : Nat) (text : List Char) :
    ∀ position : Position,
      (position.lower count).after text = (position.after text).lower count := by
  induction text with
  | nil => exact fun _ => rfl
  | cons c text ih =>
      intro position
      have step : (position.lower count).step c = (position.step c).lower count := by
        unfold step lower
        split
        · simp only [Position.mk.injEq, and_true]
          omega
        · rfl
      change ((position.lower count).step c).after text = _
      rw [step, ih]
      rfl

/-- Behind a line feed, places are counted as from the beginning, below what is before it. -/
theorem ofText_lineFeed (front text : List Char) :
    ofText (front ++ '\n' :: text) = (ofText text).lower (front.count '\n' + 1) := by
  have next : (ofText front).step '\n' = first.lower (front.count '\n' + 1) := by
    simp only [step, if_true, ofText, lower, first, Position.mk.injEq, and_true]
    omega
  rw [← after_first, after_append, after_first, ← after_first text, ← after_lower, ← next]
  rfl

end Position

/-- The problem some lines further down. -/
def Problem.lower (count : Nat) (problem : Problem) : Problem :=
  { problem with position := problem.position.lower count }

namespace Script

/-- The token some lines further down. -/
def Located.lower (count : Nat) (located : Located) : Located :=
  { located with position := located.position.lower count }

section Forms

variable {c : Char} {form front more lexeme rest : List Char}
variable {denoted : Option Token} {token : Token} {fault : Fault}

/-- Only a string literal goes over a line feed. -/
theorem Spells.not_mem_lineFeed (spells : Spells (c :: rest) denoted)
    (notQuote : headOf c ≠ some .quote) : '\n' ∉ c :: rest := by
  have noDigit : Decimal.isDigit '\n' = false := by decide
  have reading := spells.reading
  match head : headOf c with
  | none =>
      rw [head] at reading
      exact reading.elim
  | some .quote => exact absurd head notQuote
  | some .letter =>
      rw [head] at reading
      obtain ⟨⟨starts, parts⟩, -⟩ := reading
      intro feed
      rcases List.mem_cons.1 feed with rfl | inside
      · exact absurd starts (by decide)
      · exact absurd (parts '\n' inside) (by decide)
  | some .digit =>
      rw [head] at reading
      rcases reading with ⟨numeral, -⟩ | ⟨whole, fraction, isWhole, isFraction, same, -⟩
      · intro feed
        simp [numeral.2 '\n' feed] at noDigit
      · rw [same]
        intro feed
        rcases List.mem_append.1 feed with inWhole | behind
        · simp [isWhole.2 '\n' inWhole] at noDigit
        · rcases List.mem_cons.1 behind with point | inFraction
          · exact absurd point (by decide)
          · simp [isFraction.2 '\n' inFraction] at noDigit
  | some .mark =>
      rw [head] at reading
      rcases reading with ⟨mark, spelled, -⟩ | ⟨opens, -⟩
      · rw [spelled]
        cases mark <;> decide
      · rcases opens with opens | opens <;> rw [opens] <;> decide

theorem prefix_of_not_mem_lineFeed (noFeed : '\n' ∉ form)
    (begins : form <+: front ++ '\n' :: more) : form <+: front := by
  rcases List.prefix_or_prefix_of_prefix begins (List.prefix_append front _) with inside | beyond
  · exact inside
  · obtain ⟨tail, rfl⟩ := beyond
    cases tail with
    | nil => exact ⟨[], by rw [List.append_nil, List.append_nil]⟩
    | cons d tail =>
        have feed := (List.prefix_append_right_inj front).1 begins
        obtain ⟨rfl, -⟩ := List.cons_prefix_cons.1 feed
        exact absurd (List.mem_append_right front List.mem_cons_self) noFeed

/-- A longest lexeme is still the longest one if the text goes on behind a line feed. -/
theorem LongestLexeme.lineFeed (longest : LongestLexeme lexeme rest token) (more : List Char) :
    LongestLexeme lexeme (rest ++ '\n' :: more) token := by
  refine ⟨longest.spells, fun form denoted spells begins => ?_⟩
  obtain ⟨c, tail, rfl⟩ := longest.spells.exists_cons
  by_cases quote : headOf c = some .quote
  · -- Both are string literals, and there is one place at which a literal is closed.
    have whole := longest.spells.reading
    have reading := spells.reading_of_begins begins
    rw [quote] at whole reading
    obtain ⟨body, chars, quotation, same, -⟩ := whole
    obtain ⟨body', chars', quotation', rfl, -⟩ := reading
    obtain ⟨left, split⟩ := begins
    rw [same] at split ⊢
    have closed : body' ++ c :: left = body ++ c :: (rest ++ '\n' :: more) := by
      simpa using split
    obtain ⟨rfl, -⟩ := quotation'.unique (isQuote_of_headOf quote) quotation closed
    exact Nat.le_refl _
  · obtain ⟨d, tail', rfl⟩ := spells.exists_cons
    obtain ⟨rfl, -⟩ := List.cons_prefix_cons.1 begins
    have noFeed := spells.not_mem_lineFeed quote
    rw [← List.append_assoc] at begins
    exact longest.longest _ _ spells (prefix_of_not_mem_lineFeed noFeed begins)

/-- Where a text is stuck at a number or at a stray character, it is stuck if it goes on behind a
line feed. -/
theorem Stuck.lineFeed (stuck : Stuck rest fault) (notText : fault ≠ .unclosedText)
    (notComment : fault ≠ .unclosedComment) (more : List Char) :
    Stuck (rest ++ '\n' :: more) fault := by
  have noDigit : Decimal.isDigit '\n' = false := by decide
  cases stuck with
  | unclosedComment => exact absurd rfl notComment
  | unclosedText => exact absurd rfl notText
  | @integerTooLarge digits rest numeral ends noFraction large =>
      rw [List.append_assoc]
      refine .integerTooLarge numeral ?_ ?_ large
      · cases rest with
        | nil =>
            rintro d ⟨⟩
            exact noDigit
        | cons d rest => exact ends
      · intro d text same
        match rest, same with
        | [], same => exact absurd (List.cons.inj same).1 (by decide)
        | [_], same =>
            obtain rfl := (List.cons.inj (List.cons.inj same).2).1
            exact noDigit
        | _ :: _ :: _, same =>
            obtain ⟨rfl, behind⟩ := List.cons.inj same
            obtain ⟨rfl, -⟩ := List.cons.inj behind
            exact noFraction _ _ rfl
  | @stray c rest notBlank notQuote none =>
      refine .stray notBlank notQuote fun form denoted spells begins => ?_
      obtain ⟨d, tail, rfl⟩ := spells.exists_cons
      obtain ⟨rfl, -⟩ := List.cons_prefix_cons.1 begins
      have noFeed := spells.not_mem_lineFeed fun quote => notQuote (isQuote_of_headOf quote)
      exact none _ _ spells (prefix_of_not_mem_lineFeed noFeed begins)

end Forms

section Gaps

variable {first rest gap : List Char}

/-- A blank or a comment does not depend on what follows it, unless it is a comment in the last
line. -/
theorem Filler.followed (filler : Filler first rest) :
    (∀ text, Filler first text) ∨
      rest = [] ∧ ∃ body, '\n' ∉ body ∧ first = '/' :: '/' :: body := by
  cases filler with
  | blank blank => exact .inl fun _ => .blank blank
  | line noFeed => exact .inl fun _ => .line noFeed
  | lastLine noFeed => exact .inr ⟨rfl, _, noFeed, rfl⟩
  | block unclosed => exact .inl fun _ => .block unclosed

/-- A gap in front of something is a gap in front of what begins with it. -/
theorem Gap.followed (isGap : Gap gap rest) (notNil : rest ≠ []) (more : List Char) :
    Gap gap (rest ++ more) := by
  induction isGap with
  | nil => exact .nil
  | @cons first others rest filler _ ih =>
      rcases filler.followed with always | ⟨ends, -⟩
      · exact .cons (always _) (ih notNil)
      · exact absurd (List.append_eq_nil_iff.1 ends).2 notNil

/-- A gap at the end of a text and a line feed are a gap in front of anything. -/
theorem Gap.lineFeed (isGap : Gap gap rest) (ends : rest = []) (text : List Char) :
    Gap (gap ++ ['\n']) text := by
  have feed : Gap (['\n'] ++ []) text := .cons (.blank (by decide)) .nil
  induction isGap with
  | nil => exact feed
  | @cons first others rest filler _ ih =>
      subst ends
      rw [List.append_assoc]
      rcases filler.followed with always | ⟨last, body, noFeed, rfl⟩
      · exact .cons (always _) (ih rfl)
      · -- The comment ends at the line feed.
        obtain ⟨rfl, -⟩ := List.append_eq_nil_iff.1 last
        have comment : Filler ('/' :: '/' :: (body ++ ['\n'])) ([] ++ text) := .line noFeed
        simpa using Gap.cons comment .nil

end Gaps

section Scans

variable {before first second text rest : List Char} {tokens located : List Located}

/-- A scan to the end of a text goes on behind a line feed with a scan of what follows. -/
theorem Scans.lineFeed (scans : Scans before first tokens [])
    (further : Scans (before ++ first ++ ['\n']) second located rest) :
    Scans before (first ++ '\n' :: second) (tokens ++ located) rest := by
  generalize ends : [] = none at scans
  induction scans with
  | @stop before gap none isGap =>
      subst ends
      rw [List.append_nil, List.append_assoc] at further
      rw [List.append_nil, List.append_cons]
      exact .afterGap (isGap.lineFeed rfl second) further
  | @lexeme before gap lexeme text _ token tokens isGap longest _ ih =>
      have notNil : lexeme ++ text ≠ [] := by
        have taken := longest.length_pos
        intro none
        simp [(List.append_eq_nil_iff.1 none).1] at taken
      have goesOn := ih (by simpa using further) ends
      have followed := isGap.followed notNil ('\n' :: second)
      rw [List.append_assoc] at followed
      simpa using Scans.lexeme followed (longest.lineFeed second) goesOn

/-- A scan up to a place in a text is the same if the text goes on behind a line feed. -/
theorem Scans.followed (scans : Scans before text tokens rest) (notNil : rest ≠ [])
    (more : List Char) : Scans before (text ++ '\n' :: more) tokens (rest ++ '\n' :: more) := by
  induction scans with
  | stop isGap =>
      rw [List.append_assoc]
      exact .stop (isGap.followed notNil _)
  | @lexeme before gap lexeme text rest token tokens isGap longest scans ih =>
      have inside : lexeme ++ text ≠ [] := by
        obtain ⟨scanned, rfl⟩ := scans.exists_scanned
        simp [notNil]
      have followed := isGap.followed inside ('\n' :: more)
      rw [List.append_assoc] at followed
      simpa using Scans.lexeme followed (longest.lineFeed more) (ih notNil)

/-- Behind a line feed, a text is scanned as a source of its own. -/
theorem Scans.lower (scans : Scans before text tokens rest) (front : List Char) :
    Scans (front ++ '\n' :: before) text (tokens.map (·.lower (front.count '\n' + 1))) rest := by
  induction scans with
  | stop isGap => exact .stop isGap
  | @lexeme before gap lexeme text rest token tokens isGap longest _ ih =>
      have places : (front ++ '\n' :: before) ++ gap = front ++ '\n' :: (before ++ gap) := by simp
      rw [List.map_cons, Located.lower, ← Position.ofText_lineFeed, ← places]
      refine .lexeme isGap longest ?_
      rw [places]
      simpa using ih

end Scans

section Stuck

variable {before scanned rest : List Char} {c : Char} {tokens : List Located} {fault : Fault}
variable {turns : Nat}

/-- Neither a blank nor a comment begins where a text is stuck. -/
theorem Stuck.noFiller (stuck : Stuck rest fault) : NoFiller rest := by
  cases stuck with
  | unclosedComment unclosed =>
      refine noFiller_cons_iff.2 ⟨by decide, fun line same => ?_, fun body same => ?_⟩
      · exact absurd (List.cons.inj (List.cons.inj same).2).1 (by decide)
      · obtain rfl := (List.cons.inj (List.cons.inj same).2).2
        exact unclosed
  | @unclosedText quote rest isQuote unclosed =>
      refine noFiller_cons_iff.2 ⟨?_, fun line same => ?_, fun body same => ?_⟩
      · rcases isQuote with rfl | rfl <;> decide
      · obtain ⟨rfl, -⟩ := List.cons.inj same
        rcases isQuote with quote | quote <;> exact absurd quote (by decide)
      · obtain ⟨rfl, -⟩ := List.cons.inj same
        rcases isQuote with quote | quote <;> exact absurd quote (by decide)
  | @integerTooLarge digits rest numeral _ _ _ =>
      obtain ⟨d, tail, rfl⟩ := List.exists_cons_of_ne_nil numeral.1
      have digit := numeral.2 d List.mem_cons_self
      have notSlash : d ≠ '/' := by
        rintro rfl
        exact absurd digit (by decide)
      refine noFiller_cons_iff.2
        ⟨not_blank_of_digit digit, fun line same => ?_, fun body same => ?_⟩
      · exact absurd (List.cons.inj same).1 notSlash
      · exact absurd (List.cons.inj same).1 notSlash
  | @stray c rest notBlank _ none =>
      refine noFiller_cons_iff.2 ⟨notBlank, fun line same => ?_, fun body same => ?_⟩
      · exact absurd ⟨line, same.symm⟩ (none ['/', '/'] _ (.comment (.inl rfl)))
      · exact absurd ⟨body, same.symm⟩ (none ['/', '*'] _ (.comment (.inr rfl)))

theorem Stuck.exists_cons (stuck : Stuck rest fault) : ∃ c tail, rest = c :: tail := by
  cases stuck with
  | integerTooLarge numeral =>
      obtain ⟨d, tail, rfl⟩ := List.exists_cons_of_ne_nil numeral.1
      exact ⟨d, _, rfl⟩
  | _ => exact ⟨_, _, rfl⟩

/-- Where a text is stuck, the lexer finds the reason. -/
theorem readLexeme_of_stuck (stuck : Stuck (c :: rest) fault) :
    readLexeme c rest = .error fault := by
  generalize same : c :: rest = text at stuck
  cases stuck with
  | unclosedComment unclosed =>
      obtain ⟨rfl, rfl⟩ := List.cons.inj same
      rw [readLexeme, if_neg (by decide), if_neg (by decide), if_neg (by decide), if_pos (by simp)]
  | unclosedText isQuote unclosed =>
      obtain ⟨rfl, rfl⟩ := List.cons.inj same
      rw [readLexeme, if_pos (by simpa [IsQuote] using isQuote)]
      cases found : cutText? c rest with
      | none => rfl
      | some read =>
          obtain ⟨body, quotation, -, closed⟩ := exists_quotation_of_cutText? found
          exact absurd closed (unclosed _ _ _ quotation)
  | @integerTooLarge digits more numeral ends noFraction large =>
      have digit : Decimal.isDigit c = true := by
        obtain ⟨d, tail, rfl⟩ := List.exists_cons_of_ne_nil numeral.1
        obtain ⟨rfl, -⟩ := List.cons.inj same
        exact numeral.2 c List.mem_cons_self
      have notQuote := notQuote_of_accepted digit (by decide) (by decide)
      rw [readLexeme, if_neg (Bool.eq_false_iff.1 notQuote), if_pos digit, same,
        readNumber_whole numeral ends noFraction, if_neg (Nat.not_le.2 large)]
  | stray notBlank notQuote none =>
      obtain ⟨rfl, rfl⟩ := List.cons.inj same
      have stuck : Stuck (c :: rest) (.stray c) := .stray notBlank notQuote none
      have reads := readsAt_of_noFiller stuck.noFiller
      cases read : readLexeme c rest with
      | ok found =>
          rw [read] at reads
          exact absurd (reads.1 ▸ stuck) reads.2.not_stuck
      | error other =>
          rw [read] at reads
          -- Every other reason comes with a form or a quote at the place.
          generalize here : c :: rest = text at reads none
          cases reads with
          | unclosedComment => exact absurd ⟨_, rfl⟩ (none ['/', '*'] _ (.comment (.inr rfl)))
          | unclosedText isQuote =>
              obtain ⟨rfl, -⟩ := List.cons.inj here
              exact absurd isQuote notQuote
          | integerTooLarge numeral _ _ large =>
              exact absurd (List.prefix_append _ _) (none _ _ (.tooLarge numeral large))
          | stray =>
              obtain ⟨rfl, -⟩ := List.cons.inj here
              rfl

/-- The lexer stops where a scan gets stuck. -/
theorem tokensFrom_of_stuck (scans : Scans before text tokens rest) (stuck : Stuck rest fault)
    (room : text.length < turns) :
    ∃ scanned, text = scanned ++ rest ∧ tokensFrom turns (.ofText before) text =
      .error (.error (.ofText (before ++ scanned)) fault.message) := by
  obtain ⟨turns, rfl⟩ := Nat.exists_eq_add_one_of_ne_zero (Nat.ne_of_gt (Nat.zero_lt_of_lt room))
  induction scans generalizing turns with
  | @stop before gap rest isGap =>
      obtain ⟨c, tail, rfl⟩ := stuck.exists_cons
      exact ⟨gap, rfl, tokensFrom_stuck isGap stuck.noFiller (readLexeme_of_stuck stuck)
        (Nat.le_of_lt_succ room)⟩
  | @lexeme before gap lexeme text rest token tokens isGap longest _ ih =>
      have taken := longest.length_pos
      have enough := Nat.le_of_lt_succ room
      simp only [List.length_append] at room
      obtain ⟨turns, rfl⟩ := Nat.exists_eq_add_one_of_ne_zero (n := turns) (by omega)
      obtain ⟨scanned, rfl, stops⟩ := ih stuck turns (by omega)
      refine ⟨gap ++ (lexeme ++ scanned), by simp, ?_⟩
      rw [tokensFrom_lexeme isGap longest enough, stops]
      simp [Except.map]

end Stuck

section Sources

variable {text scanned rest : List Char} {tokens : List Located} {fault : Fault}

theorem tokenizeChars_of_stuck (same : text = scanned ++ rest) (scans : Scans [] text tokens rest)
    (stuck : Stuck rest fault) :
    tokenizeChars text = .error (.error (.ofText scanned) fault.message) := by
  obtain ⟨front, other, stops⟩ := tokensFrom_of_stuck scans stuck (Nat.lt_succ_self _)
  obtain rfl := List.append_cancel_right (other.symm.trans same)
  exact stops

/-- A source is scanned to its end, or up to a place where it is stuck. -/
theorem exists_scans (source : List Char) :
    (∃ tokens, Scans [] source tokens []) ∨
      ∃ scanned rest tokens fault, source = scanned ++ rest ∧ Scans [] source tokens rest ∧
        Stuck rest fault := by
  rcases exists_scans_of_tokensFrom [] source (Nat.lt_succ_self _) with
    scans | ⟨scanned, rest, tokens, fault, same, scans, stuck, -⟩
  · exact .inl scans
  · exact .inr ⟨scanned, rest, tokens, fault, same, scans, stuck⟩

/-- A line feed between two sources keeps them apart. If the first one has tokens, those of the two
together are its tokens without the end and the tokens of the second one, each as many lines
further down as the first one takes; if the second one has a problem, it is so many lines further
down. A problem of the first one is the problem of the two, unless it is a text or a comment that
is not closed. -/
theorem tokenize_lineFeed (first second : String) :
    let down := first.toList.count '\n' + 1
    let both := tokenize (first ++ "\n" ++ second)
    (∀ located, tokenize first = .ok located →
      located.getLast?.map Located.token = some .endOfInput ∧
      both = match tokenize second with
        | .ok more => .ok (located.dropLast ++ more.map (·.lower down))
        | .error problem => .error (problem.lower down)) ∧
      ∀ problem, tokenize first = .error problem →
        problem.reason ≠ Fault.message .unclosedText →
        problem.reason ≠ Fault.message .unclosedComment → both = .error problem := by
  intro down both
  have joined : both = tokenizeChars (first.toList ++ '\n' :: second.toList) := by
    simp [both, tokenize]
  rw [joined]
  rcases exists_scans first.toList with
    ⟨tokens, scans⟩ | ⟨scanned, rest, tokens, fault, same, scans, stuck⟩
  · have accepted : tokenize first = _ := tokenizeChars_of_scans scans
    rw [accepted]
    refine ⟨fun located read => ?_, fun problem failed => (by cases failed)⟩
    obtain rfl := Except.ok.inj read
    refine ⟨by simp, ?_⟩
    rw [List.dropLast_concat]
    rcases exists_scans second.toList with
      ⟨more, further⟩ | ⟨scanned, rest, more, fault, same, further, stuck⟩
    · have acceptedToo : tokenize second = _ := tokenizeChars_of_scans further
      have whole := tokenizeChars_of_scans (scans.lineFeed (further.lower first.toList))
      rw [acceptedToo, whole, Position.ofText_lineFeed]
      simp [Located.lower, down]
    · have refusedToo : tokenize second = _ := tokenizeChars_of_stuck same further stuck
      have place : first.toList ++ '\n' :: second.toList =
          (first.toList ++ '\n' :: scanned) ++ rest := by
        simp [same]
      have whole := tokenizeChars_of_stuck place
        (scans.lineFeed (further.lower first.toList)) stuck
      rw [refusedToo, whole, Position.ofText_lineFeed]
      rfl
  · have refused : tokenize first = _ := tokenizeChars_of_stuck same scans stuck
    rw [refused]
    refine ⟨fun located read => (by cases read), fun problem failed notText notComment => ?_⟩
    obtain rfl := Except.error.inj failed
    have notNil : rest ≠ [] := by
      obtain ⟨c, tail, rfl⟩ := stuck.exists_cons
      exact List.cons_ne_nil c tail
    have stillStuck := stuck.lineFeed (fun text => notText (congrArg Fault.message text))
      (fun comment => notComment (congrArg Fault.message comment)) second.toList
    have place : first.toList ++ '\n' :: second.toList =
        scanned ++ (rest ++ '\n' :: second.toList) := by
      simp [same]
    exact tokenizeChars_of_stuck place (scans.followed notNil second.toList) stillStuck

/-- A comment in the last line ends at the line feed, and a stray character is a problem whatever
follows. -/
theorem tokenize_lineFeed_comment :
    (tokenize "a // b" = .ok [⟨.name "a", ⟨1, 1⟩⟩, ⟨.endOfInput, ⟨1, 7⟩⟩] ∧
      tokenize ("a // b" ++ "\n" ++ "c") =
        .ok [⟨.name "a", ⟨1, 1⟩⟩, ⟨.name "c", ⟨2, 1⟩⟩, ⟨.endOfInput, ⟨2, 2⟩⟩]) ∧
      tokenize "a #" = .error (.error ⟨1, 3⟩ (Fault.message (.stray '#'))) ∧
      tokenize ("a #" ++ "\n" ++ "'") = .error (.error ⟨1, 3⟩ (Fault.message (.stray '#'))) := by
  have accepted : tokenize "a // b" = .ok [⟨.name "a", ⟨1, 1⟩⟩, ⟨.endOfInput, ⟨1, 7⟩⟩] := by
    decide +kernel
  have further : tokenize "c" = .ok [⟨.name "c", ⟨1, 1⟩⟩, ⟨.endOfInput, ⟨1, 2⟩⟩] := by
    decide +kernel
  have refused : tokenize "a #" = .error (.error ⟨1, 3⟩ (Fault.message (.stray '#'))) := by
    decide +kernel
  have both := ((tokenize_lineFeed "a // b" "c").1 _ accepted).2
  rw [further] at both
  exact ⟨⟨accepted, both⟩, refused,
    (tokenize_lineFeed "a #" "'").2 _ refused (by decide +kernel) (by decide +kernel)⟩

end Sources

end Script
end StagedScript
