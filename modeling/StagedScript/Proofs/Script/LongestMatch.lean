import StagedScript.Proofs.Script.Cuts

/-!
# The longest lexeme at a place

At a place there is at most one longest lexeme, and there is none where a scan is stuck. The lexer
decides by one character which kind of lexeme to read, so each kind is followed separately: where
its longest form ends, and that the lexer reads up to there.

**Results.** Where neither a blank nor a comment begins, the lexer reads the longest lexeme or is
stuck (`readsAt_of_noFiller`), and it reads every longest lexeme as its token
(`readLexeme_of_longest`).
-/

namespace StagedScript
namespace Script

section Uniqueness

variable {c : Char} {accept : Char → Bool} {form front rest text : List Char}
variable {denoted other : Option Token}

theorem length_le_of_front (all : ∀ c ∈ form, accept c = true)
    (ends : ∀ c ∈ rest.head?, accept c = false) (begins : form <+: front ++ rest) :
    form.length ≤ front.length := by
  induction front generalizing form with
  | nil =>
      cases form with
      | nil => exact Nat.le_refl _
      | cons c form =>
          obtain ⟨more, rfl⟩ := begins
          have refused := ends c rfl
          rw [all c List.mem_cons_self] at refused
          cases refused
  | cons c front ih =>
      cases form with
      | nil => exact Nat.zero_le _
      | cons d form =>
          obtain ⟨-, begins⟩ := List.cons_prefix_cons.1 begins
          exact Nat.succ_le_succ (ih (fun c member => all c (List.mem_cons_of_mem _ member)) begins)

/-- There is one way to cut a text after its accepted characters. -/
theorem front_unique {front' rest' : List Char} (all : ∀ c ∈ front, accept c = true)
    (ends : ∀ c ∈ rest.head?, accept c = false) (all' : ∀ c ∈ front', accept c = true)
    (ends' : ∀ c ∈ rest'.head?, accept c = false) (same : front ++ rest = front' ++ rest') :
    front = front' ∧ rest = rest' := by
  have cuts := cutWhile_append all ends
  rw [same, cutWhile_append all' ends'] at cuts
  exact ⟨(Cut.mk.inj cuts).1.symm, (Cut.mk.inj cuts).2.symm⟩

/-- There is one way to read a text after a quote through its closing quote. -/
theorem Quotation.unique {body chars body' chars' rest' : List Char} (isQuote : IsQuote c)
    (quotation : Quotation c body chars) (quotation' : Quotation c body' chars')
    (same : body ++ c :: rest = body' ++ c :: rest') : body = body' ∧ chars = chars' := by
  have cuts := cutText?_append quotation isQuote rest
  rw [same, cutText?_append quotation' isQuote rest'] at cuts
  obtain ⟨sameChars, sameCut⟩ := Prod.mk.inj (Option.some.inj cuts)
  exact ⟨(List.append_cancel_right (Cut.mk.inj sameCut).1).symm, sameChars.symm⟩

theorem point_ends : ∀ c ∈ ('.' :: text).head?, Decimal.isDigit c = false := by
  rintro c ⟨⟩
  decide

theorem not_numeral_of_point {whole fraction : List Char} :
    ¬IsNumeral (whole ++ '.' :: fraction) := by
  intro numeral
  have point := numeral.2 '.' (by simp)
  revert point
  decide

/-- A text spells one thing only. -/
theorem Spells.unique (spells : Spells text denoted) (spells' : Spells text other) :
    denoted = other := by
  obtain ⟨c, tail, rfl⟩ := spells.exists_cons
  have reading := spells.reading
  have reading' := spells'.reading
  match head : headOf c with
  | none =>
      rw [head] at reading
      exact reading.elim
  | some .letter =>
      rw [head] at reading reading'
      exact reading.2.trans reading'.2.symm
  | some .digit =>
      rw [head] at reading reading'
      rcases reading with ⟨numeral, rfl⟩ | ⟨whole, fraction, isWhole, -, same, rfl⟩ <;>
        rcases reading' with ⟨numeral', rfl⟩ | ⟨whole', fraction', isWhole', -, same', rfl⟩
      · rfl
      · exact absurd (same' ▸ numeral) not_numeral_of_point
      · exact absurd (same ▸ numeral') not_numeral_of_point
      · obtain ⟨rfl, fractions⟩ :=
          front_unique isWhole.2 point_ends isWhole'.2 point_ends (same.symm.trans same')
        rw [(List.cons.inj fractions).2]
  | some .quote =>
      rw [head] at reading reading'
      obtain ⟨body, chars, quotation, same, rfl⟩ := reading
      obtain ⟨body', chars', quotation', same', rfl⟩ := reading'
      obtain ⟨rfl, rfl⟩ := quotation.unique (isQuote_of_headOf head) quotation'
        (List.cons.inj (same.symm.trans same')).2
      rfl
  | some .mark =>
      rw [head] at reading reading'
      rcases reading with ⟨mark, spelled, rfl⟩ | ⟨opens, rfl⟩ <;>
        rcases reading' with ⟨mark', spelled', rfl⟩ | ⟨opens', rfl⟩
      · rw [spelling_injective (spelled.symm.trans spelled')]
      · exact absurd (spelled ▸ List.prefix_rfl) (not_opens_of_spelling mark opens')
      · exact absurd (spelled' ▸ List.prefix_rfl) (not_opens_of_spelling mark' opens)
      · rfl

end Uniqueness

section Forms

/-! Where the longest form of each kind ends. -/

variable {c : Char} {form rest text : List Char} {denoted : Option Token}

theorem longest_quotation {body chars : List Char} (isQuote : IsQuote c)
    (quotation : Quotation c body chars) (rest : List Char) :
    LongestLexeme (c :: (body ++ [c])) rest (.text (String.ofList chars)) := by
  refine ⟨.text isQuote quotation rfl, ?_⟩
  intro form denoted spells begins
  have reading := spells.reading_of_begins begins
  rw [headOf_quote isQuote] at reading
  obtain ⟨body', chars', quotation', rfl, -⟩ := reading
  obtain ⟨more, same⟩ := begins
  have closed : body' ++ c :: more = body ++ c :: rest := by
    simpa using same
  obtain ⟨rfl, -⟩ := quotation'.unique isQuote quotation closed
  exact Nat.le_refl _

theorem longest_word (word : IsWord text) (ends : ∀ c ∈ rest.head?, isWordPart c = false) :
    LongestLexeme text rest (wordToken (String.ofList text)) := by
  refine ⟨.of_word word, ?_⟩
  intro form denoted spells begins
  obtain ⟨c, tail, rfl⟩ := (Spells.of_word word).exists_cons
  have reading := spells.reading_of_begins begins
  rw [headOf_letter word.1] at reading
  obtain ⟨d, tail', rfl⟩ := spells.exists_cons
  obtain ⟨-, begins⟩ := List.cons_prefix_cons.1 begins
  exact Nat.succ_le_succ (length_le_of_front reading.1.2 ends begins)

/-- No form of a number goes on after its digits, except over a point in front of a digit. -/
theorem IsNumeral.longest {digits : List Char} (numeral : IsNumeral digits)
    (ends : ∀ d ∈ rest.head?, Decimal.isDigit d = false)
    (noFraction : ∀ d more, rest = '.' :: d :: more → Decimal.isDigit d = false)
    (spells : Spells form denoted) (begins : form <+: digits ++ rest) :
    form.length ≤ digits.length := by
  obtain ⟨c, tail, rfl⟩ := List.exists_cons_of_ne_nil numeral.1
  have reading := spells.reading_of_begins begins
  rw [numeral.headOf (List.append_nil _).symm] at reading
  rcases reading with ⟨isNumeral, -⟩ | ⟨whole, fraction, isWhole, isFraction, rfl, -⟩
  · exact length_le_of_front isNumeral.2 ends begins
  · obtain ⟨more, same⟩ := begins
    rw [List.append_assoc] at same
    obtain ⟨-, rfl⟩ := front_unique isWhole.2 point_ends numeral.2 ends same
    obtain ⟨d, fraction, rfl⟩ := List.exists_cons_of_ne_nil isFraction.1
    have digit := isFraction.2 d List.mem_cons_self
    rw [noFraction d _ rfl] at digit
    cases digit

theorem longest_real {whole fraction : List Char} (isWhole : IsNumeral whole)
    (isFraction : IsNumeral fraction) (ends : ∀ d ∈ rest.head?, Decimal.isDigit d = false) :
    LongestLexeme (whole ++ '.' :: fraction) rest
      (.real (Decimal.realOfDigits whole fraction)) := by
  refine ⟨.real isWhole isFraction rfl, ?_⟩
  intro form denoted spells begins
  obtain ⟨c, tail, rfl⟩ := List.exists_cons_of_ne_nil isWhole.1
  have reading := spells.reading_of_begins begins
  rw [isWhole.headOf (List.append_nil _).symm] at reading
  rcases reading with ⟨isNumeral, -⟩ | ⟨whole', fraction', isWhole', isFraction', rfl, -⟩
  · rw [List.append_assoc] at begins
    have short := length_le_of_front isNumeral.2 point_ends begins
    rw [List.length_append]
    omega
  · obtain ⟨more, same⟩ := begins
    rw [List.append_assoc, List.append_assoc] at same
    obtain ⟨rfl, fractions⟩ := front_unique isWhole'.2 point_ends isWhole.2 point_ends same
    have short := length_le_of_front isFraction'.2 ends ⟨more, (List.cons.inj fractions).2⟩
    simp only [List.length_append, List.length_cons]
    omega

/-- A character that begins nothing else begins a mark, of one character or with an equals sign. -/
theorem Spells.mark_of_begins (spells : Spells form denoted) (begins : form <+: c :: rest)
    (head : headOf c = some .mark ∨ headOf c = none)
    (noComment : ∀ opens, opens = ['/', '/'] ∨ opens = ['/', '*'] → ¬opens <+: c :: rest) :
    (∃ mark, form = [c] ∧ symbolOf? c = some mark) ∨
      ∃ mark more, form = [c, '='] ∧ rest = '=' :: more ∧ symbolWithEquals? c = some mark := by
  have reading := spells.reading_of_begins begins
  rcases head with head | head <;> rw [head] at reading
  · rcases reading with ⟨mark, spelled, -⟩ | ⟨opens, -⟩
    · rcases spelling_cases mark with ⟨d, isSpelling, found⟩ | ⟨d, isSpelling, found⟩
      · obtain rfl := spelled.trans isSpelling
        obtain ⟨rfl, -⟩ := List.cons_prefix_cons.1 begins
        exact .inl ⟨mark, rfl, found⟩
      · obtain rfl := spelled.trans isSpelling
        obtain ⟨rfl, more, rfl⟩ := List.cons_prefix_cons.1 begins
        exact .inr ⟨mark, more, rfl, rfl, found⟩
    · exact absurd begins (noComment form opens)
  · exact reading.elim

/-- A mark ends after its spelling, unless an equals sign makes it another one. -/
theorem longest_mark {mark : Symbol} {tail : List Char}
    (spelled : c :: tail = mark.spelling.toList)
    (noComment : ∀ opens, opens = ['/', '/'] ∨ opens = ['/', '*'] → ¬opens <+: c :: (tail ++ rest))
    (noEquals : ∀ more, tail = [] → rest = '=' :: more → symbolWithEquals? c = none) :
    LongestLexeme (c :: tail) rest (.symbol mark) := by
  refine ⟨.mark mark spelled, ?_⟩
  intro form denoted spells begins
  rcases spells.mark_of_begins begins (.inl (headOf_spelling spelled)) noComment with
    ⟨_, rfl, -⟩ | ⟨_, more, rfl, same, found⟩
  · exact Nat.succ_le_succ (Nat.zero_le _)
  · cases tail with
    | nil =>
        rw [noEquals more rfl same] at found
        cases found
    | cons d tail => exact Nat.succ_le_succ (Nat.succ_le_succ (Nat.zero_le _))

end Forms

section Lexemes

variable {c : Char} {lexeme rest text : List Char} {token : Token} {fault : Fault}

theorem LongestLexeme.length_pos (longest : LongestLexeme lexeme rest token) :
    0 < lexeme.length := by
  obtain ⟨c, tail, rfl⟩ := longest.spells.exists_cons
  exact Nat.zero_lt_succ _

theorem LongestLexeme.not_opens {opens : List Char} (longest : LongestLexeme lexeme rest token)
    (isOpens : opens = ['/', '/'] ∨ opens = ['/', '*']) : ¬opens <+: lexeme ++ rest := by
  intro begins
  have short := longest.longest opens none (.comment isOpens) begins
  have inside := List.prefix_of_prefix_length_le begins (List.prefix_append lexeme rest) short
  obtain ⟨tail, rfl⟩ : ∃ tail, lexeme = '/' :: tail := by
    obtain ⟨more, rfl⟩ := inside
    rcases isOpens with rfl | rfl <;> exact ⟨_, rfl⟩
  rcases longest.spells.reading with ⟨mark, spelled, -⟩ | ⟨-, none⟩
  · exact not_opens_of_spelling mark isOpens (spelled ▸ inside)
  · cases none

theorem LongestLexeme.noFiller (longest : LongestLexeme lexeme rest token) :
    NoFiller (lexeme ++ rest) := by
  obtain ⟨c, tail, rfl⟩ := longest.spells.exists_cons
  refine noFiller_cons_iff.2 ⟨?_, ?_, ?_⟩
  · have reading := longest.spells.reading
    cases blank : Text.isBlank c with
    | false => rfl
    | true =>
        rw [headOf_blank blank] at reading
        exact reading.elim
  · intro line same
    exact longest.not_opens (.inl rfl) ⟨line, same.symm⟩
  · intro body same
    exact absurd ⟨body, same.symm⟩ (longest.not_opens (.inr rfl))

/-- Nothing that begins with a lexeme is stuck. -/
theorem LongestLexeme.not_stuck (longest : LongestLexeme lexeme rest token) :
    ¬Stuck (lexeme ++ rest) fault := by
  intro stuck
  generalize same : lexeme ++ rest = text at stuck
  have begins : lexeme <+: text := same ▸ List.prefix_append lexeme rest
  cases stuck with
  | @unclosedComment body _ =>
      exact longest.not_opens (.inr rfl) ⟨body, same.symm⟩
  | @unclosedText quote more isQuote unclosed =>
      have reading := longest.spells.reading_of_begins begins
      rw [headOf_quote isQuote] at reading
      obtain ⟨body, chars, quotation, rfl, -⟩ := reading
      refine unclosed body chars rest quotation ?_
      rw [← (List.cons.inj same).2]
      simp
  | @integerTooLarge digits more numeral ends noFraction large =>
      have tooLarge : Spells digits none := .tooLarge numeral large
      have short := longest.longest digits none tooLarge (same ▸ List.prefix_append digits more)
      have long := numeral.longest ends noFraction longest.spells begins
      have whole := List.prefix_of_prefix_length_le begins (List.prefix_append digits more) long
      obtain rfl := whole.eq_of_length (Nat.le_antisymm long short)
      cases longest.spells.unique tooLarge
  | stray _ _ none => exact none _ _ longest.spells begins

/-- There is one longest lexeme at a place. -/
theorem LongestLexeme.unique {lexeme' rest' : List Char} {token' : Token}
    (longest : LongestLexeme lexeme rest token) (longest' : LongestLexeme lexeme' rest' token')
    (same : lexeme ++ rest = lexeme' ++ rest') :
    lexeme = lexeme' ∧ rest = rest' ∧ token = token' := by
  have le := longest'.longest lexeme _ longest.spells (same ▸ List.prefix_append lexeme rest)
  have ge := longest.longest lexeme' _ longest'.spells (same ▸ List.prefix_append lexeme' rest')
  obtain ⟨rfl, rfl⟩ := List.append_inj same (Nat.le_antisymm le ge)
  exact ⟨rfl, rfl, Option.some.inj (longest.spells.unique longest'.spells)⟩

end Lexemes

section Readings

/-! Each kind of lexeme is read at its first character. -/

variable {c : Char} {lexeme rest text : List Char} {token : Token}

/-- What the lexer may do at a place: read its longest lexeme, or fail where it is stuck. -/
def ReadsAt (text : List Char) : Except Fault (Token × Cut) → Prop
  | .ok (token, cut) => text = cut.whole ∧ LongestLexeme cut.taken cut.rest token
  | .error fault => Stuck text fault

theorem readsAt_quote (isQuote : IsQuote c) (rest : List Char) :
    ReadsAt (c :: rest) (readLexeme c rest) := by
  have quoted : (c = '"' || c = '\'') = true := by simpa [IsQuote] using isQuote
  rw [readLexeme, if_pos quoted]
  cases found : cutText? c rest with
  | none =>
      refine .unclosedText isQuote fun body chars more quotation same => ?_
      rw [same, cutText?_append quotation isQuote] at found
      cases found
  | some read =>
      obtain ⟨chars, taken, more⟩ := read
      obtain ⟨body, quotation, rfl, rfl⟩ := exists_quotation_of_cutText? found
      exact ⟨by simp [Cut.whole, Cut.before], longest_quotation isQuote quotation more⟩

theorem readsAt_letter (letter : isWordStart c = true) (rest : List Char) :
    ReadsAt (c :: rest) (readLexeme c rest) := by
  have notQuote := notQuote_of_accepted letter (by decide) (by decide)
  have notDigit : Decimal.isDigit c = false := by
    cases digit : Decimal.isDigit c with
    | false => rfl
    | true => simp [not_wordStart_of_digit digit] at letter
  obtain ⟨front, more, rfl, parts, ends, cut⟩ := cutWhile_spec isWordPart rest
  rw [readLexeme, if_neg (Bool.eq_false_iff.1 notQuote), if_neg (Bool.eq_false_iff.1 notDigit),
    if_pos letter, cut]
  have word : IsWord (c :: front) := ⟨letter, parts⟩
  exact ⟨rfl, longest_word word ends⟩

theorem readNumber_real {whole fraction : List Char} (isWhole : IsNumeral whole)
    (isFraction : IsNumeral fraction) (ends : ∀ d ∈ rest.head?, Decimal.isDigit d = false) :
    readNumber (whole ++ '.' :: (fraction ++ rest)) =
      .ok (.real (Decimal.realOfDigits whole fraction), ⟨whole ++ '.' :: fraction, rest⟩) := by
  obtain ⟨d, tail, rfl⟩ := List.exists_cons_of_ne_nil isFraction.1
  have digit := isFraction.2 d List.mem_cons_self
  have cut := cutWhile_append isFraction.2 ends
  rw [List.cons_append] at cut ⊢
  rw [readNumber, cutWhile_append isWhole.2 point_ends]
  simp only [digit, if_true, cut]

theorem readNumber_whole {digits : List Char} (numeral : IsNumeral digits)
    (ends : ∀ d ∈ rest.head?, Decimal.isDigit d = false)
    (noFraction : ∀ d more, rest = '.' :: d :: more → Decimal.isDigit d = false) :
    readNumber (digits ++ rest) =
      if Decimal.ofDigits digits ≤ maxInteger then
        .ok (.integer (Int64.ofNat (Decimal.ofDigits digits)), ⟨digits, rest⟩)
      else
        .error (.integerTooLarge (String.ofList digits)) := by
  rw [readNumber, cutWhile_append numeral.2 ends]
  dsimp only
  split
  next fraction found =>
    split at found
    next d more =>
      rw [if_neg (by simp [noFraction d more rfl])] at found
      cases found
    next => cases found
  next => rfl

theorem exists_numeral (digit : Decimal.isDigit c = true) (rest : List Char) :
    ∃ digits more, c :: rest = digits ++ more ∧ IsNumeral digits ∧
      ∀ d ∈ more.head?, Decimal.isDigit d = false := by
  obtain ⟨digits, more, same, all, ends, -⟩ := cutWhile_spec Decimal.isDigit (c :: rest)
  refine ⟨digits, more, same, ⟨?_, all⟩, ends⟩
  rintro rfl
  rw [List.nil_append] at same
  rw [ends c (by rw [← same]; rfl)] at digit
  cases digit

theorem readsAt_digit (digit : Decimal.isDigit c = true) (rest : List Char) :
    ReadsAt (c :: rest) (readLexeme c rest) := by
  have notQuote := notQuote_of_accepted digit (by decide) (by decide)
  obtain ⟨digits, more, same, numeral, ends⟩ := exists_numeral digit rest
  rw [readLexeme, if_neg (Bool.eq_false_iff.1 notQuote), if_pos digit, same]
  by_cases noFraction : ∀ d text, more = '.' :: d :: text → Decimal.isDigit d = false
  · rw [readNumber_whole numeral ends noFraction]
    split
    next small =>
      refine ⟨rfl, .of_numeral numeral small, ?_⟩
      intro form denoted spells begins
      exact numeral.longest ends noFraction spells begins
    next large => exact .integerTooLarge numeral ends noFraction (Nat.not_le.1 large)
  · obtain ⟨d, text, rfl, digit'⟩ :
        ∃ d text, more = '.' :: d :: text ∧ Decimal.isDigit d = true := by
      simpa using noFraction
    obtain ⟨fraction, more, same', isFraction, ends'⟩ := exists_numeral digit' text
    rw [same', readNumber_real numeral isFraction ends']
    exact ⟨by simp [Cut.whole], longest_real numeral isFraction ends'⟩

theorem readSymbol?_cases (c : Char) (rest : List Char) :
    (∃ mark more, rest = '=' :: more ∧ symbolWithEquals? c = some mark ∧
      readSymbol? (c :: rest) = some (mark, ⟨[c, '='], more⟩)) ∨
    (∀ more, rest = '=' :: more → symbolWithEquals? c = none) ∧
      readSymbol? (c :: rest) = (symbolOf? c).map (·, ⟨[c], rest⟩) := by
  by_cases equals : ∃ mark more, rest = '=' :: more ∧ symbolWithEquals? c = some mark
  · obtain ⟨mark, more, rfl, found⟩ := equals
    refine .inl ⟨mark, more, rfl, found, ?_⟩
    rw [readSymbol?, found]
  · refine .inr ⟨fun more same => ?_, ?_⟩
    · cases found : symbolWithEquals? c with
      | none => rfl
      | some mark => exact absurd ⟨mark, more, same, found⟩ equals
    · unfold readSymbol?
      split
      next more same =>
        obtain ⟨rfl, rfl⟩ := List.cons.inj same
        split
        next mark found => exact absurd ⟨mark, more, rfl, found⟩ equals
        next => rfl
      next same =>
        obtain ⟨rfl, rfl⟩ := List.cons.inj same
        rfl
      next same => cases same

theorem readsAt_mark (none : NoFiller (c :: rest)) (notQuote : (c = '"' || c = '\'') = false)
    (notDigit : Decimal.isDigit c = false) (notLetter : isWordStart c = false) :
    ReadsAt (c :: rest) (readLexeme c rest) := by
  obtain ⟨notBlank, noLine, unclosed⟩ := noFiller_cons_iff.1 none
  rw [readLexeme, if_neg (Bool.eq_false_iff.1 notQuote), if_neg (Bool.eq_false_iff.1 notDigit),
    if_neg (Bool.eq_false_iff.1 notLetter)]
  split
  next opens =>
    obtain ⟨rfl, star⟩ : c = '/' ∧ rest.head? = some '*' := by simpa using opens
    obtain ⟨body, rfl⟩ := List.head?_eq_some_iff.1 star
    exact .unclosedComment (unclosed body rfl)
  next notOpens =>
    have noComment : ∀ opens, opens = ['/', '/'] ∨ opens = ['/', '*'] → ¬opens <+: c :: rest := by
      rintro opens (rfl | rfl) ⟨line, same⟩
      · exact noLine line same.symm
      · obtain ⟨rfl, rfl⟩ := List.cons.inj same
        exact notOpens rfl
    rcases readSymbol?_cases c rest with ⟨mark, more, rfl, isMark, read⟩ | ⟨noEquals, read⟩
    · rw [read]
      have spelled := (spelling_of_symbolWithEquals? isMark).symm
      exact ⟨rfl, longest_mark spelled noComment nofun⟩
    · rw [read]
      cases isMark : symbolOf? c with
      | some mark =>
          have spelled := (spelling_of_symbolOf? isMark).symm
          exact ⟨rfl, longest_mark spelled noComment fun more _ => noEquals more⟩
      | none =>
          have head : headOf c = some .mark ∨ headOf c = Option.none := by
            rw [headOf, if_neg (by simp [notLetter]), if_neg (by simp [notDigit]),
              if_neg (Bool.eq_false_iff.1 notQuote)]
            exact (ite_eq_or_eq ..)
          refine .stray notBlank (by simpa [IsQuote] using notQuote) ?_
          intro form denoted spells begins
          rcases spells.mark_of_begins begins head noComment with
            ⟨_, -, found⟩ | ⟨_, more, -, same, found⟩
          · rw [isMark] at found
            cases found
          · rw [noEquals more same] at found
            cases found

/-- Where neither a blank nor a comment begins, the lexer reads the longest lexeme or is stuck. -/
theorem readsAt_of_noFiller (none : NoFiller (c :: rest)) :
    ReadsAt (c :: rest) (readLexeme c rest) := by
  cases quote : (c = '"' || c = '\'' : Bool) with
  | true => exact readsAt_quote (by simpa [IsQuote] using quote) rest
  | false =>
      cases digit : Decimal.isDigit c with
      | true => exact readsAt_digit digit rest
      | false =>
          cases letter : isWordStart c with
          | true => exact readsAt_letter letter rest
          | false => exact readsAt_mark none quote digit letter

/-- The lexer reads every longest lexeme as its token. -/
theorem readLexeme_of_longest (longest : LongestLexeme lexeme rest token)
    (same : c :: text = lexeme ++ rest) : readLexeme c text = .ok (token, ⟨lexeme, rest⟩) := by
  have reads := readsAt_of_noFiller (same ▸ longest.noFiller)
  cases read : readLexeme c text with
  | error fault =>
      rw [read] at reads
      exact absurd (same ▸ reads) longest.not_stuck
  | ok found =>
      obtain ⟨token', cut⟩ := found
      rw [read] at reads
      obtain ⟨whole, longest'⟩ := reads
      obtain ⟨rfl, rfl, rfl⟩ := longest.unique longest' (same.symm.trans whole)
      rfl

end Readings

end Script
end StagedScript
