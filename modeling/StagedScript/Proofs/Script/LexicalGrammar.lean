import Mathlib.Data.List.Induction
import StagedScript.Script.Lexer

/-!
# The lexical grammar

A source is lexemes with gaps of blanks and comments around them. What a text spells on its own is a
relation, with one rule for each kind of lexeme; which lexeme begins at a place is the longest form
that begins there. The opening marks of comments and numbers that are too large are forms that spell
no token: they take a place without giving it a token.

`Scans` cuts lexeme after lexeme off a text and keeps what was before it, so that positions are
counted from the beginning of the source. Where a scan stops in the middle of a source, it is
`Stuck` there.

The first character of a form decides which of the rules it can be spelled by.

**Results.** Each form spells what its first character allows (`Spells.reading_of_begins`), and
nothing that begins with a blank spells anything (`headOf_blank`).
-/

namespace StagedScript

namespace Text
namespace CodeRanges

/-- Where no point of one table is covered by another, no character has both properties. -/
theorem not_covers_of_covers {ranges others : CodeRanges} {point : Nat}
    (apart : ∀ range ∈ ranges, ∀ point ∈ List.range' range.1 (range.2 + 1 - range.1),
      others.covers point = false)
    (covered : ranges.covers point = true) : others.covers point = false := by
  obtain ⟨range, member, low, high⟩ := exists_range_of_covers covered
  refine apart range member point (List.mem_range'_1.2 ⟨low, ?_⟩)
  omega

end CodeRanges
end Text

namespace Position

/-- The place after a text, by the line feeds in it and the characters since the last one. -/
def ofText (before : List Char) : Position :=
  ⟨1 + before.count '\n', 1 + (before.reverse.takeWhile (· ≠ '\n')).length⟩

/-- Positions that are counted step by step are those places. -/
theorem after_first (before : List Char) : first.after before = ofText before := by
  induction before using List.reverseRecOn with
  | nil => rfl
  | append_singleton text c ih =>
      rw [after_append, ih]
      by_cases feed : c = '\n'
      · subst feed
        simp [after, step, ofText, Nat.add_assoc]
      · simp [after, step, ofText, feed, Nat.add_assoc]

end Position

namespace Script

section Characters

theorem not_wordStart_of_blank {c : Char} (blank : Text.isBlank c = true) :
    isWordStart c = false := by
  have apart : ∀ range ∈ Text.blankRanges,
      ∀ point ∈ List.range' range.1 (range.2 + 1 - range.1),
        Text.alphabeticRanges.covers point = false := by
    decide +kernel
  have other := Text.CodeRanges.not_covers_of_covers apart blank
  have notUnderscore : c ≠ '_' := by
    rintro rfl
    revert blank
    decide
  simp [isWordStart, Text.isAlphabetic, other, notUnderscore]

/-- The digits as a table. -/
theorem covers_of_isDigit {c : Char} (digit : Decimal.isDigit c = true) :
    Text.CodeRanges.covers [(0x30, 0x39)] c.toNat = true := by
  have bounds := Bool.and_eq_true_iff.1 digit
  have low : 0x30 ≤ c.toNat := of_decide_eq_true bounds.1
  have high : c.toNat ≤ 0x39 := of_decide_eq_true bounds.2
  unfold Text.CodeRanges.covers
  rw [if_neg (by omega), if_pos high]

theorem not_wordStart_of_digit {c : Char} (digit : Decimal.isDigit c = true) :
    isWordStart c = false := by
  have apart : ∀ range ∈ ([(0x30, 0x39)] : Text.CodeRanges),
      ∀ point ∈ List.range' range.1 (range.2 + 1 - range.1),
        Text.alphabeticRanges.covers point = false := by
    decide +kernel
  have other := Text.CodeRanges.not_covers_of_covers apart (covers_of_isDigit digit)
  have notUnderscore : c ≠ '_' := by
    rintro rfl
    revert digit
    decide
  simp [isWordStart, Text.isAlphabetic, other, notUnderscore]

theorem not_blank_of_digit {c : Char} (digit : Decimal.isDigit c = true) :
    Text.isBlank c = false :=
  Text.CodeRanges.not_covers_of_covers (by decide) (covers_of_isDigit digit)

theorem notQuote_of_accepted {accept : Char → Bool} {c : Char} (accepted : accept c = true)
    (double : accept '"' = false) (single : accept '\'' = false) :
    (c = '"' || c = '\'') = false := by
  rw [Bool.or_eq_false_iff, decide_eq_false_iff_not, decide_eq_false_iff_not]
  constructor <;> rintro rfl
  · simp [double] at accepted
  · simp [single] at accepted

/-- The characters that symbols start with. -/
def markStarts : List Char :=
  ['(', ')', '{', '}', ',', ';', '+', '-', '*', '/', '%', '=', '<', '>', '!']

/-- What the lexer finds out about a character before it looks for a symbol. -/
theorem plain_of_mem_markStarts {c : Char} (member : c ∈ markStarts) : Text.isBlank c = false ∧
    (c = '"' || c = '\'') = false ∧ Decimal.isDigit c = false ∧ isWordStart c = false := by
  have plain : markStarts.all (fun c => !Text.isBlank c && !(c = '"' || c = '\'') &&
      !Decimal.isDigit c && !isWordStart c) = true := by decide
  have here := List.all_eq_true.1 plain c member
  simpa only [Bool.and_eq_true, Bool.not_eq_true', and_assoc] using here

end Characters

section Gaps

/-- A blank or a comment, and what follows it. A line comment goes up to its line feed or the end of
the text, a block comment up to its first closing mark. -/
inductive Filler : List Char → List Char → Prop
  | blank {c : Char} {rest : List Char} : Text.isBlank c = true → Filler [c] rest
  | line {body rest : List Char} : '\n' ∉ body → Filler ('/' :: '/' :: (body ++ ['\n'])) rest
  | lastLine {body : List Char} : '\n' ∉ body → Filler ('/' :: '/' :: body) []
  | block {body rest : List Char} : ¬['*', '/'] <:+: body ++ ['*'] →
      Filler ('/' :: '*' :: (body ++ ['*', '/'])) rest

/-- Blanks and comments, and what follows them. -/
inductive Gap : List Char → List Char → Prop
  | nil {rest : List Char} : Gap [] rest
  | cons {first more rest : List Char} :
      Filler first (more ++ rest) → Gap more rest → Gap (first ++ more) rest

/-- Neither a blank nor a comment begins here. -/
def NoFiller (text : List Char) : Prop :=
  ∀ first rest, text = first ++ rest → ¬Filler first rest

/-- A comment in the last line ends where the text does, so that less may follow, but not more. -/
theorem Gap.of_front {gap rest front : List Char} (isGap : Gap gap rest) (before : front <+: rest) :
    Gap gap front := by
  induction isGap with
  | nil => exact .nil
  | @cons first more rest filler _ ih =>
      refine .cons ?_ (ih before)
      generalize following : more ++ rest = text at filler
      cases filler with
      | blank blank => exact .blank blank
      | line noFeed => exact .line noFeed
      | lastLine noFeed =>
          obtain ⟨rfl, rfl⟩ := List.append_eq_nil_iff.1 following
          obtain rfl := List.prefix_nil.1 before
          exact .lastLine noFeed
      | block unclosed => exact .block unclosed

end Gaps

section Lexemes

def IsQuote (c : Char) : Prop :=
  c = '"' ∨ c = '\''

/-- The characters between two quotes, and those that they denote. A quote or a backslash among them
follows a backslash. -/
inductive Quotation (quote : Char) : List Char → List Char → Prop
  | nil : Quotation quote [] []
  | plain {c : Char} {body chars : List Char} : c ≠ quote → c ≠ '\\' →
      Quotation quote body chars → Quotation quote (c :: body) (c :: chars)
  | lineFeed {body chars : List Char} :
      Quotation quote body chars → Quotation quote ('\\' :: 'n' :: body) ('\n' :: chars)
  | tab {body chars : List Char} :
      Quotation quote body chars → Quotation quote ('\\' :: 't' :: body) ('\t' :: chars)
  | escaped {c : Char} {body chars : List Char} : c ≠ 'n' → c ≠ 't' →
      Quotation quote body chars → Quotation quote ('\\' :: c :: body) (c :: chars)

def IsNumeral (text : List Char) : Prop :=
  text ≠ [] ∧ ∀ c ∈ text, Decimal.isDigit c = true

def IsWord : List Char → Prop
  | [] => False
  | c :: rest => isWordStart c = true ∧ ∀ d ∈ rest, isWordPart d = true

/-- What a text spells as a whole: a token, or nothing if it is a number that is too large or the
opening mark of a comment. -/
inductive Spells (text : List Char) : Option Token → Prop
  | mark (mark : Symbol) : text = mark.spelling.toList → Spells text (some (.symbol mark))
  | keyword {word : Keyword} : IsWord text → Keyword.ofWord? (String.ofList text) = some word →
      Spells text (some (.keyword word))
  | name : IsWord text → Keyword.ofWord? (String.ofList text) = none →
      Spells text (some (.name (String.ofList text)))
  | integer {value : Int64} : IsNumeral text → value.toInt = Decimal.ofDigits text →
      Spells text (some (.integer value))
  | tooLarge : IsNumeral text → maxInteger < Decimal.ofDigits text → Spells text none
  | real {whole fraction : List Char} : IsNumeral whole → IsNumeral fraction →
      text = whole ++ '.' :: fraction →
      Spells text (some (.real (Decimal.realOfDigits whole fraction)))
  | text {quote : Char} {body chars : List Char} : IsQuote quote → Quotation quote body chars →
      text = quote :: (body ++ [quote]) → Spells text (some (.text (String.ofList chars)))
  | comment : text = ['/', '/'] ∨ text = ['/', '*'] → Spells text none

/-- A lexeme of a token, such that no longer form begins at its place. -/
structure LongestLexeme (lexeme rest : List Char) (token : Token) : Prop where
  spells : Spells lexeme (some token)
  longest : ∀ form denoted, Spells form denoted → form <+: lexeme ++ rest →
    form.length ≤ lexeme.length

/-- Why no lexeme begins at a place. -/
inductive Stuck : List Char → Fault → Prop
  | unclosedComment {rest : List Char} : ¬['*', '/'] <:+: rest →
      Stuck ('/' :: '*' :: rest) .unclosedComment
  | unclosedText {quote : Char} {rest : List Char} : IsQuote quote →
      (∀ body chars more, Quotation quote body chars → rest ≠ body ++ quote :: more) →
      Stuck (quote :: rest) .unclosedText
  | integerTooLarge {digits rest : List Char} : IsNumeral digits →
      (∀ c ∈ rest.head?, Decimal.isDigit c = false) →
      (∀ c more, rest = '.' :: c :: more → Decimal.isDigit c = false) →
      maxInteger < Decimal.ofDigits digits →
      Stuck (digits ++ rest) (.integerTooLarge (String.ofList digits))
  | stray {c : Char} {rest : List Char} : Text.isBlank c = false → ¬IsQuote c →
      (∀ form denoted, Spells form denoted → ¬form <+: c :: rest) →
      Stuck (c :: rest) (.stray c)

/-- Cut lexemes off a text that stands after another one: their tokens with their places, and what
is left after a last gap. -/
inductive Scans : List Char → List Char → List Located → List Char → Prop
  | stop {before gap rest : List Char} : Gap gap rest → Scans before (gap ++ rest) [] rest
  | lexeme {before gap lexeme text rest : List Char} {token : Token} {tokens : List Located} :
      Gap gap (lexeme ++ text) → LongestLexeme lexeme text token →
      Scans (before ++ gap ++ lexeme) text tokens rest →
      Scans before (gap ++ (lexeme ++ text)) (⟨token, .ofText (before ++ gap)⟩ :: tokens) rest

end Lexemes

section Heads

/-! The first character of a form tells what kind of form it is. -/

inductive Head where
  | letter
  | digit
  | quote
  | mark
deriving DecidableEq

/-- What begins with a character, if anything but a gap does. -/
def headOf (c : Char) : Option Head :=
  if isWordStart c then some .letter
  else if Decimal.isDigit c then some .digit
  else if c = '"' || c = '\'' then some .quote
  else if c ∈ markStarts then some .mark
  else none

variable {c : Char} {tail text rest : List Char} {denoted : Option Token}

theorem headOf_letter (letter : isWordStart c = true) : headOf c = some .letter :=
  if_pos letter

theorem headOf_digit (digit : Decimal.isDigit c = true) : headOf c = some .digit := by
  rw [headOf, if_neg (by simp [not_wordStart_of_digit digit]), if_pos digit]

theorem headOf_quote (quote : IsQuote c) : headOf c = some .quote := by
  rcases quote with rfl | rfl <;> decide

theorem headOf_mark (mark : c ∈ markStarts) : headOf c = some .mark := by
  obtain ⟨-, notQuote, notDigit, notLetter⟩ := plain_of_mem_markStarts mark
  rw [headOf, if_neg (by simp [notLetter]), if_neg (by simp [notDigit]),
    if_neg (Bool.eq_false_iff.1 notQuote), if_pos mark]

theorem headOf_blank (blank : Text.isBlank c = true) : headOf c = none := by
  have notDigit : Decimal.isDigit c = false := by
    cases digit : Decimal.isDigit c with
    | false => rfl
    | true => rw [not_blank_of_digit digit] at blank; cases blank
  have notQuote : (c = '"' || c = '\'') = false :=
    notQuote_of_accepted blank (by decide) (by decide)
  have notMark : c ∉ markStarts := by
    intro mark
    rw [(plain_of_mem_markStarts mark).1] at blank
    cases blank
  rw [headOf, if_neg (by simp [not_wordStart_of_blank blank]), if_neg (by simp [notDigit]),
    if_neg (Bool.eq_false_iff.1 notQuote), if_neg notMark]

theorem isQuote_of_headOf (quote : headOf c = some .quote) : IsQuote c := by
  unfold headOf at quote
  split at quote
  · cases quote
  · split at quote
    · cases quote
    · split at quote
      next isQuote => simpa [IsQuote] using isQuote
      next => split at quote <;> cases quote

theorem headOf_spelling {mark : Symbol} (spelled : c :: tail = mark.spelling.toList) :
    headOf c = some .mark := by
  refine headOf_mark ?_
  cases mark <;> obtain ⟨rfl, -⟩ := List.cons.inj spelled <;> decide

theorem IsNumeral.headOf {whole more : List Char} (numeral : IsNumeral whole)
    (same : c :: tail = whole ++ more) : headOf c = some .digit := by
  obtain ⟨notNil, digits⟩ := numeral
  obtain ⟨d, rest, rfl⟩ := List.exists_cons_of_ne_nil notNil
  obtain ⟨rfl, -⟩ := List.cons.inj same
  exact headOf_digit (digits c List.mem_cons_self)

/-- The token of a number in digits, if it is not too large. -/
def numeralToken? (digits : List Char) : Option Token :=
  if Decimal.ofDigits digits ≤ maxInteger then
    some (.integer (Int64.ofNat (Decimal.ofDigits digits)))
  else
    none

theorem numeralToken?_of_toInt {value : Int64} {digits : List Char}
    (same : value.toInt = Decimal.ofDigits digits) :
    numeralToken? digits = some (.integer value) := by
  have bound := value.toInt_lt
  rw [numeralToken?, if_pos (by unfold maxInteger; omega), ← Int64.ofInt_eq_ofNat, ← same,
    Int64.ofInt_toInt]

/-- What a form that begins with a character spells. -/
def Reading (c : Char) (text : List Char) (denoted : Option Token) : Option Head → Prop
  | some .letter => IsWord text ∧ denoted = some (wordToken (String.ofList text))
  | some .digit =>
      (IsNumeral text ∧ denoted = numeralToken? text) ∨
        ∃ whole fraction, IsNumeral whole ∧ IsNumeral fraction ∧ text = whole ++ '.' :: fraction ∧
          denoted = some (.real (Decimal.realOfDigits whole fraction))
  | some .quote =>
      ∃ body chars, Quotation c body chars ∧ text = c :: (body ++ [c]) ∧
        denoted = some (.text (String.ofList chars))
  | some .mark =>
      (∃ mark : Symbol, text = mark.spelling.toList ∧ denoted = some (.symbol mark)) ∨
        (text = ['/', '/'] ∨ text = ['/', '*']) ∧ denoted = none
  | none => False

theorem Spells.reading (spells : Spells (c :: tail) denoted) :
    Reading c (c :: tail) denoted (headOf c) := by
  cases spells with
  | mark mark spelled =>
      rw [headOf_spelling spelled]
      exact .inl ⟨mark, spelled, rfl⟩
  | keyword word reserved =>
      rw [headOf_letter word.1]
      exact ⟨word, by rw [wordToken, reserved]⟩
  | name word free =>
      rw [headOf_letter word.1]
      exact ⟨word, by rw [wordToken, free]⟩
  | integer numeral same =>
      rw [numeral.headOf (List.append_nil _).symm]
      exact .inl ⟨numeral, (numeralToken?_of_toInt same).symm⟩
  | tooLarge numeral large =>
      rw [numeral.headOf (List.append_nil _).symm]
      exact .inl ⟨numeral, (if_neg (Nat.not_le.2 large)).symm⟩
  | real whole fraction same =>
      rw [whole.headOf same]
      exact .inr ⟨_, _, whole, fraction, same, rfl⟩
  | text quote quotation same =>
      obtain ⟨rfl, -⟩ := List.cons.inj same
      rw [headOf_quote quote]
      exact ⟨_, _, quotation, same, rfl⟩
  | comment opens =>
      have slash : c = '/' := by
        rcases opens with same | same <;> exact (List.cons.inj same).1
      rw [headOf_mark (by rw [slash]; decide)]
      exact .inr ⟨opens, rfl⟩

theorem Spells.exists_cons (spells : Spells text denoted) : ∃ c tail, text = c :: tail := by
  have notNil : text ≠ [] := by
    cases spells with
    | mark mark spelled =>
        rw [spelled]
        cases mark <;> decide
    | keyword word | name word =>
        rintro rfl
        exact word
    | integer numeral | tooLarge numeral => exact numeral.1
    | real _ _ same => simp [same]
    | text _ _ same => simp [same]
    | comment opens => rcases opens with rfl | rfl <;> decide
  exact List.exists_cons_of_ne_nil notNil

theorem Spells.reading_of_begins (spells : Spells text denoted) (begins : text <+: c :: rest) :
    Reading c text denoted (headOf c) := by
  obtain ⟨d, tail, rfl⟩ := spells.exists_cons
  obtain ⟨rfl, -⟩ := List.cons_prefix_cons.1 begins
  exact spells.reading

theorem Spells.of_word (word : IsWord text) :
    Spells text (some (wordToken (String.ofList text))) := by
  cases reserved : Keyword.ofWord? (String.ofList text) with
  | none =>
      rw [wordToken, reserved]
      exact .name word reserved
  | some keyword =>
      rw [wordToken, reserved]
      exact .keyword word reserved

theorem Spells.of_numeral (numeral : IsNumeral text) (small : Decimal.ofDigits text ≤ maxInteger) :
    Spells text (some (.integer (Int64.ofNat (Decimal.ofDigits text)))) := by
  refine .integer numeral ?_
  unfold maxInteger at small
  rw [← Int64.ofInt_eq_ofNat, Int64.toInt_ofInt_of_le (by omega) (by omega)]

end Heads

section Marks

variable {c : Char}

theorem spelling_cases (mark : Symbol) :
    (∃ c, mark.spelling.toList = [c] ∧ symbolOf? c = some mark) ∨
      ∃ c, mark.spelling.toList = [c, '='] ∧ symbolWithEquals? c = some mark := by
  cases mark with
  | equal | notEqual | lessEqual | greaterEqual => exact .inr ⟨_, rfl, rfl⟩
  | _ => exact .inl ⟨_, rfl, rfl⟩

theorem spelling_of_symbolOf? {mark : Symbol} (found : symbolOf? c = some mark) :
    mark.spelling.toList = [c] := by
  unfold symbolOf? at found
  split at found <;> cases found <;> rfl

theorem spelling_of_symbolWithEquals? {mark : Symbol} (found : symbolWithEquals? c = some mark) :
    mark.spelling.toList = [c, '='] := by
  unfold symbolWithEquals? at found
  split at found <;> cases found <;> rfl

theorem spelling_injective {mark mark' : Symbol}
    (same : mark.spelling.toList = mark'.spelling.toList) : mark = mark' := by
  revert same
  cases mark <;> cases mark' <;> decide

theorem not_opens_of_spelling (mark : Symbol) {opens : List Char}
    (isOpens : opens = ['/', '/'] ∨ opens = ['/', '*']) : ¬opens <+: mark.spelling.toList := by
  rcases isOpens with rfl | rfl <;> cases mark <;> decide

end Marks

end Script
end StagedScript
