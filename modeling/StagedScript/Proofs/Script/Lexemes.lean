import StagedScript.Proofs.Script.Printer
import StagedScript.Proofs.Script.Scanning

/-!
# Reading back spelled tokens

In front of a blank or of the end of the text, what spells a token is its longest lexeme. Names have
to be words that are not reserved, and integers must not be negative, since the sign is a token of
its own.

**Results.** The lexer finds in a list of spelled tokens with blanks between them those tokens and
the end of input (`tokenizeChars_joined`).
-/

namespace StagedScript
namespace Script

/-- A name that the lexer reads as such. -/
def isName (word : String) : Bool :=
  match word.toList with
  | [] => false
  | c :: rest => isWordStart c && rest.all isWordPart && (Keyword.ofWord? word).isNone

namespace Token

/-- A token that its spelling stands for. -/
def isPrintable : Token → Bool
  | .integer value => 0 ≤ value.toInt
  | .real _ => false
  | .text _ => true
  | .name word => isName word
  | .keyword _ => true
  | .symbol _ => true
  | .endOfInput => false

end Token

/-- A text that is at its end or goes on with a blank. -/
def AtGap (text : List Char) : Prop :=
  ∀ c ∈ text.head?, c = ' '

theorem AtGap.ends {text : List Char} {accept : Char → Bool} (gap : AtGap text)
    (refused : accept ' ' = false) : ∀ c ∈ text.head?, accept c = false := by
  intro c starts
  obtain rfl := gap c starts
  exact refused

/-- What ends at a gap does not go on with a character that is no blank. -/
theorem AtGap.ne_cons {text more : List Char} {c : Char} (gap : AtGap text) (notBlank : c ≠ ' ') :
    text ≠ c :: more := by
  rintro rfl
  exact notBlank (gap c rfl)

/-- The digits of a number are digits, and read as the number. -/
theorem isDigit_of_mem_toDigits {n : Nat} {c : Char} (member : c ∈ Nat.toDigits 10 n) :
    Decimal.isDigit c = true := by
  have digit := Nat.isDigit_of_mem_toDigits (by decide) (by decide) member
  simpa [Char.isDigit, Decimal.isDigit, Char.le_def] using digit

theorem ofDigits_toDigits (n : Nat) : Decimal.ofDigits (Nat.toDigits 10 n) = n := by
  have core := Nat.ofDigitChars_ten_toDigits (n := n)
  rwa [Nat.ofDigitChars_eq_foldl] at core

section Spellings

variable {rest : List Char}

theorem longest_name {word : String} (named : isName word = true) (gap : AtGap rest) :
    LongestLexeme word.toList rest (.name word) := by
  unfold isName at named
  split at named
  · cases named
  next c tail spelled =>
    simp only [Bool.and_eq_true, Option.isNone_iff_eq_none] at named
    have isWord : IsWord (c :: tail) := ⟨named.1.1, List.all_eq_true.1 named.1.2⟩
    have ends : ∀ d ∈ rest.head?, isWordPart d = false := gap.ends (by decide)
    have longest := longest_word isWord ends
    rwa [wordToken, ← spelled, String.ofList_toList, named.2] at longest

theorem longest_keyword (word : Keyword) (gap : AtGap rest) :
    LongestLexeme word.spelling.toList rest (.keyword word) := by
  have isWord : IsWord word.spelling.toList := by
    cases word <;> exact ⟨by decide, List.all_eq_true.1 (by decide)⟩
  have same : wordToken (String.ofList word.spelling.toList) = .keyword word := by
    cases word <;> decide
  exact same ▸ longest_word isWord (gap.ends (by decide))

/-- The digits of an integer are its longest lexeme where neither a digit nor a fraction follows. -/
theorem longest_integer_of_ends {value : Int64} (positive : 0 ≤ value.toInt)
    (ends : ∀ d ∈ rest.head?, Decimal.isDigit d = false)
    (noFraction : ∀ d more, rest = '.' :: d :: more → Decimal.isDigit d = false) :
    LongestLexeme (toString value.toInt).toList rest (.integer value) := by
  obtain ⟨n, isNat⟩ := Int.eq_ofNat_of_zero_le positive
  have spelled : (toString value.toInt).toList = Nat.toDigits 10 n := by
    rw [isNat]
    exact Nat.toList_repr
  have numeral : IsNumeral (Nat.toDigits 10 n) :=
    ⟨Nat.toDigits_ne_nil, fun c member => isDigit_of_mem_toDigits member⟩
  rw [spelled]
  refine ⟨.integer numeral (by rw [ofDigits_toDigits, isNat]), ?_⟩
  intro form denoted spells begins
  exact numeral.longest ends noFraction spells begins

theorem longest_integer {value : Int64} (positive : 0 ≤ value.toInt) (gap : AtGap rest) :
    LongestLexeme (toString value.toInt).toList rest (.integer value) :=
  longest_integer_of_ends positive (gap.ends (by decide)) fun _ _ same =>
    absurd same (gap.ne_cons (by decide))

theorem quotation_escaped (chars : List Char) :
    Quotation '"' (chars.flatMap Token.escaped) chars := by
  induction chars with
  | nil => exact .nil
  | cons c chars ih =>
      rw [List.flatMap_cons, Token.escaped]
      split
      next special =>
        have same : unescaped c = c := by
          rcases special with rfl | rfl <;> rfl
        have quotation := quotation_escape c ih
        rwa [same] at quotation
      next special =>
        obtain ⟨notQuote, notEscape⟩ := not_or.1 special
        exact .plain notQuote notEscape ih

theorem longest_text (value : String) (rest : List Char) :
    LongestLexeme (Token.text value).spelling rest (.text value) := by
  have longest := longest_quotation (.inl rfl) (quotation_escaped value.toList) rest
  rwa [String.ofList_toList] at longest

theorem longest_symbol (mark : Symbol) (gap : AtGap rest) :
    LongestLexeme mark.spelling.toList rest (.symbol mark) := by
  have noComment : ∀ opens, opens = ['/', '/'] ∨ opens = ['/', '*'] →
      ¬opens <+: mark.spelling.toList ++ rest := by
    rintro opens isOpens ⟨more, same⟩
    rcases spelling_cases mark with ⟨c, spelled, -⟩ | ⟨c, spelled, -⟩ <;> rw [spelled] at same
    · rcases isOpens with rfl | rfl
      · exact gap.ne_cons (by decide) (List.cons.inj same).2.symm
      · exact gap.ne_cons (by decide) (List.cons.inj same).2.symm
    · refine not_opens_of_spelling mark isOpens ?_
      rw [spelled]
      exact List.prefix_of_prefix_length_le ⟨more, same⟩ (List.prefix_append [c, '='] rest)
        (by rcases isOpens with rfl | rfl <;> exact Nat.le_refl 2)
  obtain ⟨c, tail, spelled⟩ := (Spells.mark mark rfl).exists_cons
  rw [spelled] at noComment ⊢
  exact longest_mark spelled.symm noComment fun more _ same =>
    absurd same (gap.ne_cons (by decide))

/-- In front of a gap, the spelling of a printable token is its longest lexeme. -/
theorem longest_spelling {token : Token} (printable : token.isPrintable = true)
    (gap : AtGap rest) : LongestLexeme token.spelling rest token := by
  cases token with
  | integer value => exact longest_integer (of_decide_eq_true printable) gap
  | real value => cases printable
  | text value => exact longest_text value rest
  | name word => exact longest_name printable gap
  | keyword word => exact longest_keyword word gap
  | symbol mark => exact longest_symbol mark gap
  | endOfInput => cases printable

end Spellings

/-- Spelled tokens with a blank in front of each. -/
def spaced : List Token → List Char
  | [] => []
  | t :: ts => ' ' :: (t.spelling ++ spaced ts)

theorem atGap_spaced (ts : List Token) : AtGap (spaced ts) := by
  intro c starts
  cases ts with
  | nil => cases starts
  | cons t ts => exact (Option.some.inj starts).symm

theorem intercalate_spelling (t : Token) (ts : List Token) :
    [' '].intercalate ((t :: ts).map Token.spelling) = t.spelling ++ spaced ts := by
  induction ts generalizing t with
  | nil => simp [spaced]
  | cons second ts ih =>
      rw [List.map_cons, List.map_cons, List.intercalate_cons_cons, ← List.map_cons, ih]
      simp [spaced]

theorem scans_spaced {ts : List Token} (printable : ∀ t ∈ ts, t.isPrintable = true) :
    ∀ before, ∃ located, tokensOf located = ts ∧ Scans before (spaced ts) located [] := by
  induction ts with
  | nil => exact fun before => ⟨[], rfl, .stop .nil⟩
  | cons t ts ih =>
      intro before
      obtain ⟨here, later⟩ := List.forall_mem_cons.1 printable
      obtain ⟨located, same, scans⟩ := ih later (before ++ [' '] ++ t.spelling)
      have blank : Gap [' '] (t.spelling ++ spaced ts) := .cons (.blank (by decide)) .nil
      refine ⟨⟨t, .ofText (before ++ [' '])⟩ :: located, congrArg (t :: ·) same, ?_⟩
      exact .lexeme blank (longest_spelling here (atGap_spaced ts)) scans

/-- The lexer finds spelled tokens with blanks between them again, and the end of input. -/
theorem tokenizeChars_joined {ts : List Token} (printable : ∀ t ∈ ts, t.isPrintable = true) :
    ∃ located, tokenizeChars ([' '].intercalate (ts.map Token.spelling)) = .ok located ∧
      tokensOf located = ts ++ [.endOfInput] := by
  obtain ⟨located, same, scans⟩ : ∃ located, tokensOf located = ts ∧
      Scans [] ([' '].intercalate (ts.map Token.spelling)) located [] := by
    cases ts with
    | nil => exact ⟨[], rfl, .stop .nil⟩
    | cons t ts =>
        obtain ⟨here, later⟩ := List.forall_mem_cons.1 printable
        obtain ⟨located, same, scans⟩ := scans_spaced later t.spelling
        rw [intercalate_spelling]
        exact ⟨⟨t, .ofText []⟩ :: located, congrArg (t :: ·) same,
          .lexeme .nil (longest_spelling here (atGap_spaced ts)) scans⟩
  refine ⟨_, tokenizeChars_of_scans scans, ?_⟩
  rw [← same]
  simp [tokensOf]

end Script
end StagedScript
