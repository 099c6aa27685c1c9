import StagedScript.Script.Token
import StagedScript.Text.Alphabetic
import StagedScript.Text.Numeric
import StagedScript.Text.Blank
import StagedScript.Decimal.Reading

/-!
# From source text to tokens

A source is a sequence of lexemes with trivia between them: blanks, line comments and block
comments. Each step cuts the longest lexeme off the front; what it took and what is left make up
the text again, so positions are counted over what was taken.

Trivia ends at a block comment that is never closed. A lexeme cannot start there either, so it is
reported at the place where it opens.
-/

namespace StagedScript
namespace Script

/-- A text in two parts: what was taken off its front, and what is left. -/
structure Cut where
  taken : List Char
  rest : List Char
deriving DecidableEq

namespace Cut

/-- Take a character in front of what was taken. -/
def before (cut : Cut) (c : Char) : Cut :=
  ⟨c :: cut.taken, cut.rest⟩

def beforeAll (cut : Cut) (text : List Char) : Cut :=
  ⟨text ++ cut.taken, cut.rest⟩

def whole (cut : Cut) : List Char :=
  cut.taken ++ cut.rest

end Cut

/-- Cut off the longest front of characters with a property. -/
def cutWhile (accept : Char → Bool) : List Char → Cut
  | [] => ⟨[], []⟩
  | c :: text => if accept c then (cutWhile accept text).before c else ⟨[], c :: text⟩

/-- Cut off the rest of a line, its line feed included. -/
def cutLine : List Char → Cut
  | [] => ⟨[], []⟩
  | c :: text => if c = '\n' then ⟨[c], text⟩ else (cutLine text).before c

/-- Cut off the rest of a block comment, its closing mark included, if it is closed. -/
def cutComment? : List Char → Option Cut
  | [] => none
  | c :: text =>
      match c, text with
      | '*', '/' :: rest => some ⟨['*', '/'], rest⟩
      | _, _ => (cutComment? text).map (·.before c)

/-- Cut off blanks and comments. The bound is at least the length of the text. -/
def cutTrivia : Nat → List Char → Cut
  | 0, text => ⟨[], text⟩
  | turns + 1, text =>
      match text with
      | [] => ⟨[], []⟩
      | c :: rest =>
          if Text.isBlank c then
            (cutTrivia turns rest).before c
          else
            match c, rest with
            | '/', '/' :: line =>
                let comment := (cutLine line).beforeAll ['/', '/']
                (cutTrivia turns comment.rest).beforeAll comment.taken
            | '/', '*' :: body =>
                match cutComment? body with
                | some cut =>
                    let comment := cut.beforeAll ['/', '*']
                    (cutTrivia turns comment.rest).beforeAll comment.taken
                | none => ⟨[], text⟩
            | _, _ => ⟨[], text⟩

/-- Why no lexeme starts at a place. -/
inductive Fault where
  | unclosedComment
  | unclosedText
  | integerTooLarge (digits : String)
  | stray (c : Char)
deriving DecidableEq

namespace Fault

/-- The reason in words. -/
def message : Fault → String
  | .unclosedComment => "unterminated block comment"
  | .unclosedText => "unterminated string literal"
  | .integerTooLarge digits =>
      "invalid integer " ++ digits ++ ": number too large to fit in target type"
  | .stray c => "unexpected character '" ++ c.toString ++ "'"

end Fault

/-- The character that an escape in a string literal denotes. -/
def unescaped (c : Char) : Char :=
  match c with
  | 'n' => '\n'
  | 't' => '\t'
  | c => c

/-- Read a string literal after its opening quote, through the closing one: the characters that it
denotes, and the cut. -/
def cutText? (quote : Char) : List Char → Option (List Char × Cut)
  | [] => none
  | c :: text =>
      if c = quote then
        some ([], ⟨[c], text⟩)
      else if c = '\\' then
        match text with
        | [] => none
        | escape :: rest =>
            (cutText? quote rest).map fun (chars, cut) =>
              (unescaped escape :: chars, cut.beforeAll [c, escape])
      else
        (cutText? quote text).map fun (chars, cut) => (c :: chars, cut.before c)

/-- The largest integer literal: what fits in 64 bits with a sign. -/
def maxInteger : Nat :=
  9223372036854775807

/-- Read a number at a digit: digits, and a fraction if a point and a digit follow. -/
def readNumber (text : List Char) : Except Fault (Token × Cut) :=
  let whole := cutWhile Decimal.isDigit text
  let fraction : Option Cut :=
    match whole.rest with
    | '.' :: digit :: rest =>
        if Decimal.isDigit digit then some (cutWhile Decimal.isDigit (digit :: rest)) else none
    | _ => none
  match fraction with
  | some digits =>
      .ok (.real (Decimal.realOfDigits whole.taken digits.taken),
        ⟨whole.taken ++ '.' :: digits.taken, digits.rest⟩)
  | none =>
      let value := Decimal.ofDigits whole.taken
      if value ≤ maxInteger then
        .ok (.integer (Int64.ofNat value), whole)
      else
        .error (.integerTooLarge (String.ofList whole.taken))

def isWordStart (c : Char) : Bool :=
  Text.isAlphabetic c || c = '_'

def isWordPart (c : Char) : Bool :=
  Text.isAlphabetic c || Text.isNumeric c || c = '_'

/-- The token of a word: a keyword if it is reserved, else a name. -/
def wordToken (word : String) : Token :=
  match Keyword.ofWord? word with
  | some keyword => .keyword keyword
  | none => .name word

def symbolOf? (c : Char) : Option Symbol :=
  match c with
  | '(' => some .leftParen
  | ')' => some .rightParen
  | '{' => some .leftBrace
  | '}' => some .rightBrace
  | ',' => some .comma
  | ';' => some .semicolon
  | '+' => some .plus
  | '-' => some .minus
  | '*' => some .star
  | '/' => some .slash
  | '%' => some .percent
  | '=' => some .assign
  | '<' => some .less
  | '>' => some .greater
  | _ => none

/-- The symbol of a character and an equals sign after it. -/
def symbolWithEquals? (c : Char) : Option Symbol :=
  match c with
  | '=' => some .equal
  | '!' => some .notEqual
  | '<' => some .lessEqual
  | '>' => some .greaterEqual
  | _ => none

/-- Read a symbol, one of two characters before one of its first. -/
def readSymbol? : List Char → Option (Symbol × Cut)
  | c :: '=' :: rest =>
      match symbolWithEquals? c with
      | some symbol => some (symbol, ⟨[c, '='], rest⟩)
      | none => (symbolOf? c).map (·, ⟨[c], '=' :: rest⟩)
  | c :: rest => (symbolOf? c).map (·, ⟨[c], rest⟩)
  | [] => none

/-- Read the lexeme at the front of a text that starts with the given character. -/
def readLexeme (c : Char) (rest : List Char) : Except Fault (Token × Cut) :=
  if c = '"' || c = '\'' then
    match cutText? c rest with
    | some (chars, cut) => .ok (.text (String.ofList chars), cut.before c)
    | none => .error .unclosedText
  else if Decimal.isDigit c then
    readNumber (c :: rest)
  else if isWordStart c then
    let word := (cutWhile isWordPart rest).before c
    .ok (wordToken (String.ofList word.taken), word)
  else if c = '/' && rest.head? = some '*' then
    .error .unclosedComment
  else
    match readSymbol? (c :: rest) with
    | some (symbol, cut) => .ok (.symbol symbol, cut)
    | none => .error (.stray c)

/-- The tokens of a text that starts at a position, through the end of input, or the problem at the
first place where no lexeme starts. The bound exceeds the length of the text. -/
def tokensFrom : Nat → Position → List Char → Except Problem (List Located)
  | 0, position, _ => .ok [⟨.endOfInput, position⟩]
  | turns + 1, position, text =>
      let gap := cutTrivia turns text
      let start := position.after gap.taken
      match gap.rest with
      | [] => .ok [⟨.endOfInput, start⟩]
      | c :: rest =>
          match readLexeme c rest with
          | .error fault => .error (.error start fault.message)
          | .ok (token, cut) =>
              match tokensFrom turns (start.after cut.taken) cut.rest with
              | .error problem => .error problem
              | .ok tokens => .ok (⟨token, start⟩ :: tokens)

/-- The tokens of a source given as characters. -/
def tokenizeChars (source : List Char) : Except Problem (List Located) :=
  tokensFrom (source.length + 1) .first source

/-- The tokens of a source, ended by the end of input, or the first problem. -/
def tokenize (source : String) : Except Problem (List Located) :=
  tokenizeChars source.toList

end Script
end StagedScript
