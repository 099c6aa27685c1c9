import StagedScript.Text.Unprintable

/-!
# Quoted texts

A text in double quotes, as messages show it. The quote and the backslash take a backslash, line
ends, tabs and the null character have letters of their own, a single quote stays bare, and a
character that cannot be shown stands as its code point in lower-case hexadecimal.
-/

namespace StagedScript
namespace Text

/-- The code point of a character between braces, as in `\u{7f}`. -/
def codePointEscape (c : Char) : String :=
  "\\u\x7b" ++ String.ofList (Nat.toDigits 16 c.toNat) ++ "\x7d"

def quotedChar (c : Char) : String :=
  match c with
  | '"' => "\\\""
  | '\\' => "\\\\"
  | '\n' => "\\n"
  | '\r' => "\\r"
  | '\t' => "\\t"
  | '\x00' => "\\0"
  | c => if isUnprintable c then codePointEscape c else c.toString

def quoted (text : String) : String :=
  "\"" ++ String.join (text.toList.map quotedChar) ++ "\""

end Text
end StagedScript
