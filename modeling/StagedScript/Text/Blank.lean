import StagedScript.Text.Ranges

/-!
# Blanks

The characters with the Unicode property White_Space, which separate lexemes and make a name empty.
-/

namespace StagedScript
namespace Text

/-- The code points with the property White_Space. -/
def blankRanges : CodeRanges :=
  [(0x9, 0xd), (0x20, 0x20), (0x85, 0x85), (0xa0, 0xa0), (0x1680, 0x1680), (0x2000, 0x200a),
   (0x2028, 0x2029), (0x202f, 0x202f), (0x205f, 0x205f), (0x3000, 0x3000)]

/-- A character with the property White_Space. -/
def isBlank (c : Char) : Bool :=
  blankRanges.covers c.toNat

/-- A text without a character other than blanks; the empty text is one. -/
def isBlankText (text : String) : Bool :=
  text.toList.all isBlank

end Text
end StagedScript
