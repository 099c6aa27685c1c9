/-!
# Bytes as text

A byte sequence that need not be well formed is read with a replacement character for every longest
front of a broken sequence.
-/

namespace StagedScript
namespace Text

/-- What stands for bytes that are no character. -/
def replacement : Char :=
  '\uFFFD'

/-- The number of bytes that a character with the given first byte takes, and the range of its
second byte; nothing for a byte that starts no character of several bytes. -/
def sequenceShape? (first : Nat) : Option (Nat × Nat × Nat) :=
  if 0xC2 ≤ first && first ≤ 0xDF then some (2, 0x80, 0xBF)
  else if first = 0xE0 then some (3, 0xA0, 0xBF)
  else if first = 0xED then some (3, 0x80, 0x9F)
  else if 0xE1 ≤ first && first ≤ 0xEF then some (3, 0x80, 0xBF)
  else if first = 0xF0 then some (4, 0x90, 0xBF)
  else if 0xF1 ≤ first && first ≤ 0xF3 then some (4, 0x80, 0xBF)
  else if first = 0xF4 then some (4, 0x80, 0x8F)
  else none

/-- Whether a byte continues a character. -/
def isContinuation (byte : Nat) : Bool :=
  0x80 ≤ byte && byte ≤ 0xBF

/-- Decode bytes, with replacements. The bound is the number of bytes. -/
def decodeWithin : Nat → List Nat → List Char
  | 0, _ => []
  | _ + 1, [] => []
  | turns + 1, first :: rest =>
      if first < 0x80 then
        Char.ofNat first :: decodeWithin turns rest
      else
        match sequenceShape? first, rest with
        | none, _ => replacement :: decodeWithin turns rest
        | some _, [] => [replacement]
        | some (size, low, high), second :: afterSecond =>
            if second < low || high < second then
              replacement :: decodeWithin turns rest
            else if size = 2 then
              Char.ofNat ((first - 0xC0) * 0x40 + (second - 0x80)) ::
                decodeWithin turns afterSecond
            else
              match afterSecond with
              | [] => [replacement]
              | third :: afterThird =>
                  if !isContinuation third then
                    replacement :: decodeWithin turns afterSecond
                  else if size = 3 then
                    Char.ofNat (((first - 0xE0) * 0x40 + (second - 0x80)) * 0x40 +
                      (third - 0x80)) :: decodeWithin turns afterThird
                  else
                    match afterThird with
                    | [] => [replacement]
                    | fourth :: afterFourth =>
                        if !isContinuation fourth then
                          replacement :: decodeWithin turns afterThird
                        else
                          Char.ofNat ((((first - 0xF0) * 0x40 + (second - 0x80)) * 0x40 +
                            (third - 0x80)) * 0x40 + (fourth - 0x80)) ::
                            decodeWithin turns afterFourth

/-- The text of bytes, with replacements for what is no text. -/
def lossyText (bytes : ByteArray) : String :=
  match String.fromUTF8? bytes with
  | some text => text
  | none => String.ofList (decodeWithin bytes.size (bytes.toList.map UInt8.toNat))

/-- The lines of a text; a carriage return before a line feed belongs to the line end, and an empty
rest after the last line feed is no line. -/
def lines (text : String) : List String :=
  let parts := text.toList.splitOn '\n'
  let trimmed (line : List Char) : List Char :=
    if line.getLast? = some '\r' then line.dropLast else line
  let ended := (parts.dropLast.map trimmed).map String.ofList
  match parts.getLast? with
  | none => ended
  | some [] => ended
  | some last => ended ++ [String.ofList last]

end Text
end StagedScript
