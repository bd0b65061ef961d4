import Switchboard.Quote.Combining
import Switchboard.Quote.Unassigned

/-
  Texts shown between double quotes in messages.

  Quotes and backslashes are preceded by a backslash, and a character that
  leaves no mark of its own is written by name or by code point, so that the
  reader sees every character of the text.

  * `isMarkless` says which characters are shown by code point;
  * `shown` is a text in quotes.
-/

namespace Switchboard.Quote

/-- Controls, and the characters that only direct how others are set. -/
def controls : Blocks :=
  [(0x00, 0x1F), (0x7F, 0x9F), (0xAD, 0xAD), (0x600, 0x605), (0x61C, 0x61C), (0x6DD, 0x6DD),
   (0x70F, 0x70F), (0x890, 0x891), (0x8E2, 0x8E2), (0x180E, 0x180E), (0x200B, 0x200F),
   (0x202A, 0x202E), (0x2060, 0x2064), (0x2066, 0x206F), (0xFEFF, 0xFEFF), (0xFFF9, 0xFFFB),
   (0x110BD, 0x110BD), (0x110CD, 0x110CD), (0x13430, 0x1343F), (0x1BCA0, 0x1BCA3),
   (0x1D173, 0x1D17A), (0xE0001, 0xE0001), (0xE0020, 0xE007F)]

/-- Blanks other than the common one, and the ends of lines and paragraphs. -/
def separators : Blocks :=
  [(0xA0, 0xA0), (0x1680, 0x1680), (0x2000, 0x200A), (0x2028, 0x2029), (0x202F, 0x202F),
   (0x205F, 0x205F), (0x3000, 0x3000)]

/-- Letters that stand for the place of a missing letter. -/
def fillers : Blocks := [(0x115F, 0x1160), (0x3164, 0x3164), (0xFFA0, 0xFFA0)]

/-- Code points left to private agreement. -/
def privateUse : Blocks := [(0xE000, 0xF8FF), (0xF0000, 0xFFFFD), (0x100000, 0x10FFFD)]

/-- Whether a character leaves no mark of its own. -/
def isMarkless (c : Char) : Bool :=
  if 0x20 ≤ c.toNat && c.toNat ≤ 0x7E then false
  else
    controls.hold c || separators.hold c || fillers.hold c || privateUse.hold c ||
      Combining.blocks.hold c || Unassigned.blocks.hold c

/-- How one character is shown. -/
def shownChar (c : Char) : List Char :=
  if c = '"' then ['\\', '"']
  else if c = '\\' then ['\\', '\\']
  else if c = '\n' then ['\\', 'n']
  else if c = '\r' then ['\\', 'r']
  else if c = '\t' then ['\\', 't']
  else if c.toNat = 0 then ['\\', '0']
  else if isMarkless c then ['\\', 'u', '\x7b'] ++ Nat.toDigits 16 c.toNat ++ ['\x7d']
  else [c]

/-- A text in quotes. -/
def shown (s : String) : String := "\"" ++ String.ofList (s.toList.flatMap shownChar) ++ "\""

end Switchboard.Quote
