import FlashSale.Text.Blank
import FlashSale.Text.Digits

/-!
# Escaped text

Text between quotation marks as messages show it. A quotation mark or backslash has
a backslash in front; the tabulator, the ends of a line and the zero character have
a letter or digit of their own; any other character that cannot be seen is given by
its number.
-/

namespace FlashSale

/-- Whether a character leaves no mark by itself: controls, blanks other than the space,
signs that steer the layout, and characters for private use. -/
def isInvisible (c : Char) : Bool :=
  let n := c.toNat
  n < 0x20 || (0x7f ≤ n && n < 0xa0) || (isBlank c && c != ' ') || n == 0xad || n == 0x61c ||
    n == 0x180e || (0x200b ≤ n && n ≤ 0x200f) || (0x202a ≤ n && n ≤ 0x202e) ||
    (0x2060 ≤ n && n ≤ 0x206f) || n == 0xfeff || (0xe000 ≤ n && n ≤ 0xf8ff) ||
    (0xfff9 ≤ n && n ≤ 0xfffb) || 0xe0000 ≤ n

def escapedChar (c : Char) : List Char :=
  if c = '"' ∨ c = '\\' then ['\\', c]
  else if c = '\t' then ['\\', 't']
  else if c = '\n' then ['\\', 'n']
  else if c = '\r' then ['\\', 'r']
  else if c.toNat = 0 then ['\\', '0']
  else if isInvisible c then "\\u\x7b".toList ++ Digits.ofNat 16 c.toNat ++ ['\x7d']
  else [c]

def escaped (s : String) : String := "\"" ++ String.ofList (s.toList.flatMap escapedChar) ++ "\""

example : escaped "a\"b\x01" = "\"a\\\"b\\u\x7b1\x7d\"" := by decide +kernel

end FlashSale
