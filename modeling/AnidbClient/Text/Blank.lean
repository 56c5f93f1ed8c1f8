import AnidbClient.Text

/-!
# Blank characters

The characters with the Unicode property White_Space, and the two uses the formats make of them:
`trim` takes them off both ends of a text, `words` gives the runs between them.
-/

namespace AnidbClient.Text

/-- The Unicode property White_Space. -/
def isBlank (c : Char) : Bool :=
  let n := c.toNat
  (0x9 ≤ n && n ≤ 0xD) || n == 0x20 || n == 0x85 || n == 0xA0 || n == 0x1680 ||
    (0x2000 ≤ n && n ≤ 0x200A) || n == 0x2028 || n == 0x2029 || n == 0x202F || n == 0x205F ||
    n == 0x3000

/-- The blanks among the ASCII characters that are neither line ends of their own nor vertical
tabs: tab, line feed, form feed, carriage return and space. -/
def isAsciiBlank (c : Char) : Bool :=
  c == ' ' || c == '\t' || c == '\n' || c == '\r' || c == '\x0c'

/-- The text without the characters of a class at its end. -/
def trimRightWhen (p : Char → Bool) (s : Text) : Text :=
  (s.reverse.dropWhile p).reverse

/-- The text without the blanks at its ends. -/
def trim (s : Text) : Text :=
  trimRightWhen isBlank (s.dropWhile isBlank)

/-- The longest runs without a blank, in order. -/
def words (s : Text) : List Text :=
  (splitWhen isBlank s).filter (· ≠ [])

end AnidbClient.Text
