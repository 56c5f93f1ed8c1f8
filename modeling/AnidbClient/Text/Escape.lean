import AnidbClient.Text.Reader

/-!
# Escapes in double quotes

In a settings file, and in an environment variable that is written in double quotes, a backslash
begins an escape: one letter for the common control characters, the quote and the backslash
itself, or the hexadecimal number of any character.  Other characters stand for themselves, of the
control characters only the tab.
-/

namespace AnidbClient.Text

/-- A character that is no control character, or a tab. -/
def isVisible (c : Char) : Bool :=
  c == '\t' || (' ' ≤ c && c != '\x7f')

/-- A character that stands for itself in double quotes. -/
def isPlain (c : Char) : Bool :=
  isVisible c && c != '"' && c != '\\'

/-- The value of a hexadecimal digit in either case. -/
def hexDigit? (c : Char) : Option Nat :=
  if '0' ≤ c ∧ c ≤ '9' then some (c.toNat - 48)
  else if 'a' ≤ c ∧ c ≤ 'f' then some (c.toNat - 87)
  else if 'A' ≤ c ∧ c ≤ 'F' then some (c.toNat - 55)
  else none

/-- The character with the given number, if there is one. -/
def ofNumber? (n : Nat) : Option Char :=
  if n.isValidChar then some (Char.ofNat n) else none

namespace Reader

/-- Takes exactly `width` hexadecimal digits, for a number that starts with `acc`. -/
def hexNumber (acc : Nat) : Nat → Reader Nat
  | 0 => pure acc
  | width + 1 => fun
    | [] => none
    | c :: rest => (hexDigit? c).bind fun d => hexNumber (16 * acc + d) width rest

/-- Takes the character that is written as `width` hexadecimal digits. -/
def numbered (width : Nat) : Reader Char := do
  let n ← hexNumber 0 width
  (ofNumber? n : Option Char)

/-- Takes what follows the backslash of an escape. -/
def escapeBody : Reader Char
  | 'b' :: rest => some ('\x08', rest)
  | 't' :: rest => some ('\t', rest)
  | 'n' :: rest => some ('\n', rest)
  | 'f' :: rest => some ('\x0c', rest)
  | 'r' :: rest => some ('\r', rest)
  | '"' :: rest => some ('"', rest)
  | '\\' :: rest => some ('\\', rest)
  | 'u' :: rest => numbered 4 rest
  | 'U' :: rest => numbered 8 rest
  | _ => none

/-- Takes an escape. -/
def escape : Reader Char := do
  char '\\'
  escapeBody

end Reader

end AnidbClient.Text
