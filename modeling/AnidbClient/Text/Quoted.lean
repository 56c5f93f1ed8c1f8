import AnidbClient.Text
import AnidbClient.Text.Extending
import AnidbClient.Text.Unprintable

/-!
# Quoted text

Text shown to a developer: in double quotes, with the usual escapes for tabs, line ends, quotes,
backslashes and the null character, and the hexadecimal number of every character that has no
visible form or would join the one before it.
-/

namespace AnidbClient.Text

/-- A hexadecimal digit below sixteen, in lower case. -/
def hexDigitChar (d : Nat) : Char :=
  if d < 10 then Char.ofNat (48 + d) else Char.ofNat (87 + d)

/-- The hexadecimal digits of a number, most significant first. -/
def hexDigits (n : Nat) : Text :=
  if n < 16 then [hexDigitChar n] else hexDigits (n / 16) ++ [hexDigitChar (n % 16)]
termination_by n

/-- One character within quotes. -/
def quoteChar (c : Char) : Text :=
  if c = '\t' then ['\\', 't']
  else if c = '\r' then ['\\', 'r']
  else if c = '\n' then ['\\', 'n']
  else if c = '\\' then ['\\', '\\']
  else if c = '"' then ['\\', '"']
  else if c.toNat = 0 then ['\\', '0']
  else if isUnprintable c || isExtending c then
    ['\\', 'u', '\x7b'] ++ hexDigits c.toNat ++ ['\x7d']
  else [c]

/-- The text in double quotes. -/
def quote (s : Text) : Text :=
  '"' :: s.flatMap quoteChar ++ ['"']

end AnidbClient.Text
