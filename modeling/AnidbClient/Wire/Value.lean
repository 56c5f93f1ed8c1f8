import AnidbClient.Text

/-!
# Values on the wire

A value of a command may hold any character.  On the wire an ampersand stands between values, so
one inside a value is written `&amp;`; a line feed would end the line and is written `<br />`;
carriage returns are left out.  Replies use the same two forms and two more: a backtick for an
apostrophe, and a field that is nothing but a slash for the bar that separates fields.

`encode` writes a value character by character, `decode` reads a field, and `fields` reads a
whole reply line.
-/

namespace AnidbClient.Wire

/-- The separator of the fields of a reply line. -/
def fieldSeparator : Char := '|'

/-- What an ampersand is written as. -/
def encodedAmpersand : Text := "&amp;"

/-- What a line feed is written as. -/
def encodedNewline : Text := "<br />"

/-- What an apostrophe is written as in replies. -/
def encodedQuote : Char := '\x60'

/-- What a field holding just the separator is written as. -/
def encodedSeparator : Text := "/"

/-- One character of a value, as it is sent. -/
def encodeChar (c : Char) : Text :=
  if c = '&' then encodedAmpersand
  else if c = '\n' then encodedNewline
  else if c = '\r' then []
  else [c]

/-- A value, as it is sent. -/
def encode (value : Text) : Text :=
  value.flatMap encodeChar

/-- A field of a reply, as it was meant.  Ampersands are restored first, so a doubly written one
is read once. -/
def decode (field : Text) : Text :=
  if field = encodedSeparator then [fieldSeparator]
  else
    (Text.replaceAll encodedNewline ['\n'] (Text.replaceAll encodedAmpersand ['&'] field)).map
      fun c => if c = encodedQuote then '\'' else c

/-- The fields of a reply line. -/
def fields (line : Text) : List Text :=
  (Text.split fieldSeparator line).map decode

@[simp] theorem encode_nil : encode [] = [] := rfl

/-- Every character that is neither an ampersand nor part of a line end goes out unchanged. -/
theorem encodeChar_eq_self {c : Char} (h : c ≠ '&' ∧ c ≠ '\n' ∧ c ≠ '\r') :
    encodeChar c = [c] := by
  simp [encodeChar, h.1, h.2.1, h.2.2]

end AnidbClient.Wire
