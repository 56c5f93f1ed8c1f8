import AnidbClient.Text.Escape

/-!
# What stands between values

Blanks, line ends and comments of a settings file.  A line ends with a line feed, which may have
a carriage return before it; a carriage return alone is not allowed anywhere.
-/

namespace AnidbClient.Settings.Toml

open Text Text.Reader

/-- A blank within a line. -/
def isBlank (c : Char) : Bool :=
  c == ' ' || c == '\t'

/-- Blanks within a line, possibly none. -/
def blanks : Reader Unit :=
  discard (span isBlank)

/-- The end of a line. -/
def newline : Reader Unit :=
  literal ['\n'] <|> literal ['\r', '\n']

/-- A comment, up to the end of its line. -/
def comment : Reader Unit := do
  char '#'
  discard (span isVisible)

/-- The end of a line or of the file. -/
def lineEnd : Reader Unit :=
  newline <|> atEnd

/-- What may follow a value in its line. -/
def lineRest : Reader Unit := do
  blanks
  discard (optional comment)
  lineEnd

/-- Blanks, line ends and whole comments, possibly none. -/
def gap : Reader Unit :=
  discard (many (discard (run isBlank) <|> newline <|> (do comment; newline)))

end AnidbClient.Settings.Toml
