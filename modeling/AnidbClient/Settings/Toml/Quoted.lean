import AnidbClient.Settings.Toml.Blank
import AnidbClient.Text.Escape

/-!
# Texts in quotes

A text stands in double quotes, where a backslash begins an escape, or between apostrophes, where
every character stands for itself.  With three quotes or three apostrophes at either end a text
may go over several lines: a line end right after the opening is dropped, every other one is a
line feed, and a backslash at the end of a line drops all blanks and line ends up to the next
visible character.
-/

namespace AnidbClient.Settings.Toml

open Text Text.Reader

/-- A character that stands for itself between apostrophes. -/
def isLiteral (c : Char) : Bool :=
  isVisible c && c != '\''

/-- A text in double quotes, in one line. -/
def basicText : Reader Text := do
  char '"'
  let s ← many (charWhere isPlain <|> escape)
  char '"'
  return s

/-- A text between apostrophes, in one line. -/
def literalText : Reader Text := do
  char '\''
  let s ← span isLiteral
  char '\''
  return s

/-- A backslash at the end of a line, and all blanks and line ends after it. -/
def lineJoin : Reader Unit := do
  char '\\'
  blanks
  newline
  discard (many (discard (run isBlank) <|> newline))

/-- The end of a line within a text. -/
def innerNewline : Reader Text := do
  newline
  return ['\n']

/-- A piece without quotes of a text in triple double quotes. -/
def basicPiece : Reader Text :=
  (do return [← charWhere isPlain]) <|> (do lineJoin; return []) <|>
    (do return [← escape]) <|> innerNewline

/-- A piece without apostrophes of a text in triple apostrophes. -/
def literalPiece : Reader Text :=
  (do return [← charWhere isLiteral]) <|> innerNewline

/-- One or two quotes that belong to the text, for what follows them shows that the text goes on
or ends. -/
def innerQuotes (quote : Char) (next : Reader Unit) : Reader Text :=
  (do literal [quote, quote]; next; return [quote, quote]) <|>
    (do literal [quote]; next; return [quote])

/-- A text in triple quotes, made of pieces.  Up to two further quotes may stand before the
closing ones. -/
def tripled (quote : Char) (piece : Reader Text) : Reader Text := do
  let mark := literal [quote, quote, quote]
  mark
  discard (optional newline)
  let pieces ← many (piece <|> innerQuotes quote (lookahead piece))
  let last ← innerQuotes quote (lookahead mark) <|> pure []
  mark
  return pieces.flatten ++ last

/-- A text in quotes of any kind. -/
def quotedText : Reader Text :=
  tripled '"' basicPiece <|> basicText <|> tripled '\'' literalPiece <|> literalText

end AnidbClient.Settings.Toml
