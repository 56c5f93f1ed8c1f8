import AnidbClient.Settings.Tree
import AnidbClient.Text.Escape
import AnidbClient.Text.Numeral
import AnidbClient.Text.Utf8

/-!
# The value of an environment variable

The text of a variable is read as a value of a small notation: truth values, numbers, texts in
double quotes, a single character between apostrophes, lists in brackets and tables in braces.
Anything else is a text as it stands, without the blanks around it.

A text that is not wholly one value of the notation is taken as it is, blanks included.
-/

namespace AnidbClient.Settings.Variable

open Text Text.Reader

/-! ## Scalars -/

/-- The blanks around a value. -/
def blanks : Reader Unit :=
  discard (span isAsciiBlank)

/-- A character that ends a text without quotes. -/
def isSeparator (c : Char) : Bool :=
  c == ',' || c == '\x7b' || c == '\x7d' || c == '[' || c == ']'

/-- What is kept of the characters before the first escape of a text: as many bytes of them as
there are characters.  That is all of them where they are ASCII, and else their beginning; a cut
within a character is refused. -/
def kept? (lead : Text) : Option Text :=
  Utf8.front? lead.length lead

/-- The rest of a text in double quotes whose characters before the first escape are given. -/
def escaped (lead : Text) : Reader Text := do
  let s ← (kept? lead : Option Text)
  let rest ← many (charWhere isPlain <|> escape)
  char '"'
  return s ++ rest

/-- A text in double quotes. -/
def quoted : Reader Text := do
  char '"'
  let lead ← span isPlain
  (do char '"'; return lead) <|> escaped lead

/-- One character between apostrophes. -/
def single : Reader Text := do
  char '\''
  let c ← charWhere fun _ => true
  char '\''
  return [c]

/-- What follows an optional sign. -/
def dropSign : Text → Text
  | '+' :: rest => rest
  | '-' :: rest => rest
  | s => s

/-- An ASCII digit. -/
def isDigit (c : Char) : Bool :=
  (digit? c).isSome

/-- Digits, possibly none. -/
def areDigits (s : Text) : Bool :=
  s.all isDigit

/-- Digits around a point, at least one of them. -/
def isPointed (s : Text) : Bool :=
  match cut? '.' s with
  | none => false
  | some (whole, part) => areDigits whole && areDigits part && 1 < s.length

/-- An optional sign and at least one digit. -/
def isExponent (s : Text) : Bool :=
  dropSign s != [] && areDigits (dropSign s)

/-- A number with a point: an optional sign, digits around the point, and perhaps an exponent. -/
def isDecimal (s : Text) : Bool :=
  let s := dropSign s
  let mantissa := s.takeWhile fun c => c != 'e' && c != 'E'
  isPointed mantissa &&
    match s.drop mantissa.length with
    | [] => true
    | _ :: exponent => isExponent exponent

/-- What a text without quotes stands for: a number if it is one, else itself. -/
def bareValue (s : Text) : Tree :=
  if isDecimal s then .decimal s
  else
    match unsigned? UInt64.size s with
    | some n => .int n
    | none =>
      match i64? s with
      | some i => .int i
      | none => .text s

/-- A text without quotes. -/
def bare : Reader Tree := do
  let s ← span fun c => !isSeparator c
  return bareValue (trim s)

/-! ## Lists and tables -/

/-- A character of a key without quotes. -/
def isKeyChar (c : Char) : Bool :=
  isDigit c || ('a' ≤ c && c ≤ 'z') || ('A' ≤ c && c ≤ 'Z') || c == '_' || c == '-'

/-- A key and its value. -/
def entry (item : Reader Tree) : Reader (Text × Tree) := do
  blanks
  let key ← quoted <|> run isKeyChar
  blanks
  char '='
  blanks
  let t ← item
  blanks
  return (key, t)

/-- Values in brackets. -/
def list (item : Reader Tree) : Reader Tree := do
  return .list (← bracketed '[' ']' (pure ()) item)

/-- Keys with their values in braces.  Of two values with one key the later one counts. -/
def table (item : Reader Tree) : Reader Tree := do
  let entries ← bracketed '\x7b' '\x7d' (pure ()) (entry item)
  return .table (entries.foldl (fun es e => set e.1 e.2 es) [])

/-- A truth value. -/
def truth : Reader Tree :=
  (do literal "true"; return .bool true) <|> (do literal "false"; return .bool false)

/-- A value that is told by its first character, or a text without quotes. -/
def byFirst (item : Reader Tree) : Reader Tree := fun s =>
  match s.head? with
  | some '\x7b' => table item s
  | some '[' => list item s
  | some '"' => (Tree.text <$> quoted) s
  | some '\'' => (Tree.text <$> single) s
  | _ => bare s

/-- A value, in which `item` stands for the values within brackets and braces. -/
def valueWith (item : Reader Tree) : Reader Tree := do
  blanks
  let t ← truth <|> byFirst item
  blanks
  return t

/-- A value with `depth` brackets or braces around each other, at most. -/
def value : Nat → Reader Tree
  | 0 => valueWith failure
  | depth + 1 => valueWith (value depth)

/-- What the text of a variable stands for.  A text holds no more brackets than characters, so
its length is depth enough. -/
def read (s : Text) : Tree :=
  (run? (value s.length) s).getD (.text s)

end AnidbClient.Settings.Variable
