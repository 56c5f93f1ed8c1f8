import AnidbClient.Settings.Toml.Moment
import AnidbClient.Settings.Toml.Number
import AnidbClient.Settings.Toml.Quoted
import AnidbClient.Settings.Toml.Table

/-!
# Keys and values

A key is one or more names with points between them; a name without quotes is made of ASCII
letters, digits, underscores and dashes.  A value is a scalar, a list in brackets that may go
over several lines, or a table in braces in a single line.
-/

namespace AnidbClient.Settings.Toml

open Text Text.Reader

/-- The number of names that no key reaches, and of brackets and braces that no value has around
each other. -/
def nestingLimit : Nat := 80

/-! ## Keys -/

/-- A character of a name without quotes. -/
def isNameChar (c : Char) : Bool :=
  (digit? c).isSome || ('a' ≤ c && c ≤ 'z') || ('A' ≤ c && c ≤ 'Z') || c == '_' || c == '-'

/-- A name, with the blanks around it. -/
def spacedName : Reader Text := do
  blanks
  let name ← basicText <|> literalText <|> run isNameChar
  blanks
  return name

/-- A key. -/
def key : Reader Key := do
  let first ← spacedName
  let rest ← many (do char '.'; spacedName)
  guard (rest.length + 1 < nestingLimit)
  (Key.ofNames? (first :: rest) : Option Key)

/-- A key and its value. -/
def keyAndValue (item : Reader Tree) : Reader (Key × Tree) := do
  let k ← key
  char '='
  blanks
  return (k, ← item)

/-! ## Values -/

/-- The end of a word without quotes. -/
def isWordEnd (c : Char) : Bool :=
  isBlank c || c == '\r' || c == '\n' || c == '#' || c == ',' || c == ']' || c == '\x7d'

/-- A truth value or a number. -/
def word : Reader Tree := do
  let s ← run fun c => !isWordEnd c
  (wordValue? s : Option Tree)

/-- A value without parts. -/
def scalar : Reader Tree :=
  (do return .text (← quotedText)) <|> moment <|> word

/-- Values in brackets. -/
def list (item : Reader Tree) : Reader Tree := do
  return .list (← bracketed '[' ']' gap do
    let t ← item
    gap
    return t)

/-- Keys with their values, and a comma between neighbours. -/
def pairs (item : Reader Tree) : Reader (List (Key × Tree)) := do
  let one : Reader (Key × Tree) := do
    let p ← keyAndValue item
    blanks
    return p
  let first ← one
  let rest ← many (do char ','; one)
  return first :: rest

/-- Keys with their values in braces. -/
def inlineTable (item : Reader Tree) : Reader Tree := do
  char '\x7b'
  let ps ← pairs item <|> pure []
  blanks
  char '\x7d'
  let nodes ← (ps.foldlM (fun ns (k, t) => Nodes.assign k t ns) [] : Option Nodes)
  return nodes.toTree

/-- A value with at most `depth` brackets and braces around each other. -/
def nested : Nat → Reader Tree
  | 0 => scalar
  | depth + 1 => list (nested depth) <|> inlineTable (nested depth) <|> scalar

/-- A value. -/
def value : Reader Tree :=
  nested (nestingLimit - 1)

end AnidbClient.Settings.Toml
