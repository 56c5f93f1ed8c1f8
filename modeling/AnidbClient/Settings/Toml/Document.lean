import AnidbClient.Settings.Toml.StandIn
import AnidbClient.Settings.Toml.Value

/-!
# Settings files

A settings file is in TOML.  Its lines are headers, which name the table that the following lines
are about, and keys with their values.  `Document.read?` gives the table of the whole file, in
which tables that stand for a value have given way to it, and nothing at all where a line is
malformed or writes something a second time.
-/

namespace AnidbClient.Settings.Toml

open Text Text.Reader

/-- A line of a settings file that says something. -/
inductive Line where
  /-- The following lines are about this table, or about one more table of this list. -/
  | header (listed : Bool) (key : Key)
  | setting (key : Key) (t : Tree)

namespace Line

/-- The header of one more table of a list. -/
def listHeader : Reader Line := do
  literal "[["
  let k ← key
  literal "]]"
  lineRest
  return header true k

/-- The header of a table. -/
def tableHeader : Reader Line := do
  char '['
  let k ← key
  char ']'
  lineRest
  return header false k

/-- A key with its value. -/
def assignment : Reader Line := do
  let (k, t) ← keyAndValue value
  lineRest
  return setting k t

/-- A line, if it says something, and the blanks before the next one. -/
def reader : Reader (Option Line) := do
  let line ←
    (do comment; lineEnd; return none) <|> (do newline; return none) <|>
      some <$> (listHeader <|> tableHeader <|> assignment)
  blanks
  return line

end Line

/-- How far a file has been read: all tables so far, and the one that lines are about. -/
structure Document where
  nodes : Nodes
  here : List Text

namespace Document

/-- Nothing was read yet. -/
def start : Document := ⟨[], []⟩

/-- What a line adds. -/
def add (d : Document) : Line → Option Document
  | .header listed key => (d.nodes.define listed key).map fun ns => ⟨ns, key.names⟩
  | .setting key t => (d.nodes.within (Nodes.assign key t) d.here).map fun ns => ⟨ns, d.here⟩

/-- What may stand before the first character of a file. -/
def byteOrderMark : Char := '\ufeff'

/-- The lines of a file. -/
def lines : Reader (List Line) := do
  discard (optional (char byteOrderMark))
  blanks
  let ls ← many Line.reader
  atEnd
  return ls.reduceOption

/-- The table of a settings file. -/
def read? (s : Text) : Option Tree := do
  let ls ← run? lines s
  let d ← ls.foldlM add start
  return .table (← resolveEntries? (treesOf d.nodes))

end Document

end AnidbClient.Settings.Toml
