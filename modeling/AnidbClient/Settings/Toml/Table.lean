import AnidbClient.Settings.Tree

/-!
# Who may add to a table

A settings file names tables in headers, names them in passing in the headers of tables within
them, and makes them up with keys that have points.  A table is written in one of these ways
only: `Node` remembers which, and `define` and `assign` refuse whatever would write it a second
time or in two ways.
-/

namespace AnidbClient.Settings.Toml

/-- How a table came about. -/
inductive Origin where
  /-- By a header of its own. -/
  | header
  /-- By the header of a table within it. -/
  | passing
  /-- By a key with points. -/
  | pointed
  deriving DecidableEq, Repr

/-- What a key stands for while a file is read. -/
inductive Node where
  /-- A finished value. -/
  | value (t : Tree)
  | table (origin : Origin) (entries : List (Text × Node))
  /-- A list of tables, each by a header of its own; only the last one still grows. -/
  | tables (earlier : List (List (Text × Node))) (last : List (Text × Node))

/-- The nodes of a table. -/
abbrev Nodes := List (Text × Node)

/-- A key: the tables it goes through, and the name at its end. -/
structure Key where
  tables : List Text
  name : Text
  deriving DecidableEq, Repr

namespace Key

/-- The key of some names, of which there has to be one. -/
def ofNames? (names : List Text) : Option Key :=
  names.getLast?.map fun name => ⟨names.dropLast, name⟩

/-- All names of a key. -/
def names (k : Key) : List Text :=
  k.tables ++ [k.name]

end Key

namespace Nodes

/-- Changes the table at the end of a path.  The path goes through the last table of each list,
and tables that are missing are named in passing. -/
def within (change : Nodes → Option Nodes) : List Text → Nodes → Option Nodes
  | [], ns => change ns
  | key :: path, ns =>
    match find? key ns with
    | none => (within change path []).map fun sub => set key (.table .passing sub) ns
    | some (.table origin sub) =>
      (within change path sub).map fun sub => set key (.table origin sub) ns
    | some (.tables earlier last) =>
      (within change path last).map fun last => set key (.tables earlier last) ns
    | some (.value _) => none

/-- Opens the table of a header, which may have been named in passing before. -/
def open? (name : Text) (ns : Nodes) : Option Nodes :=
  match find? name ns with
  | none => some (set name (.table .header []) ns)
  | some (.table .passing sub) => some (set name (.table .header sub) ns)
  | some _ => none

/-- Opens one more table of a list. -/
def openNext? (name : Text) (ns : Nodes) : Option Nodes :=
  match find? name ns with
  | none => some (set name (.tables [] []) ns)
  | some (.tables earlier last) => some (set name (.tables (earlier ++ [last]) []) ns)
  | some _ => none

/-- Opens the table of a header, or one more table of its list. -/
def define (listed : Bool) (key : Key) (ns : Nodes) : Option Nodes :=
  within (if listed then openNext? key.name else open? key.name) key.tables ns

/-- Adds a value under the name at the end of a path.  Only a table that came about by a key with
points, or the one that the path starts from, takes the value; `takes` says that it does. -/
def assignAt (name : Text) (t : Tree) : Bool → List Text → Nodes → Option Nodes
  | takes, [], ns => if takes && (find? name ns).isNone then some (set name (.value t) ns) else none
  | _, key :: path, ns =>
    match find? key ns with
    | none => (assignAt name t true path []).map fun sub => set key (.table .pointed sub) ns
    | some (.table .pointed sub) =>
      (assignAt name t true path sub).map fun sub => set key (.table .pointed sub) ns
    | some (.table .passing sub) =>
      (assignAt name t false path sub).map fun sub => set key (.table .passing sub) ns
    | some (.tables earlier last) =>
      (assignAt name t false path last).map fun last => set key (.tables earlier last) ns
    | some (.table .header _) | some (.value _) => none

/-- Adds a value under a key. -/
def assign (key : Key) (t : Tree) (ns : Nodes) : Option Nodes :=
  assignAt key.name t true key.tables ns

end Nodes

mutual

/-- A node as a value. -/
def Node.toTree : Node → Tree
  | .value t => t
  | .table _ ns => .table (treesOf ns)
  | .tables earlier last => .list (tablesOf earlier ++ [.table (treesOf last)])
termination_by structural n => n

/-- The nodes of a table as values. -/
def treesOf : List (Text × Node) → Entries
  | [] => []
  | (key, n) :: rest => (key, n.toTree) :: treesOf rest
termination_by structural ns => ns

/-- Tables of nodes as values. -/
def tablesOf : List (List (Text × Node)) → List Tree
  | [] => []
  | ns :: rest => .table (treesOf ns) :: tablesOf rest
termination_by structural nss => nss

end

/-- A table of nodes as a value. -/
def Nodes.toTree (ns : Nodes) : Tree :=
  .table (treesOf ns)

end AnidbClient.Settings.Toml
