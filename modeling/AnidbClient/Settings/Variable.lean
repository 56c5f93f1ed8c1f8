import AnidbClient.Settings.Variable.Value

/-!
# Settings in the environment

An environment variable whose name begins with `ANIDB_`, in any case, sets what the rest of its
name addresses: two underscores stand between the keys, and keys are in lower case.
-/

namespace AnidbClient.Settings

/-- A variable of the environment. -/
structure Variable where
  name : Text
  content : Text
  deriving DecidableEq, Repr

namespace Variable

/-- What the names of our variables begin with. -/
def mark : Text := "ANIDB_"

/-- An ASCII letter in lower case; any other character unchanged. -/
def lower (c : Char) : Char :=
  if 'A' ≤ c ∧ c ≤ 'Z' then Char.ofNat (c.toNat + 32) else c

/-- What follows the mark at the start of a name, whatever the case of the mark. -/
def dropMark? (name : Text) : Option Text :=
  if mark.map lower = (name.take mark.length).map lower then some (name.drop mark.length)
  else none

/-- The keys that the rest of a name gives.  A point stands between keys as well, and a name in
which a key is empty addresses nothing. -/
def pathOf? (rest : Text) : Option (List Text) :=
  let keys := Text.split '.' (Text.trim (Text.replaceAll "__" "." rest))
  if keys.any (·.isEmpty) then none else some (keys.map (·.map lower))

/-- The path of keys that the variable sets, if it is one of ours. -/
def path? (v : Variable) : Option (List Text) :=
  (dropMark? (Text.trim v.name)).bind pathOf?

/-- What the variable sets, as a table. -/
def tree? (v : Variable) : Option Tree :=
  v.path?.map fun path => .nest path (read v.content)

end Variable

/-- The variables that are set, in the order in which they were set first. -/
abbrev Environment := List Variable

namespace Environment

/-- Sets a variable, in its place if it was set before. -/
def assign (v : Variable) : Environment → Environment
  | [] => [v]
  | w :: rest => if w.name = v.name then v :: rest else w :: assign v rest

/-- The environment after some assignments. -/
def ofAssignments (vs : List Variable) : Environment :=
  vs.foldl (fun env v => assign v env) []

/-- What all variables set together; of two that set one key the later counts. -/
def toTree (env : Environment) : Tree :=
  (env.filterMap Variable.tree?).foldl Tree.merge .empty

end Environment

end AnidbClient.Settings
