import AnidbClient.Settings.Tree

/-!
# Tables that stand for a value

Within a settings file a table may stand for a single value: the one under a reserved key,
whatever else the table holds.  A second reserved key is refused, for it tells a source of the
value, which no file can name.  Both keys are reserved in every table but that of the whole file.

`resolve?` puts the values in the places of their tables, at every depth.
-/

namespace AnidbClient.Settings.Toml

/-- The key of the value that a table stands for. -/
def valueKey : Text := "___figment_value_value"

/-- The key of the source of that value. -/
def sourceKey : Text := "___figment_value_id"

/-- What a table with these values stands for. -/
def standsFor? (es : Entries) : Option Tree :=
  match find? sourceKey es with
  | some _ => none
  | none => some ((find? valueKey es).getD (.table es))

mutual

/-- The value with every table in it, and itself, replaced by what it stands for. -/
def resolve? : Tree → Option Tree
  | .list items => (resolveItems? items).map .list
  | .table entries => (resolveEntries? entries).bind standsFor?
  | t => some t
termination_by structural t => t

/-- The items of a list, each resolved. -/
def resolveItems? : List Tree → Option (List Tree)
  | [] => some []
  | t :: rest => do return (← resolve? t) :: (← resolveItems? rest)
termination_by structural items => items

/-- The values of a table, each resolved. -/
def resolveEntries? : List (Text × Tree) → Option Entries
  | [] => some []
  | (key, t) :: rest => do return (key, ← resolve? t) :: (← resolveEntries? rest)
termination_by structural entries => entries

end

end AnidbClient.Settings.Toml
