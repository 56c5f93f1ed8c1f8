import AnidbClient.Settings.Toml.Document
import AnidbClient.Settings.Validity
import AnidbClient.Settings.Variable

/-!
# Loading settings

Settings come in three layers: the defaults, a settings file, and the environment.  Later layers
are laid over earlier ones key by key before any value is typed, so a value of the wrong type does
no harm where a later layer has a better one.

`layered` puts the layers together, `load` also reads and checks the result.
-/

namespace AnidbClient.Settings

/-- The layers laid over each other: defaults, settings file, environment. -/
def layered (file : Option Tree) (env : Environment) : Tree :=
  (Settings.default.toTree.merge (file.getD .empty)).merge env.toTree

/-- The settings that the layers make up. -/
def ofLayers (file : Option Tree) (env : Environment) : Except SettingsError Settings :=
  match ofTree? .ignored (layered file env) with
  | none => .error .unreadable
  | some s => s.check.map fun () => s

/-- The settings of a client, from the text of its settings file, if there is one, and from the
environment. -/
def load (file : Option Text) (env : Environment) : Except SettingsError Settings :=
  match file with
  | none => ofLayers none env
  | some s =>
    match Toml.Document.read? s with
    | none => .error .unreadable
    | some t => ofLayers (some t) env

theorem check_of_ofLayers {file : Option Tree} {env : Environment} {s : Settings}
    (h : ofLayers file env = .ok s) : s.check = .ok () := by
  unfold ofLayers at h
  split at h
  next => cases h
  next s' _ =>
    cases hc : s'.check with
    | error e => simp [hc, Except.map] at h
    | ok u =>
      have hs : s' = s := by simpa [hc, Except.map] using h
      exact hs ▸ hc

end AnidbClient.Settings
