import AnidbClient.Text

/-!
# Refused settings

Settings are refused either because they cannot be read as settings at all, or because a value
breaks a rule of the protocol.
-/

namespace AnidbClient

/-- Why settings were refused. -/
inductive SettingsError where
  /-- A layer is not well formed, or a value has the wrong type. -/
  | unreadable
  /-- The value of a field breaks a rule. -/
  | refused (field reason : Text)
  deriving DecidableEq, Repr

/-- The wording of a refusal. -/
def SettingsError.message : SettingsError → Text
  | .unreadable => "Failed to load configuration"
  | .refused field reason =>
    "Invalid configuration value for " ++ field ++ ": " ++ reason

end AnidbClient
