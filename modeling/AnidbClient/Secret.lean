import AnidbClient.Text

/-!
# Secrets

A password is kept apart from plain text, so that showing a value that holds one shows a mask.
`reveal` is the only way to the text itself.
-/

namespace AnidbClient

/-- What stands wherever a secret would be shown. -/
def mask : Text := "***"

/-- A text that is not to be shown. -/
structure Secret where
  reveal : Text
  deriving DecidableEq

namespace Secret

/-- The empty secret. -/
def none : Secret := ⟨[]⟩

/-- No secret is held. -/
def isEmpty (s : Secret) : Bool :=
  s.reveal.isEmpty

/-- How a secret is shown to a user. -/
def shown (_ : Secret) : Text :=
  mask

/-- How a secret is shown to a developer. -/
def inspected (_ : Secret) : Text :=
  "SecureString(" ++ mask ++ [')']

end Secret

end AnidbClient
