import AnidbClient.Settings
import AnidbClient.Settings.Error
import AnidbClient.Text.Blank

/-!
# Settings that keep the protocol

Well-typed settings can still be such that the server would ban the client, or that nothing could
work.  The rules are tried in a fixed order, and the first one that does not hold is told.

`check_eq_ok_iff` says that settings pass exactly if all rules hold of them.
-/

namespace AnidbClient.Settings

/-- A rule that settings have to keep. -/
structure Rule where
  /-- The field that is to blame where the rule does not hold. -/
  field : Text
  /-- What the field would have to be. -/
  demand : Text
  holds : Settings → Bool

/-- The rules, in the order in which they are tried. -/
def rules : List Rule := [
  { field := "rate_limit.short_delay_ms"
    demand := "must be at least " ++ Text.digits Protocol.shortDelayFloor.toNat
    holds := fun s => Protocol.shortDelayFloor ≤ s.spacing.shortDelayMs },
  { field := "rate_limit.long_delay_ms"
    demand := "must not be below short_delay_ms"
    holds := fun s => s.spacing.shortDelayMs ≤ s.spacing.longDelayMs },
  { field := "network.port"
    demand := "must not be 0"
    holds := fun s => s.endpoint.port ≠ 0 },
  { field := "network.request_timeout_secs"
    demand := "must not be 0"
    holds := fun s => s.endpoint.requestTimeoutSecs ≠ 0 },
  { field := "client.name"
    demand := "must not be empty"
    holds := fun s => Text.trim s.registration.name ≠ [] }]

/-- Whether the settings keep all rules, or else the first one that they break. -/
def check (s : Settings) : Except SettingsError Unit :=
  match rules.find? fun rule => !rule.holds s with
  | none => .ok ()
  | some rule => .error (.refused rule.field rule.demand)

/-- The settings keep all rules. -/
def IsValid (s : Settings) : Prop :=
  ∀ rule ∈ rules, rule.holds s = true

instance (s : Settings) : Decidable s.IsValid :=
  inferInstanceAs (Decidable (∀ rule ∈ rules, rule.holds s = true))

theorem check_eq_ok_iff {s : Settings} : s.check = .ok () ↔ s.IsValid := by
  unfold check IsValid
  split
  next h => simpa using h
  next rule h =>
    have hmem := List.mem_of_find?_eq_some h
    have hfail : rule.holds s = false := by simpa using List.find?_some h
    simp only [reduceCtorEq, false_iff]
    intro hall
    simp [hall rule hmem] at hfail

end AnidbClient.Settings
