import AnidbClient.Session.Handler
import AnidbClient.Settings.Validity

/-!
# Connecting

A client is made of checked settings only: what would break the protocol is refused before a
socket is opened.  Opening one needs a host that has a route to the server.
-/

namespace AnidbClient

/-- The machine that a client runs on. -/
inductive Host where
  /-- Nothing can be reached, not even the machine itself. -/
  | isolated
  /-- Servers on the machine itself can be reached. -/
  | connected
  deriving DecidableEq, Repr

/-- Why an isolated host reaches nothing. -/
def Host.unreachable : Text := "Network is unreachable (os error 101)"

/-- A client that is ready to log in. -/
structure Link where
  client : Client
  limits : Limits
  handler : Handler

namespace Settings

/-- What does not change while a client runs, by these settings. -/
def client (s : Settings) (clock : Clock) (today : Date) : Client where
  auth := s.authRequest
  clock := clock
  requestTimeout := s.endpoint.requestTimeout
  sessionTimeout := s.endpoint.sessionTimeout
  today := today

/-- Checks the settings and opens the way to a server. -/
def connect (s : Settings) (host : Host) (server : Server) (clock : Clock) (today : Date) :
    Except Error Link :=
  match s.check with
  | .error cause => .error (.invalidConfig cause)
  | .ok () =>
    match host with
    | .isolated => .error (.transport Host.unreachable)
    | .connected => .ok ⟨s.client clock today, s.spacing.limits, .opened server⟩

theorem connect_eq_ok_iff {s : Settings} {host : Host} {server : Server} {clock : Clock}
    {today : Date} {link : Link} :
    s.connect host server clock today = .ok link ↔
      s.IsValid ∧ host = .connected ∧
        ⟨s.client clock today, s.spacing.limits, .opened server⟩ = link := by
  rw [← check_eq_ok_iff]
  unfold connect
  cases s.check with
  | error cause => simp
  | ok u => cases host <;> simp

end Settings

end AnidbClient
