import AnidbClient.Limiter
import AnidbClient.Request
import AnidbClient.Settings.Section

/-!
# Settings

All that a client has to know before it connects, in four sections: the server and the waits
for it, the name under which the client is registered, the account, and the spacing of packets.

`Settings.ofTree?` reads them from a `Tree`, with defaults for what is missing, and
`Settings.toTree` writes them; the password is read but never written.
-/

namespace AnidbClient

namespace Settings

/-- Where the server is, and how long it is waited for. -/
structure Endpoint where
  host : Text
  port : UInt16
  /-- The port of the client; with zero the system picks one. -/
  localPort : UInt16
  requestTimeoutSecs : UInt64
  /-- The silence after which the session counts as lost. -/
  sessionTimeoutSecs : UInt64
  /-- Logins ask for the address that the server sees. -/
  nat : Bool
  deriving DecidableEq, Repr

/-- The name and version under which the client is registered. -/
structure Registration where
  name : Text
  version : UInt32
  deriving DecidableEq, Repr

/-- The account that logs in. -/
structure Account where
  username : Text
  password : Secret
  deriving DecidableEq

/-- The spacing of packets, in the units of the settings. -/
structure Spacing where
  shortDelayMs : UInt64
  longDelayMs : UInt64
  shortPeriodSecs : UInt64
  resetPeriodSecs : UInt64
  deriving DecidableEq, Repr

end Settings

/-- All settings. -/
structure Settings where
  endpoint : Settings.Endpoint
  registration : Settings.Registration
  account : Settings.Account
  spacing : Settings.Spacing
  deriving DecidableEq

namespace Settings

/-! ## Defaults -/

/-- The public server. -/
def Endpoint.default : Endpoint where
  host := Protocol.defaultServer
  port := Protocol.defaultPort
  localPort := 0
  requestTimeoutSecs := 30
  sessionTimeoutSecs := Protocol.sessionTimeoutSecs
  nat := false

/-- A client that gives no name of its own. -/
def Registration.default : Registration where
  name := "anidbudp"
  version := 1

/-- No account. -/
def Account.default : Account where
  username := []
  password := .none

/-- The spacing of `Limits.default`. -/
def Spacing.default : Spacing where
  shortDelayMs := .ofNat Limits.default.shortDelay.millis
  longDelayMs := .ofNat Limits.default.longDelay.millis
  shortPeriodSecs := .ofNat Limits.default.shortPeriod.secs
  resetPeriodSecs := .ofNat Limits.default.resetPeriod.secs

/-- The settings where nothing is set. -/
def default : Settings where
  endpoint := .default
  registration := .default
  account := .default
  spacing := .default

/-! ## Reading -/

/-- The server and the waits for it. -/
def Endpoint.ofTree? (surplus : Surplus) (t : Tree) : Option Endpoint := do
  let s ← Section.ofTree? surplus 6 t
  return {
    host := ← s.get 0 "host" default.host Tree.text?
    port := ← s.get 1 "port" default.port Tree.u16?
    localPort := ← s.get 2 "local_port" default.localPort Tree.u16?
    requestTimeoutSecs :=
      ← s.get 3 "request_timeout_secs" default.requestTimeoutSecs Tree.u64?
    sessionTimeoutSecs :=
      ← s.get 4 "session_timeout_secs" default.sessionTimeoutSecs Tree.u64?
    nat := ← s.get 5 "nat" default.nat Tree.bool? }

/-- The registered name. -/
def Registration.ofTree? (surplus : Surplus) (t : Tree) : Option Registration := do
  let s ← Section.ofTree? surplus 2 t
  return {
    name := ← s.get 0 "name" default.name Tree.text?
    version := ← s.get 1 "version" default.version Tree.u32? }

/-- The account. -/
def Account.ofTree? (surplus : Surplus) (t : Tree) : Option Account := do
  let s ← Section.ofTree? surplus 2 t
  return {
    username := ← s.get 0 "username" default.username Tree.text?
    password := ← s.get 1 "password" default.password fun t => t.text?.map Secret.mk }

/-- The spacing of packets. -/
def Spacing.ofTree? (surplus : Surplus) (t : Tree) : Option Spacing := do
  let s ← Section.ofTree? surplus 4 t
  return {
    shortDelayMs := ← s.get 0 "short_delay_ms" default.shortDelayMs Tree.u64?
    longDelayMs := ← s.get 1 "long_delay_ms" default.longDelayMs Tree.u64?
    shortPeriodSecs := ← s.get 2 "short_period_secs" default.shortPeriodSecs Tree.u64?
    resetPeriodSecs := ← s.get 3 "reset_period_secs" default.resetPeriodSecs Tree.u64? }

/-- All settings; nothing if a value has the wrong type. -/
def ofTree? (surplus : Surplus) (t : Tree) : Option Settings := do
  let s ← Section.ofTree? surplus 4 t
  return {
    endpoint := ← s.get 0 "network" .default (Endpoint.ofTree? surplus)
    registration := ← s.get 1 "client" .default (Registration.ofTree? surplus)
    account := ← s.get 2 "credentials" .default (Account.ofTree? surplus)
    spacing := ← s.get 3 "rate_limit" .default (Spacing.ofTree? surplus) }

/-! ## Writing -/

/-- The server and the waits for it, under their keys. -/
def Endpoint.toTree (e : Endpoint) : Tree :=
  .table [
    ("host", .text e.host),
    ("port", .ofNat e.port.toNat),
    ("local_port", .ofNat e.localPort.toNat),
    ("request_timeout_secs", .ofNat e.requestTimeoutSecs.toNat),
    ("session_timeout_secs", .ofNat e.sessionTimeoutSecs.toNat),
    ("nat", .bool e.nat)]

/-- The registered name, under its keys. -/
def Registration.toTree (r : Registration) : Tree :=
  .table [("name", .text r.name), ("version", .ofNat r.version.toNat)]

/-- The account, without the password. -/
def Account.toTree (a : Account) : Tree :=
  .table [("username", .text a.username)]

/-- The spacing of packets, under its keys. -/
def Spacing.toTree (s : Spacing) : Tree :=
  .table [
    ("short_delay_ms", .ofNat s.shortDelayMs.toNat),
    ("long_delay_ms", .ofNat s.longDelayMs.toNat),
    ("short_period_secs", .ofNat s.shortPeriodSecs.toNat),
    ("reset_period_secs", .ofNat s.resetPeriodSecs.toNat)]

/-- All settings but the password. -/
def toTree (s : Settings) : Tree :=
  .table [
    ("network", s.endpoint.toTree),
    ("client", s.registration.toTree),
    ("credentials", s.account.toTree),
    ("rate_limit", s.spacing.toTree)]

/-! ## What follows from the settings -/

/-- The spacing, as the limiter takes it. -/
def Spacing.limits (s : Spacing) : Limits where
  shortDelay := .ofMillis s.shortDelayMs.toNat
  longDelay := .ofMillis s.longDelayMs.toNat
  shortPeriod := .ofSecs s.shortPeriodSecs.toNat
  resetPeriod := .ofSecs s.resetPeriodSecs.toNat

/-- How long a reply is waited for. -/
def Endpoint.requestTimeout (e : Endpoint) : Duration :=
  .ofSecs e.requestTimeoutSecs.toNat

/-- After how long a silence the session counts as lost. -/
def Endpoint.sessionTimeout (e : Endpoint) : Duration :=
  .ofSecs e.sessionTimeoutSecs.toNat

/-- The login of the account. -/
def authRequest (s : Settings) : AuthRequest where
  user := s.account.username
  pass := s.account.password
  client := s.registration.name
  clientVersion := s.registration.version
  nat := s.endpoint.nat
  mtu := none

end Settings

end AnidbClient
