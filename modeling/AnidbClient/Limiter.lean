import AnidbClient.Time

/-!
# The spacing of packets

The server bans a client that sends too fast.  Packets keep a short delay at first and a long one
once the client has been active for a while; a long enough silence starts the count anew.

`Pace` is all that is remembered of the packets so far: when the last one ended and since when
the client has been active.  `Pace.nextTurn` decides how long the next packet has to wait, and
`Pace.currentDelay` tells the delay without deciding anything.
-/

namespace AnidbClient

/-- The delays and the periods that choose between them. -/
structure Limits where
  /-- The delay while the client has not been active for long. -/
  shortDelay : Duration
  /-- The delay after that. -/
  longDelay : Duration
  /-- The activity after which the long delay applies. -/
  shortPeriod : Duration
  /-- The silence after which activity is counted anew. -/
  resetPeriod : Duration
  deriving DecidableEq, Repr

/-- What the server asks of its clients, with some room. -/
def Limits.default : Limits where
  shortDelay := .ofMillis 2500
  longDelay := .ofMillis 4000
  shortPeriod := .ofSecs 3600
  resetPeriod := .ofSecs 1800

/-- What is added to a wait, so that clocks need not agree to the last. -/
def safetyMargin : Duration := .ofMillis 50

/-- What is remembered of the packets so far. -/
structure Pace where
  /-- When the last packet ended. -/
  lastRequest : Option Instant
  /-- When the present activity began. -/
  activeSince : Option Instant
  deriving DecidableEq, Repr

namespace Pace

/-- Nothing was sent yet. -/
def fresh : Pace := ⟨none, none⟩

/-- The time for which the client has been active. -/
def active (p : Pace) (now : Instant) : Duration :=
  p.activeSince.elim 0 (now - ·)

/-- The delay by the present activity; `short` keeps the short one. -/
def tier (l : Limits) (p : Pace) (now : Instant) (short : Bool) : Duration :=
  if !short && l.shortPeriod < p.active now then l.longDelay else l.shortDelay

/-- The silence before `now` was long enough to count activity anew. -/
def isReset (l : Limits) (p : Pace) (now : Instant) : Bool :=
  p.lastRequest.all fun last => l.resetPeriod < now - last

/-- The wait of a packet that comes `elapsed` after the last one and has to keep `delay`; none if
the delay is over. -/
def wait? (delay elapsed : Duration) : Option Duration :=
  if delay < elapsed then none else some (delay - elapsed + safetyMargin)

/-- What is remembered once the next packet has its turn, and the wait it has to keep, if any. -/
def nextTurn (l : Limits) (p : Pace) (now : Instant) (short : Bool) : Pace × Option Duration :=
  let p' := if p.isReset l now then { p with activeSince := some now } else p
  (p', p.lastRequest.bind fun last => wait? (p'.tier l now short) (now - last))

/-- The packet that had its turn ended. -/
def stamp (p : Pace) (now : Instant) : Pace :=
  { p with lastRequest := some now }

/-- The delay that the next packet would be held to. -/
def currentDelay (l : Limits) (p : Pace) (now : Instant) (short : Bool) : Duration :=
  if p.isReset l now then l.shortDelay else p.tier l now short

end Pace

end AnidbClient
