import AnidbClient.Turnstile

/-!
# Chores

Work behind the turnstile that does nothing but take time, and then succeeds or fails.  It shares
nothing, so all that can be seen of it is when it was let in.
-/

namespace AnidbClient

/-- Work that takes some time. -/
structure Chore where
  /-- It keeps the short delay. -/
  short : Bool
  takes : Duration
  fails : Bool
  deriving DecidableEq, Repr

namespace Chore

/-- A chore that has begun. -/
structure Begun where
  started : Instant
  done : Instant
  fails : Bool
  deriving DecidableEq, Repr

/-- What a chore brings: when it was let in, and whether it failed. -/
structure Result where
  started : Instant
  failed : Bool
  deriving DecidableEq, Repr

/-- Goes on with a chore, or ends it when its time is over. -/
def resume (now : Instant) (b : Begun) (s : Unit) : Unit × Turn Begun Result :=
  (s, if b.done ≤ now then .leaving ⟨b.started, b.fails⟩ else .staying b)

/-- Chores as a service, by a clock. -/
def service (clock : Clock) : Service Unit Chore Begun Result where
  clock := clock
  keepsShort := Chore.short
  arrive _ _ s := (s, none)
  enter now c s := resume now ⟨now, now + clock.lasts c.takes, c.fails⟩ s
  resume := resume
  abandon _ _ s := s
  due b _ := b.done
  stock _ := 0

end Chore

end AnidbClient
