import AnidbClient.Time

/-!
# Clocks to sleep by

Whoever lets time pass sleeps by a clock, and a clock need not let it sleep for as long as it
asked to: `Clock.lasts` tells how long a sleep is in truth.  An exact clock keeps every sleep; a
bounded one ends those that are longer than its longest.

The bound is on the length of one sleep, not on the instant at which it ends: sleeps that follow
each other are each bounded anew.  A deadline is no sleep.  It names the instant after which
something is given up, and no clock moves it.
-/

namespace AnidbClient

/-- A clock to sleep by. -/
structure Clock where
  /-- How long a sleep of the given length takes. -/
  lasts : Duration → Duration

namespace Clock

/-- Every sleep takes as long as it was asked to. -/
def exact : Clock := ⟨id⟩

/-- No sleep takes more than the longest one. -/
def bounded (longest : Duration) : Clock := ⟨fun d => min d longest⟩

/-- Thirty years of 365 days. -/
def longestSleep : Duration := .ofSecs (30 * 365 * 86400)

/-- The clock that clients run by: nobody sleeps longer than thirty years. -/
def standard : Clock := bounded longestSleep

@[simp] theorem exact_lasts (d : Duration) : exact.lasts d = d := rfl

theorem bounded_lasts_of_le {d longest : Duration} (h : d ≤ longest) :
    (bounded longest).lasts d = d :=
  Nat.min_eq_left h

end Clock

end AnidbClient
