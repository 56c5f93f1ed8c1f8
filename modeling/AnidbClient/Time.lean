import AnidbClient.Text.Numeral

/-!
# Spans and points of time

Spans of time and points on a running clock are counted in whole nanoseconds.  `Duration.text`
writes a span in the largest unit that fits, with as many decimals as it needs.
-/

namespace AnidbClient

/-- A span of time in nanoseconds. -/
abbrev Duration := Nat

/-- A point on a running clock: the nanoseconds since the clock was started. -/
abbrev Instant := Nat

namespace Duration

/-- A number of whole milliseconds. -/
def ofMillis (n : Nat) : Duration := n * 1000000

/-- A number of whole seconds. -/
def ofSecs (n : Nat) : Duration := n * 1000000000

/-- Whole seconds and the nanoseconds beyond them. -/
def ofParts (secs nanos : Nat) : Duration := ofSecs secs + nanos

/-- The whole seconds in a span. -/
def secs (d : Duration) : Nat := d / 1000000000

/-- The nanoseconds of a span beyond its whole seconds. -/
def nanos (d : Duration) : Nat := d % 1000000000

/-- The whole milliseconds in a span. -/
def millis (d : Duration) : Nat := d / 1000000

/-- The decimals of `part` hundredths, thousandths and so on: `width` digits, less the zeros at
their end. -/
def decimals (part width : Nat) : Text :=
  let shown := Text.digits part
  let padded := List.replicate (width - shown.length) '0' ++ shown
  (padded.reverse.dropWhile (· == '0')).reverse

/-- A span in a unit of as many nanoseconds as a one with `width` zeros. -/
def inUnit (d : Duration) (width : Nat) (name : Text) : Text :=
  let unit := Nat.pow 10 width
  let part := d % unit
  Text.digits (d / unit) ++ (if part = 0 then [] else '.' :: decimals part width) ++ name

/-- A span in the largest unit of `s`, `ms`, `µs` and `ns` of which it holds at least one. -/
def text (d : Duration) : Text :=
  if 1000000000 ≤ d then inUnit d 9 "s"
  else if 1000000 ≤ d then inUnit d 6 "ms"
  else if 1000 ≤ d then inUnit d 3 "µs"
  else inUnit d 0 "ns"

end Duration

end AnidbClient
