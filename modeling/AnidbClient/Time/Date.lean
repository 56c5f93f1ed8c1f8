/-!
# Calendar dates and moments

A `Date` is a day of the Gregorian calendar, a `Moment` an instant of Universal Time, to the
nanosecond, within the range the calendar covers.  Days are ordered by year, month and day, and
numbered from the first of January 1970 (`dayNumber`).  A moment falls on the day with the number
of its whole days (`ofDayNumber`), and it is before a day if the day on which it falls is.
-/

namespace AnidbClient

/-! ## Dates -/

/-- A year that has a twenty-ninth of February. -/
def isLeapYear (year : Int) : Bool :=
  year % 4 = 0 && (year % 100 ≠ 0 || year % 400 = 0)

/-- The days of the months of a year. -/
def monthLengths (leap : Bool) : List Nat :=
  [31, if leap then 29 else 28, 31, 30, 31, 30, 31, 31, 30, 31, 30, 31]

/-- A day of the calendar.  Month and day count from one. -/
structure Date where
  year : Int
  month : Nat
  day : Nat
  deriving DecidableEq, Repr

namespace Date

/-- The day is in the calendar. -/
def Valid (d : Date) : Prop :=
  1 ≤ d.month ∧ d.month ≤ 12 ∧ 1 ≤ d.day ∧
    d.day ≤ (monthLengths (isLeapYear d.year)).getD (d.month - 1) 0

instance (d : Date) : Decidable d.Valid := by
  unfold Valid; infer_instance

/-- The earlier day has the smaller year, or the smaller month in the same year, or the smaller
number in the same month. -/
instance : LT Date :=
  ⟨fun d e => d.year < e.year ∨ d.year = e.year ∧
    (d.month < e.month ∨ d.month = e.month ∧ d.day < e.day)⟩

instance (d e : Date) : Decidable (d < e) :=
  inferInstanceAs (Decidable (d.year < e.year ∨ d.year = e.year ∧
    (d.month < e.month ∨ d.month = e.month ∧ d.day < e.day)))

instance : LE Date :=
  ⟨fun d e => d < e ∨ d = e⟩

/-- The days from the first of January of the year one to that of the given year. -/
def daysBeforeYear (year : Int) : Int :=
  365 * (year - 1) + (year - 1) / 4 - (year - 1) / 100 + (year - 1) / 400

/-- The days of a year before a month of it. -/
def daysBeforeMonth (leap : Bool) (month : Nat) : Nat :=
  ((monthLengths leap).take (month - 1)).foldl (· + ·) 0

/-- The number of the day, zero for the first of January 1970. -/
def dayNumber (d : Date) : Int :=
  daysBeforeYear d.year + daysBeforeMonth (isLeapYear d.year) d.month + (d.day - 1 : Nat) - 719162

/-- The year, among those from one to four hundred, in which a day of them lies.  Counting 365 days
for each year is at most one year too far. -/
def yearOfCycle (days : Int) : Int :=
  let year := days / 365 + 1
  if daysBeforeYear year ≤ days then year else year - 1

/-- The year of a day, by the days since the first of January of the year one.  After four hundred
years, which are 146097 days, the calendar repeats itself. -/
def yearOf (days : Int) : Int :=
  400 * (days / 146097) + yearOfCycle (days % 146097)

/-- The month of a day and the number of the day in it, by the days since the first day of the first
month.  The months are given by their lengths and counted from `month`. -/
def monthAndDay : List Nat → Nat → Nat → Nat × Nat
  | [], month, days => (month, days + 1)
  | length :: lengths, month, days =>
    if days < length then (month, days + 1)
    else monthAndDay lengths (month + 1) (days - length)

/-- The day with a number, zero for the first of January 1970. -/
def ofDayNumber (n : Int) : Date :=
  let days := n + 719162
  let year := yearOf days
  let (month, day) :=
    monthAndDay (monthLengths (isLeapYear year)) 1 (days - daysBeforeYear year).toNat
  ⟨year, month, day⟩

end Date

/-! ## Moments -/

/-- The first second that the calendar covers, in seconds since 1970. -/
def earliestMoment : Int := -8334601228800

/-- The last second that the calendar covers, in seconds since 1970. -/
def latestMoment : Int := 8210266876799

/-- A moment of Universal Time, counted from the start of 1970, within the calendar. -/
structure Moment where
  /-- The whole seconds. -/
  seconds : Int
  /-- The nanoseconds beyond them, which are more than those of a second in a leap second. -/
  nanos : Nat
  earliest_le : earliestMoment ≤ seconds := by decide
  le_latest : seconds ≤ latestMoment := by decide
  nanos_lt : nanos < 2000000000 := by decide
  deriving DecidableEq, Repr

namespace Moment

/-- Seconds and nanoseconds. -/
def parts (m : Moment) : Int × Nat :=
  (m.seconds, m.nanos)

theorem parts_injective : Function.Injective parts := by
  rintro ⟨seconds, nanos, _, _, _⟩ ⟨_, _, _, _, _⟩ ⟨⟩
  rfl

/-- The second in which the moment lies, from its start. -/
def whole (m : Moment) : Moment :=
  { m with nanos := 0, nanos_lt := by decide }

theorem eq_whole_iff {m : Moment} : m = m.whole ↔ m.nanos = 0 := by
  rw [← parts_injective.eq_iff]
  simp [whole, parts]

/-- The moment so many seconds after the start of 1970, if the calendar covers it. -/
def ofSeconds? (seconds : Int) : Option Moment :=
  if h : earliestMoment ≤ seconds ∧ seconds ≤ latestMoment then
    some { seconds, nanos := 0, earliest_le := h.1, le_latest := h.2 }
  else none

/-- The number of the day on which the moment falls. -/
def dayNumber (m : Moment) : Int :=
  m.seconds / 86400

/-- The day on which the moment falls. -/
def date (m : Moment) : Date :=
  .ofDayNumber m.dayNumber

/-- The moment falls on a day before the given one. -/
def isBefore (m : Moment) (d : Date) : Bool :=
  m.date < d

theorem ofSeconds?_eq_some_iff {seconds : Int} {m : Moment} :
    ofSeconds? seconds = some m ↔ m.parts = (seconds, 0) := by
  unfold ofSeconds?
  split
  next h =>
    rw [Option.some_inj, ← parts_injective.eq_iff, eq_comm]
    rfl
  next h =>
    simp only [reduceCtorEq, false_iff]
    intro hparts
    obtain ⟨rfl, -⟩ := Prod.mk.inj hparts
    exact h ⟨m.earliest_le, m.le_latest⟩

end Moment

end AnidbClient
