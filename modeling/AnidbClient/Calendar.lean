import AnidbClient.Text.Numeral
import AnidbClient.Time.Date

/-!
# The calendar of releases

The server lists anime that have started lately or will start soon, one on each line:

    anime-id "|" start "|" flags

The start is in seconds since 1970, with zero for none, and the flags say how exact it is.
`Calendar.read` keeps the lines of this form and puts each entry on one of two sides: it has
started if its start is exact to the day and lies on a day before today.
-/

namespace AnidbClient

/-! ## Flags -/

/-- What is known about the dates of an entry. -/
structure DateFlags where
  bits : UInt8
  deriving DecidableEq, Repr

namespace DateFlags

/-- The day of the start is not known. -/
def startDayUnknown : DateFlags := ⟨1⟩

/-- Month and day of the start are not known. -/
def startMonthDayUnknown : DateFlags := ⟨2⟩

/-- The start is not known. -/
def startUnknown : DateFlags := ⟨32⟩

/-- The flags of either. -/
def union (f g : DateFlags) : DateFlags := ⟨f.bits ||| g.bits⟩

/-- All flags of `g` are among those of `f`. -/
def contains (f g : DateFlags) : Bool := f.bits &&& g.bits == g.bits

/-- The two have a flag in common. -/
def intersects (f g : DateFlags) : Bool := f.bits &&& g.bits != 0

/-- The flags of a start that is not exact to the day. -/
def startImprecise : DateFlags :=
  (startUnknown.union startDayUnknown).union startMonthDayUnknown

/-- The start is exact to the day. -/
def startKnown (f : DateFlags) : Bool := !f.intersects startImprecise

/-- The lowest `width` binary digits of a number. -/
def binaryDigits : Nat → Nat → Text
  | 0, _ => []
  | width + 1, n => binaryDigits width (n / 2) ++ [Text.digitChar (n % 2)]

/-- How flags are shown to a developer: in binary, with seven digits or as many as it takes. -/
def inspected (f : DateFlags) : Text :=
  let n := f.bits.toNat
  "CalendarFlags(0b" ++ binaryDigits (if n < 128 then 7 else 8) n ++ [')']

end DateFlags

/-! ## Entries -/

/-- One anime of the calendar. -/
structure CalendarEntry where
  anime : UInt32
  /-- The start, if the server gave one that the calendar covers. -/
  start : Option Moment
  flags : DateFlags
  deriving DecidableEq, Repr

namespace CalendarEntry

/-- The start that a number of seconds stands for; zero stands for none. -/
def startOf (seconds : Int) : Option Moment :=
  if seconds = 0 then none else Moment.ofSeconds? seconds

/-- The entry of a line, if it has exactly three fields and each is a number of its range. -/
def ofLine? (line : Text) : Option CalendarEntry :=
  match Text.split '|' line with
  | [anime, start, flags] => do
    let anime ← Text.u32? anime
    let seconds ← Text.i64? start
    let flags ← Text.u8? flags
    return ⟨anime, startOf seconds, ⟨flags⟩⟩
  | _ => none

/-- The anime started on a day before today, and the start is exact to the day. -/
def hasAired (today : Date) (e : CalendarEntry) : Bool :=
  e.flags.startKnown && e.start.any (·.isBefore today)

end CalendarEntry

/-! ## The calendar -/

/-- The calendar as seen on one day. -/
structure Calendar where
  /-- What has started for certain. -/
  previous : List CalendarEntry
  /-- Everything else. -/
  upcoming : List CalendarEntry
  deriving DecidableEq, Repr

namespace Calendar

/-- The entries of a reply, in its order.  Lines of another form, such as that of the status
message, are passed over. -/
def entries (body : Text) : List CalendarEntry :=
  (Text.lines body).filterMap CalendarEntry.ofLine?

/-- The entries of a reply, split as of today. -/
def read (today : Date) (body : Text) : Calendar :=
  ⟨(entries body).filter (·.hasAired today), (entries body).filter (!·.hasAired today)⟩

end Calendar

end AnidbClient
