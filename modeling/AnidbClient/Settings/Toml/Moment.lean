import AnidbClient.Settings.Tree
import AnidbClient.Text.Numeral
import AnidbClient.Text.Reader

/-!
# Dates and times of a settings file

A date, a time of day, or both; with both there may be an offset from universal time.  No setting
takes one, so only the form counts and the value is kept as it was written.
-/

namespace AnidbClient.Settings.Toml

open Text Text.Reader

/-- A number of exactly `width` decimal digits. -/
def fixedNumber (acc : Nat) : Nat → Reader Nat
  | 0 => pure acc
  | width + 1 => fun
    | [] => none
    | c :: rest => (digit? c).bind fun d => fixedNumber (10 * acc + d) width rest

/-- A number of two digits in a range. -/
def pair (least most : Nat) : Reader Unit := do
  let n ← fixedNumber 0 2
  guard (least ≤ n ∧ n ≤ most)

/-- The days of a month. -/
def daysIn (year month : Nat) : Nat :=
  if month = 2 then if year % 4 = 0 ∧ (year % 100 ≠ 0 ∨ year % 400 = 0) then 29 else 28
  else if month ∈ [4, 6, 9, 11] then 30
  else 31

/-- A day of the calendar. -/
def day : Reader Unit := do
  let year ← fixedNumber 0 4
  char '-'
  let month ← fixedNumber 0 2
  guard (1 ≤ month ∧ month ≤ 12)
  char '-'
  pair 1 (daysIn year month)

/-- A fraction of a second. -/
def secondFraction : Reader Unit := do
  char '.'
  discard (run fun c => (digit? c).isSome)

/-- A time of day. -/
def timeOfDay : Reader Unit := do
  pair 0 23
  char ':'
  pair 0 59
  char ':'
  pair 0 60
  discard (optional secondFraction)

/-- The offset from universal time. -/
def offset : Reader Unit :=
  discard (charWhere fun c => c == 'Z' || c == 'z') <|> do
    discard (charWhere fun c => c == '+' || c == '-')
    pair 0 23
    char ':'
    pair 0 59

/-- What may follow a day. -/
def timeAfterDay : Reader Unit := do
  discard (charWhere fun c => c == 'T' || c == 't' || c == ' ')
  timeOfDay
  discard (optional offset)

/-- A day, a time of day, or both, as a table that holds the text under a key of no setting. -/
def moment : Reader Tree := do
  let s ← taken ((do day; discard (optional timeAfterDay)) <|> timeOfDay)
  return .table [("date-time", .text s)]

end AnidbClient.Settings.Toml
