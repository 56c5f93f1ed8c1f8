import AnidbClient.Time.Date
import Mathlib.Algebra.GroupWithZero.Nat
import Mathlib.Data.List.TakeDrop

/-!
# The numbers of days

Days are compared by year, month and day, moments by their seconds.  The two agree, because the
days of the calendar are numbered in their order and without gaps:

* an earlier day has the smaller number (`dayNumber_lt_dayNumber_iff`);
* every number is that of a day (`valid_ofDayNumber`, `dayNumber_ofDayNumber`).

So the moments before a day are those before its `midnight` (`isBefore_iff`), in every year of the
calendar, also in those before the year one.
-/

namespace AnidbClient

namespace Date

/-! ## The order of days -/

theorem lt_iff {d e : Date} : d < e ↔ d.year < e.year ∨ d.year = e.year ∧
    (d.month < e.month ∨ d.month = e.month ∧ d.day < e.day) :=
  Iff.rfl

theorem lt_trans {d e f : Date} (hde : d < e) (hef : e < f) : d < f := by
  rw [lt_iff] at *
  omega

theorem lt_of_lt_of_le {d e f : Date} (hde : d < e) (hef : e ≤ f) : d < f := by
  rcases hef with hlt | rfl
  · exact lt_trans hde hlt
  · exact hde

theorem lt_or_eq_or_gt (d e : Date) : d < e ∨ d = e ∨ e < d := by
  obtain ⟨year, month, day⟩ := d
  obtain ⟨year', month', day'⟩ := e
  simp only [lt_iff, Date.mk.injEq]
  omega

/-! ## Years -/

/-- The days of a year. -/
def yearLength (leap : Bool) : Nat :=
  if leap then 366 else 365

theorem daysBeforeYear_add_one (year : Int) :
    daysBeforeYear (year + 1) = daysBeforeYear year + yearLength (isLeapYear year) := by
  have hleap : isLeapYear year = decide (year % 4 = 0 ∧ (year % 100 ≠ 0 ∨ year % 400 = 0)) := by
    simp [isLeapYear]
  unfold daysBeforeYear yearLength
  rw [hleap]
  simp only [decide_eq_true_eq]
  split <;> omega

theorem daysBeforeYear_mono {year later : Int} (h : year ≤ later) :
    daysBeforeYear year ≤ daysBeforeYear later := by
  unfold daysBeforeYear
  omega

/-- Four hundred years have 146097 days. -/
theorem daysBeforeYear_add_cycles (cycles year : Int) :
    daysBeforeYear (400 * cycles + year) = 146097 * cycles + daysBeforeYear year := by
  unfold daysBeforeYear
  omega

theorem yearOfCycle_bounds {days : Int} (hfirst : 0 ≤ days) (hlast : days < 146097) :
    daysBeforeYear (yearOfCycle days) ≤ days ∧ days < daysBeforeYear (yearOfCycle days + 1) := by
  unfold yearOfCycle
  dsimp only
  split
  · refine ⟨by assumption, ?_⟩
    unfold daysBeforeYear
    omega
  · rw [Int.sub_add_cancel]
    refine ⟨?_, by omega⟩
    unfold daysBeforeYear
    omega

/-- A day lies in its year. -/
theorem yearOf_bounds (days : Int) :
    daysBeforeYear (yearOf days) ≤ days ∧ days < daysBeforeYear (yearOf days + 1) := by
  have hcycle := Int.mul_ediv_add_emod days 146097
  have hfirst : 0 ≤ days % 146097 := by omega
  have hlast : days % 146097 < 146097 := by omega
  have hrest := yearOfCycle_bounds hfirst hlast
  unfold yearOf
  rw [Int.add_assoc, daysBeforeYear_add_cycles, daysBeforeYear_add_cycles]
  omega

/-! ## Months -/

theorem daysBeforeMonth_eq_sum (leap : Bool) (month : Nat) :
    daysBeforeMonth leap month = ((monthLengths leap).take (month - 1)).sum :=
  List.sum_eq_foldl.symm

theorem sum_monthLengths (leap : Bool) : (monthLengths leap).sum = yearLength leap := by
  cases leap <;> rfl

theorem daysBeforeMonth_add_one (leap : Bool) {month : Nat} (hmonth : 1 ≤ month) :
    daysBeforeMonth leap (month + 1) =
      daysBeforeMonth leap month + (monthLengths leap).getD (month - 1) 0 := by
  obtain ⟨k, rfl⟩ := Nat.exists_eq_add_of_le' hmonth
  simp only [daysBeforeMonth_eq_sum, Nat.add_sub_cancel]
  rw [List.take_add_one, List.sum_append]
  cases h : (monthLengths leap)[k]? <;> simp [h]

theorem daysBeforeMonth_mono (leap : Bool) {month later : Nat} (hmonth : 1 ≤ month)
    (h : month ≤ later) : daysBeforeMonth leap month ≤ daysBeforeMonth leap later := by
  induction h with
  | refl => exact Nat.le_refl _
  | step h ih =>
    rw [daysBeforeMonth_add_one leap (Nat.le_trans hmonth h)]
    omega

theorem daysBeforeMonth_thirteen (leap : Bool) : daysBeforeMonth leap 13 = yearLength leap :=
  (daysBeforeMonth_eq_sum leap 13).trans (sum_monthLengths leap)

/-- The days of the year before a day. -/
def dayOfYear (d : Date) : Nat :=
  daysBeforeMonth (isLeapYear d.year) d.month + (d.day - 1)

theorem dayNumber_eq (d : Date) :
    d.dayNumber = daysBeforeYear d.year + d.dayOfYear - 719162 := by
  unfold dayNumber dayOfYear
  omega

variable {d e : Date}

theorem Valid.dayOfYear_lt_month (hd : d.Valid) :
    d.dayOfYear < daysBeforeMonth (isLeapYear d.year) (d.month + 1) := by
  obtain ⟨hmonth, -, hday, hlast⟩ := hd
  rw [daysBeforeMonth_add_one _ hmonth]
  unfold dayOfYear
  omega

theorem Valid.dayOfYear_lt_year (hd : d.Valid) :
    d.dayOfYear < yearLength (isLeapYear d.year) := by
  have hmonth := daysBeforeMonth_mono (isLeapYear d.year) (Nat.le_add_left 1 d.month)
    (show d.month + 1 ≤ 13 from Nat.succ_le_succ hd.2.1)
  rw [daysBeforeMonth_thirteen] at hmonth
  exact Nat.lt_of_lt_of_le hd.dayOfYear_lt_month hmonth

/-! ## The order of the numbers -/

theorem Valid.dayNumber_lt (hd : d.Valid) (h : d < e) : d.dayNumber < e.dayNumber := by
  rw [dayNumber_eq, dayNumber_eq]
  rcases h with hyear | ⟨hyear, hmonth | ⟨hmonth, hday⟩⟩
  · have hnext := daysBeforeYear_mono (Int.add_one_le_of_lt hyear)
    rw [daysBeforeYear_add_one] at hnext
    have hinside := hd.dayOfYear_lt_year
    omega
  · have hnext := daysBeforeMonth_mono (isLeapYear d.year) (Nat.le_add_left 1 d.month) hmonth
    have hinside := hd.dayOfYear_lt_month
    have hstart : daysBeforeMonth (isLeapYear d.year) e.month ≤ e.dayOfYear := by
      rw [hyear]
      exact Nat.le_add_right _ _
    rw [hyear]
    omega
  · have hfirst := hd.2.2.1
    unfold dayOfYear
    rw [hyear, hmonth]
    omega

/-- Days are numbered in their order. -/
theorem dayNumber_lt_dayNumber_iff (hd : d.Valid) (he : e.Valid) :
    d.dayNumber < e.dayNumber ↔ d < e := by
  constructor
  · intro h
    rcases lt_or_eq_or_gt d e with hlt | rfl | hgt
    · exact hlt
    · omega
    · have := he.dayNumber_lt hgt
      omega
  · exact hd.dayNumber_lt

/-! ## The day of a number -/

/-- The months that are passed, and the day in the one that is reached. -/
theorem monthAndDay_eq (lengths : List Nat) (month : Nat) {days : Nat} (h : days < lengths.sum) :
    ∃ passed day, monthAndDay lengths month days = (month + passed, day + 1) ∧
      passed < lengths.length ∧ day < lengths.getD passed 0 ∧
        days = (lengths.take passed).sum + day := by
  induction lengths generalizing month days with
  | nil => simp at h
  | cons length lengths ih =>
    rw [monthAndDay]
    split
    · exact ⟨0, days, by simp, by simp, by simpa, by simp⟩
    · rw [List.sum_cons] at h
      have hrest : days - length < lengths.sum := by omega
      obtain ⟨passed, day, heq, hpassed, hday, hdays⟩ := ih (month + 1) hrest
      refine ⟨passed + 1, day, ?_, by simpa using hpassed, by simpa using hday, ?_⟩
      · rw [heq]
        simp only [Prod.mk.injEq, and_true]
        omega
      · rw [List.take_succ_cons, List.sum_cons]
        omega

/-- A number gives a day of the calendar, and that day has the number. -/
theorem ofDayNumber_spec (n : Int) : (ofDayNumber n).Valid ∧ (ofDayNumber n).dayNumber = n := by
  obtain ⟨hfirst, hlast⟩ := yearOf_bounds (n + 719162)
  rw [daysBeforeYear_add_one] at hlast
  have hday : (n + 719162 - daysBeforeYear (yearOf (n + 719162))).toNat <
      (monthLengths (isLeapYear (yearOf (n + 719162)))).sum := by
    rw [sum_monthLengths]
    omega
  obtain ⟨passed, day, heq, hpassed, hday, hdays⟩ := monthAndDay_eq _ 1 hday
  have hdate : ofDayNumber n = ⟨yearOf (n + 719162), 1 + passed, day + 1⟩ := by
    unfold ofDayNumber
    simp only [heq]
  have hmonths : (monthLengths (isLeapYear (yearOf (n + 719162)))).length = 12 := rfl
  rw [hdate]
  constructor
  · unfold Valid
    dsimp only
    rw [Nat.add_sub_cancel_left]
    omega
  · simp only [dayNumber, daysBeforeMonth_eq_sum, Nat.add_sub_cancel_left, Nat.add_sub_cancel]
    omega

theorem valid_ofDayNumber (n : Int) : (ofDayNumber n).Valid :=
  (ofDayNumber_spec n).1

theorem dayNumber_ofDayNumber (n : Int) : (ofDayNumber n).dayNumber = n :=
  (ofDayNumber_spec n).2

-- The last day of February is the twenty-ninth in every fourth century and before the year one.
example : ofDayNumber 11016 = ⟨2000, 2, 29⟩ ∧ ofDayNumber 11017 = ⟨2000, 3, 1⟩ ∧
    ofDayNumber (-719469) = ⟨0, 2, 29⟩ := by
  decide

/-- The first second of a day, in seconds since 1970. -/
def midnight (d : Date) : Int :=
  86400 * d.dayNumber

end Date

namespace Moment

variable {d : Date}

/-- The moments before a day are those before its first second. -/
theorem isBefore_iff (m : Moment) (hd : d.Valid) : m.isBefore d ↔ m.seconds < d.midnight := by
  unfold isBefore date
  rw [decide_eq_true_iff, ← Date.dayNumber_lt_dayNumber_iff (Date.valid_ofDayNumber _) hd,
    Date.dayNumber_ofDayNumber]
  unfold dayNumber Date.midnight
  omega

end Moment

end AnidbClient
