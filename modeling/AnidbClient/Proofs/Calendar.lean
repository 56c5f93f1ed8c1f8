import AnidbClient.Calendar
import AnidbClient.Proofs.Text.Lines
import AnidbClient.Proofs.Text.Numeral
import AnidbClient.Proofs.Time.Date
import Mathlib.Data.List.Basic

/-!
# The two sides of the calendar

The calendar goes through the lines of a reply and puts each entry on one of two sides.  `Sides`
says what becomes of each line: a line that says something of an anime (`Says`) gives one entry, any
other line gives none.  Where the entry goes depends on the flags and on whether the start lies
before the first second of today (`HasStarted`).

* `read_eq_iff` says that the calendar is split just so.
* `read_of_le` compares the same calendar on two days: an entry goes over from one side to the other
  at most, and never back.
-/

namespace AnidbClient

/-! ## Flags -/

/-- The start is exact to the day just if no flag says otherwise. -/
theorem DateFlags.startKnown_iff {f : DateFlags} : f.startKnown = true ↔ f.bits &&& 35 = 0 := by
  have himprecise : startImprecise.bits = 35 := by decide
  simp [startKnown, intersects, himprecise]

namespace Calendar

/-! ## Lines -/

/-- The seconds stand for a start: they are not zero, and the calendar covers them. -/
def IsStart (seconds : Int) : Prop :=
  seconds ≠ 0 ∧ -8334601228800 ≤ seconds ∧ seconds ≤ 8210266876799

instance (seconds : Int) : Decidable (IsStart seconds) :=
  inferInstanceAs (Decidable (seconds ≠ 0 ∧ -8334601228800 ≤ seconds ∧ seconds ≤ 8210266876799))

/-- The line says this of an anime, which starts so many seconds after the start of 1970. -/
structure Says (line : Text) (seconds : Int) (e : CalendarEntry) : Prop where
  fields : ∃ anime start flags, Text.split '|' line = [anime, start, flags] ∧
    Text.IsUnsigned e.anime.toNat anime ∧
    ((-9223372036854775808 ≤ seconds ∧ seconds < 9223372036854775808) ∧
      Text.IsSigned seconds start) ∧
    Text.IsUnsigned e.flags.bits.toNat flags
  start : e.start.map Moment.parts = if IsStart seconds then some (seconds, 0) else none

variable {line : Text} {e : CalendarEntry} {seconds : Int} {today : Date}

/-- A start is the moment of its seconds, unless that is zero or not in the calendar. -/
theorem map_parts_startOf (seconds : Int) :
    (CalendarEntry.startOf seconds).map Moment.parts =
      if IsStart seconds then some (seconds, 0) else none := by
  unfold CalendarEntry.startOf Moment.ofSeconds? earliestMoment latestMoment IsStart
  by_cases hzero : seconds = 0
  · simp [hzero]
  · by_cases hcovered : -8334601228800 ≤ seconds ∧ seconds ≤ 8210266876799 <;>
      simp [hzero, hcovered, Moment.parts]

/-- An entry is read from a line that says it. -/
theorem ofLine?_eq_some_iff :
    CalendarEntry.ofLine? line = some e ↔ ∃ seconds, Says line seconds e := by
  unfold CalendarEntry.ofLine?
  constructor
  · intro h
    split at h
    · rename_i anime start flags hsplit
      obtain ⟨n, hn, h⟩ := Option.bind_eq_some_iff.1 h
      obtain ⟨seconds, hseconds, h⟩ := Option.bind_eq_some_iff.1 h
      obtain ⟨bits, hbits, h⟩ := Option.bind_eq_some_iff.1 h
      obtain rfl := Option.some.inj h
      exact ⟨seconds, ⟨anime, start, flags, hsplit, Text.u32?_eq_some_iff.1 hn,
        Text.i64?_eq_some_iff.1 hseconds, Text.u8?_eq_some_iff.1 hbits⟩,
        map_parts_startOf seconds⟩
    · cases h
  · rintro ⟨seconds, ⟨anime, start, flags, hsplit, hanime, hseconds, hflags⟩, hstart⟩
    have heq : CalendarEntry.startOf seconds = e.start :=
      Option.map_injective Moment.parts_injective ((map_parts_startOf seconds).trans hstart.symm)
    rw [hsplit]
    simp [Text.u32?_eq_some_iff.2 hanime, Text.i64?_eq_some_iff.2 hseconds,
      Text.u8?_eq_some_iff.2 hflags, heq]

theorem ofLine?_eq_none_iff :
    CalendarEntry.ofLine? line = none ↔ ∀ seconds e, ¬ Says line seconds e := by
  rw [Option.eq_none_iff_forall_ne_some]
  simp only [ne_eq, ofLine?_eq_some_iff, not_exists]
  exact forall_comm

/-! ## Sides -/

/-- The start is exact to the day, is a moment of the calendar and lies before today. -/
def HasStarted (today : Date) (seconds : Int) (flags : DateFlags) : Prop :=
  flags.bits &&& 35 = 0 ∧ IsStart seconds ∧ seconds < today.midnight

theorem hasAired_iff (htoday : today.Valid) (h : Says line seconds e) :
    e.hasAired today = true ↔ HasStarted today seconds e.flags := by
  have hstart := h.start
  unfold CalendarEntry.hasAired HasStarted
  rw [Bool.and_eq_true, DateFlags.startKnown_iff]
  refine and_congr_right fun _ => ?_
  cases hdate : e.start with
  | none =>
    rw [hdate] at hstart
    have hno : ¬ IsStart seconds := by
      intro his
      rw [if_pos his] at hstart
      cases hstart
    simp [hno]
  | some m =>
    rw [hdate] at hstart
    split at hstart
    · rename_i his
      obtain ⟨rfl, -⟩ := Prod.mk.inj (Option.some.inj hstart)
      rw [Option.any_some, m.isBefore_iff htoday]
      exact (and_iff_right his).symm
    · cases hstart

/-- What becomes of the lines: the entries that have started, and the others. -/
inductive Sides (today : Date) :
    List Text → List CalendarEntry → List CalendarEntry → Prop where
  | nil : Sides today [] [] []
  | skip {line : Text} {lines : List Text} {previous upcoming : List CalendarEntry}
      (hline : ∀ seconds e, ¬ Says line seconds e) (hrest : Sides today lines previous upcoming) :
      Sides today (line :: lines) previous upcoming
  | previous {line : Text} {lines : List Text} {seconds : Int} {e : CalendarEntry}
      {previous upcoming : List CalendarEntry} (hline : Says line seconds e)
      (hstarted : HasStarted today seconds e.flags) (hrest : Sides today lines previous upcoming) :
      Sides today (line :: lines) (e :: previous) upcoming
  | upcoming {line : Text} {lines : List Text} {seconds : Int} {e : CalendarEntry}
      {previous upcoming : List CalendarEntry} (hline : Says line seconds e)
      (hstarted : ¬ HasStarted today seconds e.flags)
      (hrest : Sides today lines previous upcoming) :
      Sides today (line :: lines) previous (e :: upcoming)

/-- The entries of the lines, on the two sides. -/
def sidesOf (today : Date) (lines : List Text) : Calendar :=
  ⟨(lines.filterMap CalendarEntry.ofLine?).filter (·.hasAired today),
    (lines.filterMap CalendarEntry.ofLine?).filter (!·.hasAired today)⟩

variable {lines : List Text}

theorem sidesOf_cons_of_none (hread : CalendarEntry.ofLine? line = none) :
    sidesOf today (line :: lines) = sidesOf today lines := by
  unfold sidesOf
  rw [List.filterMap_cons_none hread]

theorem sidesOf_cons_of_hasAired (hread : CalendarEntry.ofLine? line = some e)
    (haired : e.hasAired today = true) :
    sidesOf today (line :: lines) =
      ⟨e :: (sidesOf today lines).previous, (sidesOf today lines).upcoming⟩ := by
  unfold sidesOf
  rw [List.filterMap_cons_some hread]
  simp [haired]

theorem sidesOf_cons_of_not_hasAired (hread : CalendarEntry.ofLine? line = some e)
    (haired : ¬ e.hasAired today = true) :
    sidesOf today (line :: lines) =
      ⟨(sidesOf today lines).previous, e :: (sidesOf today lines).upcoming⟩ := by
  unfold sidesOf
  rw [List.filterMap_cons_some hread]
  simp [haired]

theorem Sides.sidesOf_eq (htoday : today.Valid) {previous upcoming : List CalendarEntry}
    (h : Sides today lines previous upcoming) : sidesOf today lines = ⟨previous, upcoming⟩ := by
  induction h with
  | nil => rfl
  | skip hline _ ih => rw [sidesOf_cons_of_none (ofLine?_eq_none_iff.2 hline), ih]
  | previous hline hstarted _ ih =>
    have hread := ofLine?_eq_some_iff.2 ⟨_, hline⟩
    rw [sidesOf_cons_of_hasAired hread ((hasAired_iff htoday hline).2 hstarted), ih]
  | upcoming hline hstarted _ ih =>
    have hread := ofLine?_eq_some_iff.2 ⟨_, hline⟩
    rw [sidesOf_cons_of_not_hasAired hread ((hasAired_iff htoday hline).not.2 hstarted), ih]

theorem sides_sidesOf (htoday : today.Valid) (lines : List Text) :
    Sides today lines (sidesOf today lines).previous (sidesOf today lines).upcoming := by
  induction lines with
  | nil => exact .nil
  | cons line lines ih =>
    cases hread : CalendarEntry.ofLine? line with
    | none =>
      rw [sidesOf_cons_of_none hread]
      exact .skip (ofLine?_eq_none_iff.1 hread) ih
    | some e =>
      obtain ⟨seconds, hline⟩ := ofLine?_eq_some_iff.1 hread
      by_cases haired : e.hasAired today = true
      · rw [sidesOf_cons_of_hasAired hread haired]
        exact .previous hline ((hasAired_iff htoday hline).1 haired) ih
      · rw [sidesOf_cons_of_not_hasAired hread haired]
        exact .upcoming hline ((hasAired_iff htoday hline).not.1 haired) ih

theorem read_eq_sidesOf (today : Date) (body : Text) :
    read today body = sidesOf today (Text.lines body) :=
  rfl

/-- The calendar is split line by line: each line that says something of an anime gives one entry,
on the side where it belongs and behind those of the lines before, and no other line gives any. -/
theorem read_eq_iff (htoday : today.Valid) (body : Text) {previous upcoming : List CalendarEntry} :
    read today body = ⟨previous, upcoming⟩ ↔
      ∃ lines, Text.HasLines body lines ∧ Sides today lines previous upcoming := by
  rw [read_eq_sidesOf]
  constructor
  · intro h
    have hsides := sides_sidesOf htoday (Text.lines body)
    rw [h] at hsides
    exact ⟨_, Text.hasLines_lines body, hsides⟩
  · rintro ⟨lines, hlines, hsides⟩
    rw [hlines.lines_eq]
    exact hsides.sidesOf_eq htoday

/-- A status message, a start right before and right at the first second of today, none, one before
1970, one that the calendar does not cover, one that is not exact, and a line with two fields. -/
def someBody : Text :=
  "CALENDAR\n1|1709164799|16\r\n+2|1709164800|0\n3|0|0\n4|-5|0\n5|-99999999999999|0\n6|1|32\n7|1"

theorem read_eq_iff_leapDay :
    (⟨2024, 2, 29⟩ : Date).Valid ∧
      ∃ lines, Text.HasLines someBody lines ∧
        Sides ⟨2024, 2, 29⟩ lines
          [⟨1, some { seconds := 1709164799, nanos := 0 }, ⟨16⟩⟩,
            ⟨4, some { seconds := -5, nanos := 0 }, ⟨0⟩⟩]
          [⟨2, some { seconds := 1709164800, nanos := 0 }, ⟨0⟩⟩, ⟨3, none, ⟨0⟩⟩, ⟨5, none, ⟨0⟩⟩,
            ⟨6, some { seconds := 1, nanos := 0 }, ⟨32⟩⟩] := by
  have hvalid : (⟨2024, 2, 29⟩ : Date).Valid := by decide
  exact ⟨hvalid, (read_eq_iff hvalid someBody).1 (by decide +kernel)⟩

/-! ## Days pass -/

variable {d d' : Date}

/-- What has started before one day has started before any later one. -/
theorem hasAired_of_le (hle : d ≤ d') (h : e.hasAired d = true) : e.hasAired d' = true := by
  unfold CalendarEntry.hasAired at h ⊢
  rw [Bool.and_eq_true, Option.any_eq_true] at h ⊢
  obtain ⟨hknown, m, hstart, hbefore⟩ := h
  have hbefore' : m.date < d' := Date.lt_of_lt_of_le (of_decide_eq_true hbefore) hle
  exact ⟨hknown, m, hstart, decide_eq_true hbefore'⟩

/-- An entry without a start, or with one that is not exact to the day, has not started on any
day. -/
theorem hasAired_eq_false (h : e.start = none ∨ e.flags.bits &&& 35 ≠ 0) (today : Date) :
    e.hasAired today = false := by
  unfold CalendarEntry.hasAired
  rcases h with hnone | himprecise
  · simp [hnone]
  · have hknown : e.flags.startKnown = false := by
      rw [← Bool.not_eq_true, DateFlags.startKnown_iff]
      exact himprecise
    rw [hknown, Bool.false_and]

theorem previous_append_upcoming_perm (today : Date) (body : Text) :
    ((read today body).previous ++ (read today body).upcoming).Perm (entries body) :=
  List.filter_append_perm _ _

/-- On a later day the calendar holds the same entries.  Those that had started have started still,
in the same order, and those that are still to start were so before; and an entry without a start
that is exact to the day is never among those that have started. -/
theorem read_of_le (hle : d ≤ d') (body : Text) :
    (read d body).previous.Sublist (read d' body).previous ∧
      (read d' body).upcoming.Sublist (read d body).upcoming ∧
      ((read d body).previous ++ (read d body).upcoming).Perm
        ((read d' body).previous ++ (read d' body).upcoming) ∧
      ∀ e : CalendarEntry, e.start = none ∨ e.flags.bits &&& 35 ≠ 0 → ∀ today,
        e ∉ (read today body).previous ∧
          (read today body).upcoming.count e = (entries body).count e := by
  refine ⟨?_, ?_, ?_, ?_⟩
  · exact List.monotone_filter_right _ fun e => hasAired_of_le hle
  · refine List.monotone_filter_right _ fun e hnot => ?_
    rw [Bool.not_eq_true', ← Bool.not_eq_true] at hnot ⊢
    exact fun haired => hnot (hasAired_of_le hle haired)
  · exact (previous_append_upcoming_perm d body).trans (previous_append_upcoming_perm d' body).symm
  · intro e hstays today
    have hnot := hasAired_eq_false hstays today
    have hprevious : e ∉ (read today body).previous := by
      intro hmem
      rw [(List.mem_filter.1 hmem).2] at hnot
      cases hnot
    refine ⟨hprevious, ?_⟩
    rw [← (previous_append_upcoming_perm today body).count_eq, List.count_append,
      List.count_eq_zero.2 hprevious, Nat.zero_add]

/-- The first second of the year zero has not come on the last day of the year before, and has on a
later one. -/
theorem read_of_le_yearZero :
    (⟨-1, 12, 31⟩ : Date) ≤ ⟨0, 2, 29⟩ ∧
      (read ⟨-1, 12, 31⟩ "1|-62167219200|0").previous.Sublist
        (read ⟨0, 2, 29⟩ "1|-62167219200|0").previous ∧
      (read ⟨-1, 12, 31⟩ "1|-62167219200|0").previous = [] ∧
      (read ⟨0, 2, 29⟩ "1|-62167219200|0").previous =
        [⟨1, some { seconds := -62167219200, nanos := 0 }, ⟨0⟩⟩] := by
  have hle : (⟨-1, 12, 31⟩ : Date) ≤ ⟨0, 2, 29⟩ := .inl (by decide)
  exact ⟨hle, (read_of_le hle _).1, by decide +kernel, by decide +kernel⟩

end Calendar

end AnidbClient
