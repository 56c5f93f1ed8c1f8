import AnidbClient.Proofs.CommandLine.Lookup
import AnidbClient.Proofs.Request.Grammar

/-!
# The two answers to a filing

A file that is put on the list is either new there, and then the client says itself what the list
says about it, or it was there before, and then the server says it (`storedLine`).  If the server
says what the command told it, the client reads what it has sent (`ofListed_stored`).

The two answers say the same of a filing that has a date just if the file was watched, one that is
positive and has whole seconds (`answers_agree_iff`).  Else the first one keeps what is never sent,
such as the date of a file that was not watched (`unwatched_date_kept`).
-/

namespace AnidbClient

namespace Filing

/-- The date that the command says. -/
def sentDate (f : Filing) : Option Moment :=
  if f.watched then f.watchedDate else none

/-- The number of seconds that a server stores; zero if the command says no date. -/
def storedSeconds (f : Filing) : Int :=
  f.sentDate.elim 0 Moment.seconds

/-- The date that is read of what a server stores, which has no fraction of a second. -/
def storedDate (f : Filing) : Option Moment :=
  (f.sentDate.filter (0 < ·.seconds)).map Moment.whole

/-- A new entry, as it was asked for. -/
def newEntry (f : Filing) (id : UInt64) : ListEntry :=
  ⟨id, f.storage, f.watched, f.watchedDate⟩

/-- An entry with what a server stores. -/
def storedEntry (f : Filing) (id : UInt64) : ListEntry :=
  ⟨id, f.storage, f.storedDate.isSome, f.storedDate⟩

/-- The filing has a date just if the file was watched, and it is positive and has whole seconds. -/
def DatedIfWatched (f : Filing) : Prop :=
  if f.watched then ∃ date, f.watchedDate = some date ∧ 0 < date.seconds ∧ date.nanos = 0
  else f.watchedDate = none

variable {f : Filing} {id : UInt64}

theorem storedDate_map_parts :
    f.storedDate.map Moment.parts =
      if 0 < f.storedSeconds then some (f.storedSeconds, 0) else none := by
  unfold storedDate storedSeconds
  cases f.sentDate with
  | none => rfl
  | some date =>
    by_cases hpositive : 0 < date.seconds <;>
      simp [Option.filter, hpositive, Moment.whole, Moment.parts]

theorem storedSeconds_bounds :
    earliestMoment ≤ f.storedSeconds ∧ f.storedSeconds ≤ latestMoment := by
  unfold storedSeconds
  cases f.sentDate with
  | none => exact ⟨by decide, by decide⟩
  | some date => exact ⟨date.earliest_le, date.le_latest⟩

theorem newEntry_eq_storedEntry_iff : f.newEntry id = f.storedEntry id ↔ f.DatedIfWatched := by
  obtain ⟨file, storage, watched, date⟩ := f
  unfold newEntry storedEntry storedDate sentDate DatedIfWatched
  cases watched with
  | false => cases date <;> simp
  | true =>
    cases date with
    | none => simp
    | some date =>
      by_cases hpositive : 0 < date.seconds <;>
        simp [Option.filter, hpositive, Moment.eq_whole_iff]

end Filing

namespace CommandLine

open Request

variable {f : Filing} {session tag : Option Text}

/-- A server reads the storage of a filing as it was written. -/
theorem param?_state :
    param? "state" ((Request.add f).line session tag) =
      some (Text.digits f.storage.number.toNat) := by
  rw [param?_line (by decide)]
  show some (shown (Text.digits f.storage.number.toNat)) = _
  rw [shown_digits]

/-- A server reads the date of a filing as it was written, if it is sent. -/
theorem param?_viewdate :
    param? "viewdate" ((Request.add f).line session tag) =
      f.sentDate.map fun date => Text.signedDigits date.seconds := by
  have henvelope : (envelope session tag).find? (·.key = ("viewdate" : Text)) = none := by
    cases session <;> cases tag <;> rfl
  rw [param?_line (by decide), List.find?_append, henvelope, Option.or_none]
  obtain ⟨file, storage, watched, date⟩ := f
  cases watched with
  | false => rfl
  | true =>
    cases date with
    | none => rfl
    | some date => exact congrArg some (shown_signedDigits date.seconds)

end CommandLine

namespace Request

/-! ## What a server stores -/

/-- The line of an entry from a server that stored what a command says.  A command without a date is
stored with a zero. -/
def storedLine (command : Text) (id : UInt64) (own : ServerFields) : Option Text :=
  (CommandLine.param? "state" command).map fun state =>
    Text.join '|' (own.around (Text.digits id.toNat) state
      ((CommandLine.param? "viewdate" command).getD "0"))

variable {f : Filing} {id : UInt64} {own : ServerFields} {session tag : Option Text}

theorem storedLine_line :
    storedLine ((add f).line session tag) id own =
      some (Text.join '|' (own.around (Text.digits id.toNat)
        (Text.digits f.storage.number.toNat) (Text.signedDigits f.storedSeconds))) := by
  have hdate : (f.sentDate.map fun date => Text.signedDigits date.seconds).getD "0" =
      Text.signedDigits f.storedSeconds := by
    unfold Filing.storedSeconds
    cases f.sentDate with
    | none => exact (by decide +kernel : ("0" : Text) = Text.signedDigits 0)
    | some date => rfl
  unfold storedLine
  rw [CommandLine.param?_state, CommandLine.param?_viewdate, hdate]
  rfl

/-- What a server stored is read as the date that it was told. -/
theorem ofListed_stored :
    ListEntry.ofListed (Text.join '|' (own.around (Text.digits id.toNat)
        (Text.digits f.storage.number.toNat) (Text.signedDigits f.storedSeconds))) =
      .ok (f.storedEntry id) := by
  have hbounds := f.storedSeconds_bounds
  have hdate : ListEntry.watchedAt f.storedSeconds = some f.storedDate :=
    ListEntry.watchedAt_eq_some_iff.2 ⟨fun _ => hbounds.2, f.storedDate_map_parts⟩
  unfold earliestMoment latestMoment at hbounds
  rw [own.ofListed_around id f.storage (by omega), hdate]
  rfl

/-! ## The two answers -/

/-- A new entry is answered as it was asked for, and an entry that was there as the command says;
the two agree just if the filing is dated if it is watched. -/
theorem answers_agree_iff (today : Date) (f : Filing) (session tag : Option Text) (id : UInt64)
    (own : ServerFields) :
    ∃ line, storedLine ((add f).line session tag) id own = some line ∧
      ∀ {added listed : Text}, BodyNumber added id.toNat → SecondLine listed line →
        ∀ addedTag listedTag,
          (add f).answer today ⟨addedTag, .myListEntryAdded, added⟩ =
              .ok ⟨.myListEntryAdded, some (.entry (f.newEntry id))⟩ ∧
            (add f).answer today ⟨listedTag, .fileAlreadyInMyList, listed⟩ =
              .ok ⟨.fileAlreadyInMyList, some (.entry (f.storedEntry id))⟩ ∧
            (f.newEntry id = f.storedEntry id ↔ f.DatedIfWatched) := by
  refine ⟨_, storedLine_line, ?_⟩
  intro added listed hadded hlisted addedTag listedTag
  refine ⟨?_, ?_, Filing.newEntry_eq_storedEntry_iff⟩
  · rw [answer_eq_ok_iff (by simp [accepted])]
    exact ⟨_, (read_eq_ok_iff (.added f)).2 (.added hadded), rfl⟩
  · rw [answer_eq_ok_iff (by simp [accepted])]
    refine ⟨_, (read_eq_ok_iff (.listed f)).2 ?_, rfl⟩
    exact .listed hlisted (ofListed_eq_ok_iff.1 ofListed_stored)

/-- What some server knows of some entry. -/
def someFields : ServerFields where
  file := "1"
  episode := "2"
  anime := "3"
  group := "4"
  added := "1600000000"
  more := ["shelf", "", "x", "1"]
  no_bar := by decide

/-- What is said of a file of one byte on a hard drive, with a date. -/
def someFiling (watched : Bool) : Filing :=
  ⟨⟨1, "00"⟩, .internal, watched, Moment.ofSeconds? 1700000000⟩

theorem answers_agree_watched :
    let f := someFiling true
    storedLine ((add f).line (some "abc12") (some "t1")) 12345 someFields =
        some "12345|1|2|3|4|1600000000|1|1700000000|shelf||x|1" ∧
      (add f).answer ⟨2024, 2, 29⟩ ⟨some "t1", .myListEntryAdded, "MYLIST ENTRY ADDED\n12345"⟩ =
        .ok ⟨.myListEntryAdded, some (.entry (f.newEntry 12345))⟩ ∧
      (add f).answer ⟨2024, 2, 29⟩ ⟨some "t1", .fileAlreadyInMyList,
          "FILE ALREADY IN MYLIST\n12345|1|2|3|4|1600000000|1|1700000000|shelf||x|1"⟩ =
        .ok ⟨.fileAlreadyInMyList, some (.entry (f.newEntry 12345))⟩ := by
  intro f
  have hstored : storedLine ((add f).line (some "abc12") (some "t1")) 12345 someFields =
      some "12345|1|2|3|4|1600000000|1|1700000000|shelf||x|1" := by
    decide +kernel
  have hadded : BodyNumber "MYLIST ENTRY ADDED\n12345" (12345 : UInt64).toNat :=
    ⟨"12345", secondLine?_eq_some_iff.1 rfl, isUnsigned_trim_iff.1 (Text.u64?_eq_some_iff.1 rfl)⟩
  have hlisted : SecondLine
      "FILE ALREADY IN MYLIST\n12345|1|2|3|4|1600000000|1|1700000000|shelf||x|1"
      "12345|1|2|3|4|1600000000|1|1700000000|shelf||x|1" := secondLine?_eq_some_iff.1 rfl
  have hdated : f.DatedIfWatched := ⟨_, rfl, by decide, rfl⟩
  obtain ⟨line, hline, hanswers⟩ :=
    answers_agree_iff ⟨2024, 2, 29⟩ f (some "abc12") (some "t1") 12345 someFields
  obtain rfl := Option.some.inj (hstored.symm.trans hline)
  obtain ⟨hnew, hold, hagree⟩ := hanswers hadded hlisted (some "t1") (some "t1")
  rw [← hagree.2 hdated] at hold
  exact ⟨hstored, hnew, hold⟩

/-- The answer to a new entry keeps the date of a file that was not watched, which is never sent: a
server that stored what the command says answers without a date. -/
theorem unwatched_date_kept :
    let f := someFiling false
    (f.watched = true → ∃ date, f.watchedDate = some date ∧ 0 < date.seconds) ∧
      storedLine ((add f).line (some "abc12") (some "t1")) 12345 someFields =
        some "12345|1|2|3|4|1600000000|1|0|shelf||x|1" ∧
      (add f).answer ⟨2024, 2, 29⟩ ⟨some "t1", .myListEntryAdded, "MYLIST ENTRY ADDED\n12345"⟩ =
        .ok ⟨.myListEntryAdded, some (.entry ⟨12345, .internal, false, f.watchedDate⟩)⟩ ∧
      (add f).answer ⟨2024, 2, 29⟩ ⟨some "t1", .fileAlreadyInMyList,
          "FILE ALREADY IN MYLIST\n12345|1|2|3|4|1600000000|1|0|shelf||x|1"⟩ =
        .ok ⟨.fileAlreadyInMyList, some (.entry ⟨12345, .internal, false, none⟩)⟩ ∧
      f.watchedDate ≠ none := by
  refine ⟨?_, ?_, ?_, ?_, ?_⟩
  · rintro ⟨⟩
  · decide +kernel
  · rfl
  · rfl
  · rintro ⟨⟩

-- A fraction of a second is not sent either.
example :
    let date : Moment := { seconds := 1700000000, nanos := 500000000 }
    let f : Filing := { someFiling true with watchedDate := some date }
    f.newEntry 12345 ≠ f.storedEntry 12345 := by
  decide

end Request

end AnidbClient
