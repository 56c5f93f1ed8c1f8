import AnidbClient.Proofs.Text.Lines
import AnidbClient.Proofs.Text.Padding
import AnidbClient.Proofs.Wire.Plain
import AnidbClient.Request.Answer

/-!
# The grammar of bodies

What a request reads stands in the second line of a body (`SecondLine`): a number, perhaps between
blanks (`HoldsNumber`), or the fields of an entry that is on the list (`Lists`).

* `Brings` relates a body to what it brings for a request, and `BodyFault` to the first field of it
  that is wrong.  Neither has a value in the place of one that is wrong; only a count and a port may
  be left out, with their line.
* `ofListed_eq_ok_iff` and `ofListed_eq_error_iff` say which lines are read as an entry and which
  are not, and `ServerFields.ofListed_around` what is read of the lines that servers write.
* `read_eq_ok_iff` and `read_eq_error_iff` say the same of bodies.
* `answer_iff_of_readsSecondLine` says how a request is answered, and what is not looked at.
-/

namespace AnidbClient

/-! ## Fields that could be read -/

section FieldOr

variable {α β : Type} {field fault : Text} {read : Option α} {f : α → β}

theorem fieldOr_eq_ok_iff {a : α} : fieldOr field read = .ok a ↔ read = some a := by
  cases read <;> simp [fieldOr]

theorem fieldOr_eq_error_iff : fieldOr field read = .error fault ↔ read = none ∧ fault = field := by
  cases read <;> simp [fieldOr, eq_comm]

theorem eq_none_iff_of_some_iff {P : α → Prop} (h : ∀ a, read = some a ↔ P a) :
    read = none ↔ ∀ a, ¬ P a := by
  rw [Option.eq_none_iff_forall_ne_some]
  exact forall_congr' fun a => not_congr (h a)

theorem map_eq_ok_iff {x : Except Text α} {b : β} : x.map f = .ok b ↔ ∃ a, x = .ok a ∧ b = f a := by
  cases x <;> simp [Except.map, eq_comm]

theorem map_eq_error_iff {x : Except Text α} : x.map f = .error fault ↔ x = .error fault := by
  cases x <;> simp [Except.map]

end FieldOr

/-! ## Entries of the list -/

theorem Storage.ofNumber?_eq_some_iff {n : UInt8} {storage : Storage} :
    ofNumber? n = some storage ↔ n = storage.number := by
  constructor
  · intro h
    unfold ofNumber? at h
    rw [← UInt8.toNat_inj]
    split at h <;> simp_all [number]
    all_goals subst h; rfl
  · rintro rfl
    exact ofNumber?_number storage

namespace ListEntry

/-- A date up to the end of the calendar is kept if it is positive. -/
theorem watchedAt_eq_some_iff {seconds : Int} {watched : Option Moment} :
    watchedAt seconds = some watched ↔ (0 < seconds → seconds ≤ latestMoment) ∧
      watched.map Moment.parts = if 0 < seconds then some (seconds, 0) else none := by
  unfold watchedAt
  split
  · simp only [Option.map_eq_some_iff, Moment.ofSeconds?_eq_some_iff]
    constructor
    · rintro ⟨m, hm, rfl⟩
      obtain ⟨rfl, -⟩ := Prod.mk.inj hm
      exact ⟨fun _ => m.le_latest, m, rfl, hm⟩
    · rintro ⟨-, m, rfl, hm⟩
      exact ⟨m, hm, rfl⟩
  · rename_i hpositive
    cases watched <;> simp [hpositive]

end ListEntry

namespace Request

/-! ## What is written -/

/-- The body has this second line. -/
def SecondLine (body line : Text) : Prop :=
  ∃ first more, Text.HasLines body (first :: line :: more)

/-- The line holds the number, perhaps between blanks. -/
def HoldsNumber (n : Nat) (line : Text) : Prop :=
  ∃ s, Text.IsPadded s line ∧ Text.IsUnsigned n s

/-- The field with the index is written so, with nothing restored in it. -/
def HasField (line : Text) (index : Nat) (IsWritten : Text → Prop) : Prop :=
  ∃ s, (Text.split '|' line)[index]? = some s ∧ IsWritten s

/-- The number of the entry stands in the first field. -/
def HasId (line : Text) (id : UInt64) : Prop :=
  HasField line 0 (Text.IsUnsigned id.toNat)

/-- The storage stands in the seventh field, as its number. -/
def HasStorage (line : Text) (storage : Storage) : Prop :=
  HasField line 6 (Text.IsUnsigned storage.number.toNat)

/-- The date watched stands in the eighth field: an integer of sixty-four bits, and a moment of the
calendar if it is positive. -/
def HasDate (line : Text) (seconds : Int) : Prop :=
  HasField line 7 (Text.IsSigned seconds) ∧
    (-9223372036854775808 ≤ seconds ∧ seconds < 9223372036854775808) ∧
      (0 < seconds → seconds ≤ 8210266876799)

/-- The line says this of an entry that is on the list. -/
structure Lists (line : Text) (e : ListEntry) : Prop where
  id : HasId line e.id
  storage : HasStorage line e.storage
  date : ∃ seconds, HasDate line seconds ∧ e.isWatched = decide (0 < seconds) ∧
    e.watchedDate.map Moment.parts = if 0 < seconds then some (seconds, 0) else none

/-- The first field of the line that is wrong. -/
inductive LineFault (line : Text) : Text → Prop where
  | id (hid : ∀ id, ¬ HasId line id) : LineFault line "lid"
  | storage {id : UInt64} (hid : HasId line id) (hstorage : ∀ storage, ¬ HasStorage line storage) :
      LineFault line "state"
  | date {id : UInt64} {storage : Storage} (hid : HasId line id)
      (hstorage : HasStorage line storage) (hdate : ∀ seconds, ¬ HasDate line seconds) :
      LineFault line "viewdate"

/-! ## Reading it -/

variable {body line : Text}

theorem secondLine?_eq_some_iff : secondLine? body = some line ↔ SecondLine body line := by
  unfold secondLine? SecondLine
  simp only [← Text.lines_eq_iff]
  match Text.lines body with
  | [] => simp
  | [first] => simp
  | first :: second :: more => simp

/-- Numerals hold no blanks, so a numeral is what is left of a line without those at its ends. -/
theorem isUnsigned_trim_iff {n : Nat} : Text.IsUnsigned n (Text.trim line) ↔ HoldsNumber n line :=
  Text.trim_iff fun _ h => h.isSigned.eq_false (by decide) (by decide) (by decide)

theorem fields_bind_eq_some_iff {α : Type} {read : Text → Option α} {a : α} {index : Nat}
    {IsWritten : Text → Prop} (hread : ∀ s, read (Wire.decode s) = some a ↔ IsWritten s) :
    (Wire.fields line)[index]?.bind read = some a ↔ HasField line index IsWritten := by
  unfold Wire.fields HasField
  rw [List.getElem?_map, Option.bind_eq_some_iff]
  simp only [Option.map_eq_some_iff, show Wire.fieldSeparator = '|' from rfl]
  constructor
  · rintro ⟨_, ⟨s, hs, rfl⟩, h⟩
    exact ⟨s, hs, (hread s).1 h⟩
  · rintro ⟨s, hs, h⟩
    exact ⟨_, ⟨s, hs, rfl⟩, (hread s).2 h⟩

theorem id?_eq_some_iff {id : UInt64} :
    (Wire.fields line)[0]?.bind Text.u64? = some id ↔ HasId line id :=
  fields_bind_eq_some_iff fun _ => Text.u64?_eq_some_iff.trans Wire.isUnsigned_decode_iff

theorem storage?_eq_some_iff {storage : Storage} :
    ((Wire.fields line)[6]?.bind Text.u8?).bind Storage.ofNumber? = some storage ↔
      HasStorage line storage := by
  rw [Option.bind_assoc]
  refine fields_bind_eq_some_iff fun s => ?_
  rw [Option.bind_eq_some_iff]
  simp only [Storage.ofNumber?_eq_some_iff, exists_eq_right]
  exact Text.u8?_eq_some_iff.trans Wire.isUnsigned_decode_iff

theorem seconds?_eq_some_iff {seconds : Int} :
    (Wire.fields line)[7]?.bind Text.i64? = some seconds ↔
      HasField line 7 (Text.IsSigned seconds) ∧
        (-9223372036854775808 ≤ seconds ∧ seconds < 9223372036854775808) := by
  rw [fields_bind_eq_some_iff fun _ => Text.i64?_eq_some_iff.trans
    (and_congr_right fun _ => Wire.isSigned_decode_iff)]
  constructor
  · rintro ⟨s, hs, hrange, h⟩
    exact ⟨⟨s, hs, h⟩, hrange⟩
  · rintro ⟨⟨s, hs, h⟩, hrange⟩
    exact ⟨s, hs, hrange, h⟩

theorem date?_eq_some_iff {watched : Option Moment} :
    ((Wire.fields line)[7]?.bind Text.i64?).bind ListEntry.watchedAt = some watched ↔
      ∃ seconds, HasDate line seconds ∧
        watched.map Moment.parts = if 0 < seconds then some (seconds, 0) else none := by
  rw [Option.bind_eq_some_iff]
  simp only [seconds?_eq_some_iff, ListEntry.watchedAt_eq_some_iff, HasDate, latestMoment,
    and_assoc]

/-- A date is read to the moment it stands for, if it is positive. -/
theorem exists_watched {seconds : Int} (hlatest : 0 < seconds → seconds ≤ 8210266876799) :
    ∃ watched : Option Moment,
      watched.map Moment.parts = if 0 < seconds then some (seconds, 0) else none := by
  by_cases hpositive : 0 < seconds
  · have hearliest : earliestMoment ≤ seconds := by
      unfold earliestMoment
      omega
    exact ⟨some { seconds, nanos := 0, earliest_le := hearliest, le_latest := hlatest hpositive },
      by simp [hpositive, Moment.parts]⟩
  · exact ⟨none, by simp [hpositive]⟩

theorem date?_eq_none_iff :
    ((Wire.fields line)[7]?.bind Text.i64?).bind ListEntry.watchedAt = none ↔
      ∀ seconds, ¬ HasDate line seconds := by
  rw [eq_none_iff_of_some_iff fun _ => date?_eq_some_iff]
  constructor
  · intro h seconds hdate
    obtain ⟨watched, hwatched⟩ := exists_watched hdate.2.2
    exact h watched ⟨seconds, hdate, hwatched⟩
  · rintro h watched ⟨seconds, hdate, -⟩
    exact h seconds hdate

theorem isSome_of_map_parts {seconds : Int} {watched : Option Moment}
    (h : watched.map Moment.parts = if 0 < seconds then some (seconds, 0) else none) :
    watched.isSome = decide (0 < seconds) := by
  rw [← Option.isSome_map, h]
  split <;> simp_all

/-- The fields of an entry are read one after the other. -/
theorem ofListed_eq (line : Text) :
    ListEntry.ofListed line =
      match (Wire.fields line)[0]?.bind Text.u64?,
        ((Wire.fields line)[6]?.bind Text.u8?).bind Storage.ofNumber?,
        ((Wire.fields line)[7]?.bind Text.i64?).bind ListEntry.watchedAt with
      | none, _, _ => .error "lid"
      | some _, none, _ => .error "state"
      | some _, some _, none => .error "viewdate"
      | some id, some storage, some watched => .ok ⟨id, storage, watched.isSome, watched⟩ := by
  unfold ListEntry.ofListed
  dsimp only
  cases (Wire.fields line)[0]?.bind Text.u64? with
  | none => rfl
  | some id =>
    cases ((Wire.fields line)[6]?.bind Text.u8?).bind Storage.ofNumber? with
    | none => rfl
    | some storage =>
      cases ((Wire.fields line)[7]?.bind Text.i64?).bind ListEntry.watchedAt with
      | none => rfl
      | some watched => rfl

/-- An entry is read from a line that lists it. -/
theorem ofListed_eq_ok_iff {e : ListEntry} : ListEntry.ofListed line = .ok e ↔ Lists line e := by
  rw [ofListed_eq]
  constructor
  · intro h
    split at h
    · cases h
    · cases h
    · cases h
    · rename_i hid hstorage hdate
      obtain rfl := Except.ok.inj h
      obtain ⟨seconds, hseconds, hwatched⟩ := date?_eq_some_iff.1 hdate
      exact ⟨id?_eq_some_iff.1 hid, storage?_eq_some_iff.1 hstorage, seconds, hseconds,
        isSome_of_map_parts hwatched, hwatched⟩
  · obtain ⟨id, storage, isWatched, watchedDate⟩ := e
    rintro ⟨hid, hstorage, seconds, hdate, rfl, hwatched⟩
    rw [id?_eq_some_iff.2 hid, storage?_eq_some_iff.2 hstorage,
      date?_eq_some_iff.2 ⟨seconds, hdate, hwatched⟩, ← isSome_of_map_parts hwatched]

/-- A line is refused for its first field that is wrong. -/
theorem ofListed_eq_error_iff {field : Text} :
    ListEntry.ofListed line = .error field ↔ LineFault line field := by
  rw [ofListed_eq]
  constructor
  · intro h
    split at h
    · rename_i hid
      obtain rfl := Except.error.inj h
      exact .id ((eq_none_iff_of_some_iff fun _ => id?_eq_some_iff).1 hid)
    · rename_i hid hstorage
      obtain rfl := Except.error.inj h
      exact .storage (id?_eq_some_iff.1 hid)
        ((eq_none_iff_of_some_iff fun _ => storage?_eq_some_iff).1 hstorage)
    · rename_i hid hstorage hdate
      obtain rfl := Except.error.inj h
      exact .date (id?_eq_some_iff.1 hid) (storage?_eq_some_iff.1 hstorage)
        (date?_eq_none_iff.1 hdate)
    · cases h
  · intro h
    cases h with
    | id hid => rw [(eq_none_iff_of_some_iff fun _ => id?_eq_some_iff).2 hid]
    | storage hid hstorage =>
      rw [id?_eq_some_iff.2 hid,
        (eq_none_iff_of_some_iff fun _ => storage?_eq_some_iff).2 hstorage]
    | date hid hstorage hdate =>
      rw [id?_eq_some_iff.2 hid, storage?_eq_some_iff.2 hstorage, date?_eq_none_iff.2 hdate]

/-! ## Lines of servers -/

/-- What a server knows of an entry besides its number, its storage and the date watched. -/
structure ServerFields where
  file : Text
  episode : Text
  anime : Text
  group : Text
  added : Text
  /-- What stands behind the date watched. -/
  more : List Text
  no_bar : ∀ field ∈ file :: episode :: anime :: group :: added :: more, '|' ∉ field

namespace ServerFields

variable (own : ServerFields) {id storage date : Text}

/-- The fields of the line of an entry. -/
def around (id storage date : Text) : List Text :=
  id :: own.file :: own.episode :: own.anime :: own.group :: own.added :: storage :: date ::
    own.more

theorem split_around (hid : '|' ∉ id) (hstorage : '|' ∉ storage) (hdate : '|' ∉ date) :
    Text.split '|' (Text.join '|' (own.around id storage date)) = own.around id storage date := by
  refine Text.split_join ?_ (List.cons_ne_nil _ _)
  have hown := own.no_bar
  simp only [around, List.forall_mem_cons] at hown ⊢
  exact ⟨hid, hown.1, hown.2.1, hown.2.2.1, hown.2.2.2.1, hown.2.2.2.2.1, hstorage, hdate,
    hown.2.2.2.2.2⟩

/-- The number and the storage that a server writes are read, and its date if it is one. -/
theorem ofListed_around (id : UInt64) (storage : Storage) {seconds : Int}
    (hrange : -9223372036854775808 ≤ seconds ∧ seconds < 9223372036854775808) :
    ListEntry.ofListed (Text.join '|' (own.around (Text.digits id.toNat)
        (Text.digits storage.number.toNat) (Text.signedDigits seconds))) =
      (fieldOr "viewdate" (ListEntry.watchedAt seconds)).map fun watched =>
        ⟨id, storage, watched.isSome, watched⟩ := by
  have hdigits : ∀ n, '|' ∉ Text.digits n := Text.not_mem_digits (by decide)
  have hsplit := own.split_around (hdigits id.toNat) (hdigits storage.number.toNat)
    (Text.not_mem_signedDigits (by decide) (by decide) seconds)
  generalize Text.join '|' (own.around (Text.digits id.toNat) (Text.digits storage.number.toNat)
    (Text.signedDigits seconds)) = line at hsplit
  have hid : HasId line id := ⟨_, by rw [hsplit]; rfl, Text.isUnsigned_digits _⟩
  have hstorage : HasStorage line storage := ⟨_, by rw [hsplit]; rfl, Text.isUnsigned_digits _⟩
  have hdate : HasField line 7 (Text.IsSigned seconds) :=
    ⟨_, by rw [hsplit]; rfl, Text.isSigned_signedDigits seconds⟩
  rw [ofListed_eq, id?_eq_some_iff.2 hid, storage?_eq_some_iff.2 hstorage,
    seconds?_eq_some_iff.2 ⟨hdate, hrange⟩, Option.bind_some]
  cases ListEntry.watchedAt seconds with
  | none => rfl
  | some watched => rfl

end ServerFields

/-! ## What a body says -/

/-- The body has a second line, which holds the number. -/
def BodyNumber (body : Text) (n : Nat) : Prop :=
  ∃ line, SecondLine body line ∧ HoldsNumber n line

/-- The bodies have the same second line, or have none. -/
def SameSecondLine (body body' : Text) : Prop :=
  ∀ line, SecondLine body line ↔ SecondLine body' line

/-- Requests that read the body of a reply with the code by its second line. -/
inductive ReadsSecondLine : Request → ReturnCode → Prop where
  | added (f : Filing) : ReadsSecondLine (add f) .myListEntryAdded
  | listed (f : Filing) : ReadsSecondLine (add f) .fileAlreadyInMyList
  | edited (f : Filing) : ReadsSecondLine (update f) .myListEntryEdited
  | port : ReadsSecondLine (ping true) .pong

/-- What the body of a reply with the code brings for the request. -/
inductive Brings (body : Text) : Request → ReturnCode → Option Payload → Prop where
  | added {f : Filing} {id : UInt64} (hid : BodyNumber body id.toNat) :
      Brings body (add f) .myListEntryAdded
        (some (.entry ⟨id, f.storage, f.watched, f.watchedDate⟩))
  | listed {f : Filing} {line : Text} {e : ListEntry} (hline : SecondLine body line)
      (hlists : Lists line e) : Brings body (add f) .fileAlreadyInMyList (some (.entry e))
  | edited {f : Filing} {n : UInt32} (hn : BodyNumber body n.toNat) :
      Brings body (update f) .myListEntryEdited (some (.count n))
  | editedOne {f : Filing} (hnone : ∀ line, ¬ SecondLine body line) :
      Brings body (update f) .myListEntryEdited (some (.count 1))
  | port {n : UInt16} (hn : BodyNumber body n.toNat) :
      Brings body (ping true) .pong (some (.port n))
  | noPort (hnone : ∀ line, ¬ SecondLine body line) : Brings body (ping true) .pong none

/-- The first field that is wrong in the body of a reply with the code. -/
inductive BodyFault (body : Text) : Request → ReturnCode → Text → Prop where
  | added {f : Filing} (hid : ∀ id : UInt64, ¬ BodyNumber body id.toNat) :
      BodyFault body (add f) .myListEntryAdded "lid"
  | noLine {f : Filing} (hnone : ∀ line, ¬ SecondLine body line) :
      BodyFault body (add f) .fileAlreadyInMyList "lid"
  | listed {f : Filing} {line field : Text} (hline : SecondLine body line)
      (hfault : LineFault line field) : BodyFault body (add f) .fileAlreadyInMyList field
  | edited {f : Filing} {line : Text} (hline : SecondLine body line)
      (hn : ∀ n : UInt32, ¬ HoldsNumber n.toNat line) :
      BodyFault body (update f) .myListEntryEdited "count"
  | port {line : Text} (hline : SecondLine body line)
      (hn : ∀ n : UInt16, ¬ HoldsNumber n.toNat line) : BodyFault body (ping true) .pong "port"

/-! ## Reading bodies -/

section Bodies

variable {today : Date} {f : Filing} {field : Text} {payload : Option Payload}

theorem bodyNumber_iff {α : Type} {read : Text → Option α} {toNat : α → Nat} {a : α}
    (hread : ∀ s, read s = some a ↔ Text.IsUnsigned (toNat a) s) :
    ((secondLine? body).bind fun line => read (Text.trim line)) = some a ↔
      BodyNumber body (toNat a) := by
  rw [Option.bind_eq_some_iff]
  simp only [secondLine?_eq_some_iff, hread, isUnsigned_trim_iff]
  rfl

/-- The number of a new entry is read from the second line. -/
theorem read_added :
    (add f).read today .myListEntryAdded body =
      (fieldOr "lid" ((secondLine? body).bind fun line => Text.u64? (Text.trim line))).map fun id =>
        some (.entry ⟨id, f.storage, f.watched, f.watchedDate⟩) := by
  unfold read
  cases secondLine? body with
  | none => rfl
  | some line =>
    show (fieldOr "lid" (ListEntry.ofAdded f line)).map _ = _
    unfold ListEntry.ofAdded
    rw [Option.bind_some]
    cases Text.u64? (Text.trim line) <;> rfl

/-- An entry that is on the list is read from the second line. -/
theorem read_listed :
    (add f).read today .fileAlreadyInMyList body =
      ((fieldOr "lid" (secondLine? body)).bind ListEntry.ofListed).map
        fun e => some (.entry e) := by
  unfold read
  cases secondLine? body with
  | none => rfl
  | some line => rfl

theorem listed_eq_ok_iff {e : ListEntry} :
    (fieldOr "lid" (secondLine? body)).bind ListEntry.ofListed = .ok e ↔
      ∃ line, SecondLine body line ∧ Lists line e := by
  simp only [← secondLine?_eq_some_iff, ← ofListed_eq_ok_iff]
  cases secondLine? body with
  | none => simp [fieldOr, Except.bind]
  | some line => simp [fieldOr, Except.bind]

theorem listed_eq_error_iff :
    (fieldOr "lid" (secondLine? body)).bind ListEntry.ofListed = .error field ↔
      (∀ line, ¬ SecondLine body line) ∧ field = "lid" ∨
        ∃ line, SecondLine body line ∧ LineFault line field := by
  simp only [← secondLine?_eq_some_iff, ← ofListed_eq_error_iff]
  cases secondLine? body with
  | none => simp [fieldOr, Except.bind, eq_comm]
  | some line => simp [fieldOr, Except.bind]

/-- The number of changed entries is read from the second line, and is one without such a line. -/
theorem read_edited :
    (update f).read today .myListEntryEdited body =
      (secondLine? body).elim (.ok (some (.count 1))) fun line =>
        (fieldOr "count" (Text.u32? (Text.trim line))).map fun n => some (.count n) := by
  unfold read
  cases secondLine? body with
  | none => rfl
  | some line => rfl

/-- The port is read from the second line, if there is one. -/
theorem read_pong :
    (ping true).read today .pong body =
      (secondLine? body).elim (.ok none) fun line =>
        (fieldOr "port" (Text.u16? (Text.trim line))).map fun n => some (.port n) := by
  unfold read
  cases secondLine? body with
  | none => rfl
  | some line => rfl

section Optional

variable {α : Type} {number? : Text → Option α} {toNat : α → Nat} {absent : Option Payload}
  {present : α → Option Payload} {fault : Text}

/-- A number that may be left out with its line is what the line holds, and nothing stands for it if
there is a line. -/
theorem optional_eq_ok_iff (hnumber : ∀ s a, number? s = some a ↔ Text.IsUnsigned (toNat a) s) :
    ((secondLine? body).elim (.ok absent) fun line =>
        (fieldOr field (number? (Text.trim line))).map present) = .ok payload ↔
      (∃ a, BodyNumber body (toNat a) ∧ payload = present a) ∨
        (∀ line, ¬ SecondLine body line) ∧ payload = absent := by
  unfold BodyNumber
  simp only [← secondLine?_eq_some_iff, ← isUnsigned_trim_iff, ← hnumber]
  cases secondLine? body with
  | none => simp [eq_comm]
  | some line => simp [map_eq_ok_iff, fieldOr_eq_ok_iff]

theorem optional_eq_error_iff (hnumber : ∀ s a, number? s = some a ↔ Text.IsUnsigned (toNat a) s) :
    ((secondLine? body).elim (.ok absent) fun line =>
        (fieldOr field (number? (Text.trim line))).map present) = .error fault ↔
      (∃ line, SecondLine body line ∧ ∀ a, ¬ HoldsNumber (toNat a) line) ∧ fault = field := by
  simp only [← secondLine?_eq_some_iff, ← isUnsigned_trim_iff, ← hnumber]
  cases secondLine? body with
  | none => simp
  | some line => simp [map_eq_error_iff, fieldOr_eq_error_iff, Option.eq_none_iff_forall_ne_some]

end Optional

/-! ## The grammar -/

variable {r : Request} {code : ReturnCode}

/-- What is read is what the body brings. -/
theorem read_eq_ok_iff (hreads : ReadsSecondLine r code) :
    r.read today code body = .ok payload ↔ Brings body r code payload := by
  cases hreads with
  | added f =>
    simp only [read_added, map_eq_ok_iff, fieldOr_eq_ok_iff,
      bodyNumber_iff fun _ => Text.u64?_eq_some_iff]
    constructor
    · rintro ⟨id, hid, rfl⟩
      exact .added hid
    · intro h
      cases h with
      | added hid => exact ⟨_, hid, rfl⟩
  | listed f =>
    simp only [read_listed, map_eq_ok_iff, listed_eq_ok_iff]
    constructor
    · rintro ⟨e, ⟨line, hline, hlists⟩, rfl⟩
      exact .listed hline hlists
    · intro h
      cases h with
      | listed hline hlists => exact ⟨_, ⟨_, hline, hlists⟩, rfl⟩
  | edited f =>
    rw [read_edited, optional_eq_ok_iff fun _ _ => Text.u32?_eq_some_iff]
    constructor
    · rintro (⟨n, hn, rfl⟩ | ⟨hnone, rfl⟩)
      · exact .edited hn
      · exact .editedOne hnone
    · intro h
      cases h with
      | edited hn => exact .inl ⟨_, hn, rfl⟩
      | editedOne hnone => exact .inr ⟨hnone, rfl⟩
  | port =>
    rw [read_pong, optional_eq_ok_iff fun _ _ => Text.u16?_eq_some_iff]
    constructor
    · rintro (⟨n, hn, rfl⟩ | ⟨hnone, rfl⟩)
      · exact .port hn
      · exact .noPort hnone
    · intro h
      cases h with
      | port hn => exact .inl ⟨_, hn, rfl⟩
      | noPort hnone => exact .inr ⟨hnone, rfl⟩

/-- The field that is named is the first one that is wrong. -/
theorem read_eq_error_iff (hreads : ReadsSecondLine r code) :
    r.read today code body = .error field ↔ BodyFault body r code field := by
  cases hreads with
  | added f =>
    simp only [read_added, map_eq_error_iff, fieldOr_eq_error_iff,
      eq_none_iff_of_some_iff fun _ => bodyNumber_iff fun _ => Text.u64?_eq_some_iff]
    constructor
    · rintro ⟨hid, rfl⟩
      exact .added hid
    · intro h
      cases h with
      | added hid => exact ⟨hid, rfl⟩
  | listed f =>
    simp only [read_listed, map_eq_error_iff, listed_eq_error_iff]
    constructor
    · rintro (⟨hnone, rfl⟩ | ⟨line, hline, hfault⟩)
      · exact .noLine hnone
      · exact .listed hline hfault
    · intro h
      cases h with
      | noLine hnone => exact .inl ⟨hnone, rfl⟩
      | listed hline hfault => exact .inr ⟨_, hline, hfault⟩
  | edited f =>
    rw [read_edited, optional_eq_error_iff fun _ _ => Text.u32?_eq_some_iff]
    constructor
    · rintro ⟨⟨line, hline, hn⟩, rfl⟩
      exact .edited hline hn
    · intro h
      cases h with
      | edited hline hn => exact ⟨⟨_, hline, hn⟩, rfl⟩
  | port =>
    rw [read_pong, optional_eq_error_iff fun _ _ => Text.u16?_eq_some_iff]
    constructor
    · rintro ⟨⟨line, hline, hn⟩, rfl⟩
      exact .port hline hn
    · intro h
      cases h with
      | port hline hn => exact ⟨⟨_, hline, hn⟩, rfl⟩

/-- A body is read by its second line. -/
theorem read_eq_of_sameSecondLine (hreads : ReadsSecondLine r code) {body' : Text}
    (hsame : SameSecondLine body body') :
    r.read today code body = r.read today code body' := by
  have hsecond : secondLine? body = secondLine? body' := by
    apply Option.ext
    intro line
    rw [secondLine?_eq_some_iff, secondLine?_eq_some_iff]
    exact hsame line
  cases hreads with
  | added f => rw [read_added, read_added, hsecond]
  | listed f => rw [read_listed, read_listed, hsecond]
  | edited f => rw [read_edited, read_edited, hsecond]
  | port => rw [read_pong, read_pong, hsecond]

/-- An entry that is on the list is read by the first eight fields of its line. -/
theorem ofListed_eq_of_take {line line' : Text}
    (hfields : (Text.split '|' line).take 8 = (Text.split '|' line').take 8) :
    ListEntry.ofListed line = ListEntry.ofListed line' := by
  have hfield : ∀ i < 8, (Wire.fields line)[i]? = (Wire.fields line')[i]? := by
    intro i hi
    unfold Wire.fields
    rw [List.getElem?_map, List.getElem?_map, show Wire.fieldSeparator = '|' from rfl,
      ← List.getElem?_take_of_lt hi, hfields, List.getElem?_take_of_lt hi]
  rw [ofListed_eq, ofListed_eq, hfield 0 (by decide), hfield 6 (by decide), hfield 7 (by decide)]

/-! ## Answers -/

/-- A reply with a code that the request takes is answered with what is read of its body. -/
theorem answer_eq_ok_iff (hcode : code ∈ r.accepted) {tag : Option Text} {answered : Answer} :
    r.answer today ⟨tag, code, body⟩ = .ok answered ↔
      ∃ payload, r.read today code body = .ok payload ∧ answered = ⟨code, payload⟩ := by
  unfold answer payload
  rw [if_pos hcode]
  cases r.read today code body with
  | error field => simp [Except.mapError, Except.map]
  | ok payload => simp [Except.mapError, Except.map, eq_comm (b := answered)]

/-- It is refused for the field that is wrong. -/
theorem answer_eq_error_iff (hcode : code ∈ r.accepted) {tag : Option Text} {e : Error} :
    r.answer today ⟨tag, code, body⟩ = .error e ↔
      ∃ field, r.read today code body = .error field ∧
        e = .malformedField r.command code field body := by
  unfold answer payload
  rw [if_pos hcode]
  cases r.read today code body with
  | error field => simp [Except.mapError, Except.map, eq_comm (b := e)]
  | ok payload => simp [Except.mapError, Except.map]

theorem ReadsSecondLine.mem_accepted (hreads : ReadsSecondLine r code) : code ∈ r.accepted := by
  cases hreads <;> simp [accepted]

/-- A request is answered with what the body brings, and refused for the first field of the body
that is wrong.  What follows the second line changes neither, and what follows the eighth field of
an entry that is on the list does not either. -/
theorem answer_iff_of_readsSecondLine (today : Date) (tag : Option Text) (body : Text)
    (hreads : ReadsSecondLine r code) :
    (∀ answered, r.answer today ⟨tag, code, body⟩ = .ok answered ↔
      ∃ payload, Brings body r code payload ∧ answered = ⟨code, payload⟩) ∧
    (∀ e, r.answer today ⟨tag, code, body⟩ = .error e ↔
      ∃ field, BodyFault body r code field ∧ e = .malformedField r.command code field body) ∧
    (∀ body', SameSecondLine body body' →
      r.read today code body = r.read today code body') ∧
    (code = .fileAlreadyInMyList → ∀ body' line line', SecondLine body line →
      SecondLine body' line' → (Text.split '|' line).take 8 = (Text.split '|' line').take 8 →
        r.read today code body = r.read today code body') := by
  refine ⟨?_, ?_, ?_, ?_⟩
  · intro answered
    simp only [answer_eq_ok_iff hreads.mem_accepted, read_eq_ok_iff hreads]
  · intro e
    simp only [answer_eq_error_iff hreads.mem_accepted, read_eq_error_iff hreads]
  · intro body' hsame
    exact read_eq_of_sameSecondLine hreads hsame
  · rintro rfl body' line line' hline hline' hfields
    cases hreads with
    | listed f =>
      rw [read_listed, read_listed, secondLine?_eq_some_iff.2 hline,
        secondLine?_eq_some_iff.2 hline']
      exact congrArg _ (ofListed_eq_of_take hfields)

end Bodies

/-- A line with more fields than are looked at is read as an entry; a count is refused for a letter
behind it, and not replaced. -/
theorem entry_answered_and_count_refused :
    ReadsSecondLine (add ⟨⟨1, "00"⟩, .internal, false, none⟩) .fileAlreadyInMyList ∧
    ReadsSecondLine (update ⟨⟨1, "00"⟩, .internal, false, none⟩) .myListEntryEdited ∧
    (add ⟨⟨1, "00"⟩, .internal, false, none⟩).answer ⟨2024, 2, 29⟩ ⟨some "7", .fileAlreadyInMyList,
        "FILE ALREADY IN MYLIST\r\n+12345|1|2|3|4|5|2|1700000000|&gt;|x\nmore"⟩ =
      .ok ⟨.fileAlreadyInMyList, some (.entry
        ⟨12345, .external, true, some { seconds := 1700000000, nanos := 0 }⟩)⟩ ∧
    (update ⟨⟨1, "00"⟩, .internal, false, none⟩).answer ⟨2024, 2, 29⟩
        ⟨none, .myListEntryEdited, "MYLIST ENTRY EDITED\n2x"⟩ =
      .error (.malformedField "MYLISTADD" .myListEntryEdited "count"
        "MYLIST ENTRY EDITED\n2x") := by
  have hlisted := ReadsSecondLine.listed ⟨⟨1, "00"⟩, .internal, false, none⟩
  have hedited := ReadsSecondLine.edited ⟨⟨1, "00"⟩, .internal, false, none⟩
  have hlisting : SecondLine
      "FILE ALREADY IN MYLIST\r\n+12345|1|2|3|4|5|2|1700000000|&gt;|x\nmore"
      "+12345|1|2|3|4|5|2|1700000000|&gt;|x" := secondLine?_eq_some_iff.1 rfl
  have hcount : SecondLine "MYLIST ENTRY EDITED\n2x" "2x" := secondLine?_eq_some_iff.1 rfl
  refine ⟨hlisted, hedited, ?_, ?_⟩
  · exact ((answer_iff_of_readsSecondLine _ _ _ hlisted).1 _).2
      ⟨_, .listed hlisting (ofListed_eq_ok_iff.1 rfl), rfl⟩
  · refine ((answer_iff_of_readsSecondLine _ _ _ hedited).2.1 _).2 ⟨_, .edited hcount ?_, rfl⟩
    intro n hn
    cases Text.u32?_eq_some_iff.2 (isUnsigned_trim_iff.2 hn)

end Request

end AnidbClient
