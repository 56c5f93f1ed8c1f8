import AnidbClient.Proofs.Request.Grammar
import AnidbClient.Proofs.Session.Provenance
import AnidbClient.Reply.Canned

/-!
# Canned replies are understood

What stands in for the server writes replies, and the client reads them, each by rules of its own.
Here the two meet: a canned reply is understood as what it was made from, whether or not it has a
tag in front and a line feed behind.

* A `datagram` is the text of a reply as it is sent.  `ofDatagram_datagram` says what is read of
  it: the tag, the code, and what follows the code without the line ends behind it.
* `Means` relates a text to what a request makes of it, and `means_payload` reduces that to the
  grammar of the code.
* One lemma for each kind of reply follows, and `canned_understood` puts them together.
-/

namespace AnidbClient

namespace Reply

open Text.Utf8 (Bytes)

/-! ## Datagrams -/

/-- A text that stands for this code: one token, which starts with a digit and is its number. -/
structure IsCode (token : Text) (code : ReturnCode) : Prop where
  one_token : token.any endsToken = false := by decide
  digit : startsWithDigit token = true := by decide
  number : (Text.u16? token).map ReturnCode.ofNumber = some code := by decide

/-- The bytes of a reply, with the tag of this number in front if there is one, and with a line feed
behind if it is `ended`. -/
def datagram (number? : Option Nat) (ended : Bool) (text : Text) : Bytes :=
  Text.Utf8.encode
    ((match number? with
      | some n => Handler.tagOf n ++ ' ' :: text
      | none => text) ++ if ended then ['\n'] else [])

variable {first body : Text} {code : ReturnCode}

theorem ofCode_of_isCode (hcode : IsCode first code) (tag : Option Text) (body : Text) :
    ofCode tag first body = .ok ⟨tag, code, body⟩ := by
  obtain ⟨n, hn, rfl⟩ := Option.map_eq_some_iff.1 hcode.number
  unfold ofCode
  rw [hn]

/-- A code and a blank in front of a text are read as the code of a reply. -/
theorem read_coded (hcode : IsCode first code) (body : Text) :
    read (first ++ ' ' :: body) = .ok ⟨none, code, body⟩ := by
  have hne : first ≠ [] := by
    rintro rfl
    cases hcode.digit
  unfold read
  rw [token_append (Text.eq_false_of_any hcode.one_token)]
  dsimp only
  rw [if_neg hne, hcode.digit, if_pos rfl]
  exact ofCode_of_isCode hcode none body

theorem read_tagged_coded (m : Nat) (hcode : IsCode first code) (body : Text) :
    read (Handler.tagOf m ++ ' ' :: (first ++ ' ' :: body)) =
      .ok ⟨some (Handler.tagOf m), code, body⟩ := by
  rw [read_tagged (Handler.isTag_tagOf m), token_append (Text.eq_false_of_any hcode.one_token)]
  exact ofCode_of_isCode hcode _ body

/-- A reply that is sent is read with its tag and its code, and without the line ends behind it. -/
theorem ofDatagram_datagram (hcode : IsCode first code) (number? : Option Nat) (ended : Bool)
    (body : Text) :
    ofDatagram (datagram number? ended (first ++ ' ' :: body)) =
      .ok ⟨number?.map Handler.tagOf, code, Text.trimRightWhen Wire.isLineEnd body⟩ := by
  have hend : Text.trimRightWhen Wire.isLineEnd (body ++ if ended then ['\n'] else []) =
      Text.trimRightWhen Wire.isLineEnd body := by
    cases ended with
    | true => exact Text.trimRightWhen_concat rfl body
    | false => exact congrArg _ (List.append_nil body)
  have htrim : ∀ front : Text, Text.trimRightWhen Wire.isLineEnd
      (front ++ ' ' :: (body ++ if ended then ['\n'] else [])) =
        front ++ ' ' :: Text.trimRightWhen Wire.isLineEnd body := by
    intro front
    rw [Text.trimRightWhen_append rfl, hend]
  unfold ofDatagram datagram
  cases number? with
  | none =>
    rw [Wire.unpack_encode (by simp), List.append_assoc, List.cons_append, htrim first]
    exact read_coded hcode _
  | some m =>
    have hassoc : Handler.tagOf m ++ ' ' :: (first ++ ' ' :: body) ++
        (if ended then ['\n'] else []) = (Handler.tagOf m ++ ' ' :: first) ++ ' ' ::
          (body ++ if ended then ['\n'] else []) := by
      simp
    dsimp only
    rw [Wire.unpack_encode (by simp), hassoc, htrim, List.append_assoc, List.cons_append]
    exact read_tagged_coded m hcode _

/-! ## What a request makes of a text -/

/-- However the text is sent as a reply, it is read with its tag, and this is what it means for the
request. -/
def Means (today : Date) (text : Text) (r : Request) (meaning : Except Error Answer) : Prop :=
  ∀ number? ended, ∃ reply, ofDatagram (datagram number? ended text) = .ok reply ∧
    reply.tag = number?.map Handler.tagOf ∧ r.answer today reply = meaning

variable {r : Request}

/-- The request reads what follows the code, if it takes the code. -/
theorem means_payload (today : Date) (hcode : IsCode first code) (haccepted : code ∈ r.accepted)
    (htrim : Text.trimRightWhen Wire.isLineEnd body = body) :
    Means today (first ++ ' ' :: body) r
      ((r.payload today code body).map fun payload => ⟨code, payload⟩) := by
  intro number? ended
  refine ⟨_, ofDatagram_datagram hcode number? ended body, rfl, ?_⟩
  rw [htrim]
  exact if_pos haccepted

theorem means_unexpected (today : Date) (hcode : IsCode first code) (hrefused : code ∉ r.accepted)
    (body : Text) :
    Means today (first ++ ' ' :: body) r
      (.error (.unexpectedResponse r.command code (Text.trimRightWhen Wire.isLineEnd body))) := by
  intro number? ended
  exact ⟨_, ofDatagram_datagram hcode number? ended body, rfl, if_neg hrefused⟩

/-! ## Lines -/

theorem isLineEnd_of_isLine {s : Text} (hs : Text.IsLine s) :
    ∀ c ∈ s, Wire.isLineEnd c = false := by
  intro c hc
  have hfeed : c ≠ '\n' := by
    rintro rfl
    exact hs.no_feed hc
  have hreturn : c ≠ '\r' := by
    rintro rfl
    exact hs.no_return hc
  simp [Wire.isLineEnd, hfeed, hreturn]

theorem trimRightWhen_line {s : Text} (hs : Text.IsLine s) :
    Text.trimRightWhen Wire.isLineEnd s = s :=
  Text.trimRightWhen_eq_self (isLineEnd_of_isLine hs)

/-- Nothing is taken off the end of a text whose last line is one. -/
theorem trimRightWhen_lines {parts : List Text} (hparts : ∀ part ∈ parts, Text.IsLine part)
    (hne : parts ≠ []) :
    Text.trimRightWhen Wire.isLineEnd (Text.join '\n' parts) = Text.join '\n' parts := by
  obtain ⟨front, last, rfl⟩ := (List.eq_nil_or_concat parts).resolve_left hne
  rw [List.concat_eq_append] at hparts ⊢
  have hlast : Text.IsLine last := hparts last (by simp)
  by_cases hfront : front = []
  · rw [hfront, List.nil_append, Text.join_singleton]
    exact trimRightWhen_line hlast
  · rw [Text.join_concat '\n' hfront, List.append_cons]
    exact Text.trimRightWhen_append_self hlast.ne_nil (isLineEnd_of_isLine hlast) _

/-! ## Logins -/

/-- A text that stands for itself between blanks. -/
structure IsWord (s : Text) : Prop where
  ne_nil : s ≠ []
  not_blank : ∀ c ∈ s, Text.isBlank c = false

theorem isWord_login : IsWord ("LOGIN" : Text) :=
  ⟨by decide, Text.eq_false_of_any (by decide)⟩

theorem isWord_accepted : IsWord ("ACCEPTED" : Text) :=
  ⟨by decide, Text.eq_false_of_any (by decide)⟩

theorem isLine_words {session : Text} {rest : List Text}
    (hwords : ∀ w ∈ session :: rest, IsWord w) : Text.IsLine (Text.join ' ' (session :: rest)) := by
  refine Text.isLine_join (by decide) (by decide) (hwords session List.mem_cons_self).ne_nil ?_
  intro w hw
  have hblank := (hwords w hw).not_blank
  constructor
  · intro hmem
    cases hblank _ hmem
  · intro hmem
    cases hblank _ hmem

/-- The first word is the key, and the second one the address if it looks like one. -/
theorem means_login (today : Date) (a : AuthRequest) {session second : Text} {rest : List Text}
    (hwords : ∀ w ∈ session :: second :: rest, IsWord w) (hsession : session ≠ ("LOGIN" : Text)) :
    Means today ("200" ++ ' ' :: Text.join ' ' (session :: second :: rest)) (.auth a)
      (.ok ⟨.loginAccepted, some (.login
        ⟨session, (some second).filter (·.contains ':'), false⟩)⟩) := by
  have hline := isLine_words hwords
  have hread : AuthResult.read .loginAccepted (Text.join ' ' (session :: second :: rest)) =
      .ok ⟨session, (some second).filter (·.contains ':'), false⟩ := by
    have hkey : (some session).filter (· ≠ ("LOGIN" : Text)) = some session :=
      if_pos (by simpa using hsession)
    unfold AuthResult.read
    rw [Text.firstLine_eq_self hline,
      Text.words_join (fun w hw => ⟨(hwords w hw).ne_nil, (hwords w hw).not_blank⟩) (by simp)]
    dsimp only
    rw [List.head?_cons, hkey]
    rfl
  have hcode : IsCode "200" .loginAccepted := {}
  have hmeans := means_payload (r := .auth a) today hcode List.mem_cons_self
    (trimRightWhen_line hline)
  have hpayload : (Request.auth a).payload today .loginAccepted
      (Text.join ' ' (session :: second :: rest)) =
        .ok (some (.login ⟨session, (some second).filter (·.contains ':'), false⟩)) := by
    simp only [Request.payload, Request.read, hread]
    rfl
  rw [hpayload] at hmeans
  exact hmeans

theorem means_loginAccepted (today : Date) (a : AuthRequest) {session : Text}
    (hword : IsWord session) (hsession : session ≠ ("LOGIN" : Text)) :
    Means today (Canned.loginAccepted session) (.auth a)
      (.ok ⟨.loginAccepted, some (.login ⟨session, none, false⟩)⟩) := by
  have htext : Canned.loginAccepted session =
      ("200" : Text) ++ ' ' :: Text.join ' ' [session, "LOGIN", "ACCEPTED"] := by
    rfl
  rw [htext]
  refine means_login today a ?_ hsession
  exact List.forall_mem_cons.2 ⟨hword, List.forall_mem_cons.2
    ⟨isWord_login, List.forall_mem_singleton.2 isWord_accepted⟩⟩

theorem means_loginAcceptedNat (today : Date) (a : AuthRequest) {session address : Text}
    (hword : IsWord session) (hsession : session ≠ ("LOGIN" : Text)) (haddress : IsWord address)
    (hcolon : ':' ∈ address) :
    Means today (Canned.loginAcceptedNat session address) (.auth a)
      (.ok ⟨.loginAccepted, some (.login ⟨session, some address, false⟩)⟩) := by
  have htext : Canned.loginAcceptedNat session address =
      ("200" : Text) ++ ' ' :: Text.join ' ' [session, address, "LOGIN", "ACCEPTED"] := by
    unfold Canned.loginAcceptedNat
    rw [Text.join_cons_eq_flatMap]
    simp
  have hfound : (some address).filter (·.contains ':') = some address :=
    if_pos (by simpa using hcolon)
  rw [htext, ← hfound]
  refine means_login today a ?_ hsession
  exact List.forall_mem_cons.2 ⟨hword, List.forall_mem_cons.2 ⟨haddress, List.forall_mem_cons.2
    ⟨isWord_login, List.forall_mem_singleton.2 isWord_accepted⟩⟩⟩

/-! ## Entries of the list -/

theorem isLine_digits (n : Nat) : Text.IsLine (Text.digits n) where
  ne_nil := Text.digits_ne_nil n
  no_feed := Text.not_mem_digits (by decide) n
  no_return := Text.not_mem_digits (by decide) n

theorem isLine_signedDigits (i : Int) : Text.IsLine (Text.signedDigits i) where
  ne_nil := Text.signedDigits_ne_nil i
  no_feed := Text.not_mem_signedDigits (by decide) (by decide) i
  no_return := Text.not_mem_signedDigits (by decide) (by decide) i

/-- The line behind the status message is the second one. -/
theorem secondLine?_join {status line : Text} (hstatus : Text.IsLine status)
    (hline : Text.IsLine line) :
    Request.secondLine? (Text.join '\n' [status, line]) = some line := by
  unfold Request.secondLine?
  rw [Text.lines_join
    (List.forall_mem_cons.2 ⟨hstatus, List.forall_mem_singleton.2 hline⟩) (by simp)]
  rfl

/-- A filing makes an entry of the line behind the status message, or names the field that is
wrong. -/
theorem means_filing (today : Date) (f : Filing) (hcode : IsCode first code)
    (haccepted : code ∈ (Request.add f).accepted) {status line : Text}
    (hstatus : Text.IsLine status) (hline : Text.IsLine line) {entry : Except Text ListEntry}
    (hentry : (if code = .myListEntryAdded then fieldOr "lid" (ListEntry.ofAdded f line)
      else ListEntry.ofListed line) = entry) :
    Means today (first ++ ' ' :: Text.join '\n' [status, line]) (.add f)
      ((entry.map fun e => ⟨code, some (.entry e)⟩).mapError fun field =>
        .malformedField "MYLISTADD" code field (Text.join '\n' [status, line])) := by
  have htrim := trimRightWhen_lines
    (List.forall_mem_cons.2 ⟨hstatus, List.forall_mem_singleton.2 hline⟩) (by simp)
  have hmeans := means_payload today hcode haccepted htrim
  simp only [Request.payload, Request.read, secondLine?_join hstatus hline, hentry] at hmeans
  cases entry with
  | ok e => exact hmeans
  | error field => exact hmeans

theorem means_entryAdded (today : Date) (f : Filing) (id : UInt64) :
    Means today (Canned.entryAdded id) (.add f)
      (.ok ⟨.myListEntryAdded, some (.entry ⟨id, f.storage, f.watched, f.watchedDate⟩)⟩) := by
  have hadded : fieldOr "lid" (ListEntry.ofAdded f (Text.digits id.toNat)) =
      .ok ⟨id, f.storage, f.watched, f.watchedDate⟩ := by
    unfold ListEntry.ofAdded
    rw [Text.trim_eq_self (Text.eq_false_of_mem_digits (by decide) id.toNat), Text.u64?_digits]
    rfl
  have htext : ∀ line : Text, ("210 MYLIST ENTRY ADDED\n" : Text) ++ line =
      ("210" : Text) ++ ' ' :: Text.join '\n' ["MYLIST ENTRY ADDED", line] := by
    intro line
    simp [Text.join_cons_eq_flatMap]
  have hcode : IsCode "210" .myListEntryAdded := {}
  have hstatus : Text.IsLine ("MYLIST ENTRY ADDED" : Text) := ⟨by decide, by decide, by decide⟩
  unfold Canned.entryAdded
  rw [htext]
  exact means_filing today f hcode List.mem_cons_self hstatus (isLine_digits id.toNat)
    ((if_pos rfl).trans hadded)

/-- The fields of the line of an entry. -/
def entryFields (id storage date : Text) : List Text :=
  [id, "1001", "2002", "3003", "4004", "1600000000", storage, date, "shelf", "web", [], "1"]

/-- What the canned lines say besides. -/
def cannedFields : Request.ServerFields where
  file := "1001"
  episode := "2002"
  anime := "3003"
  group := "4004"
  added := "1600000000"
  more := ["shelf", "web", [], "1"]
  no_bar := by decide

/-- What is read of the line of an entry, by the date in it. -/
theorem ofListed_entry (id : UInt64) {number : UInt8} {storage : Storage}
    (hstorage : Storage.ofNumber? number = some storage) (date : Int64) :
    ListEntry.ofListed (Text.join '|' (entryFields (Text.digits id.toNat)
        (Text.digits number.toNat) (Text.signedDigits date.toInt))) =
      (fieldOr "viewdate" (ListEntry.watchedAt date.toInt)).map fun watched =>
        ⟨id, storage, watched.isSome, watched⟩ := by
  obtain rfl := Storage.ofNumber?_eq_some_iff.1 hstorage
  exact cannedFields.ofListed_around id storage ⟨date.le_toInt, date.toInt_lt⟩

theorem isLine_entry {id storage date : Text} (hid : Text.IsLine id)
    (hstorage : Text.IsLine storage) (hdate : Text.IsLine date) :
    Text.IsLine (Text.join '|' (entryFields id storage date)) := by
  refine Text.isLine_join (by decide) (by decide) hid.ne_nil ?_
  simp [hid.no_feed, hid.no_return, hstorage.no_feed, hstorage.no_return, hdate.no_feed,
    hdate.no_return]

/-- What is understood of an entry that is on the list, by the date in it. -/
theorem means_alreadyListed (today : Date) (f : Filing) (id : UInt64) {number : UInt8}
    {storage : Storage} (hstorage : Storage.ofNumber? number = some storage) (date : Int64) :
    Means today (Canned.alreadyListed id number date.toInt) (.add f)
      (match ListEntry.watchedAt date.toInt with
        | some watched => .ok ⟨.fileAlreadyInMyList,
            some (.entry ⟨id, storage, watched.isSome, watched⟩)⟩
        | none => .error (.malformedField "MYLISTADD" .fileAlreadyInMyList "viewdate"
            ((Canned.alreadyListed id number date.toInt).drop 4))) := by
  have htext : ∀ a b c : Text, ("310 FILE ALREADY IN MYLIST\n" : Text) ++ a ++
      ("|1001|2002|3003|4004|1600000000|" : Text) ++ b ++ '|' :: c ++ ("|shelf|web||1" : Text) =
        ("310" : Text) ++ ' ' ::
          Text.join '\n' ["FILE ALREADY IN MYLIST", Text.join '|' (entryFields a b c)] := by
    intro a b c
    simp [Text.join_cons_eq_flatMap, entryFields]
  have hcode : IsCode "310" .fileAlreadyInMyList := {}
  have hstatus : Text.IsLine ("FILE ALREADY IN MYLIST" : Text) := ⟨by decide, by decide, by decide⟩
  have hline := isLine_entry (isLine_digits id.toNat) (isLine_digits number.toNat)
    (isLine_signedDigits date.toInt)
  have hmeans := means_filing today f hcode (by simp [Request.accepted]) hstatus hline
    ((if_neg (by decide)).trans (ofListed_entry id hstorage date))
  unfold Canned.alreadyListed
  rw [htext]
  cases hwatched : ListEntry.watchedAt date.toInt with
  | some watched =>
    rw [hwatched] at hmeans
    exact hmeans
  | none =>
    rw [hwatched] at hmeans
    exact hmeans

/-- A date up to the end of the calendar is kept if it is positive, and says that the file was
watched. -/
theorem exists_watchedAt {seconds : Int} (hseconds : seconds ≤ latestMoment) :
    ∃ watched : Option Moment, ListEntry.watchedAt seconds = some watched ∧
      watched.map Moment.parts = (if 0 < seconds then some (seconds, 0) else none) ∧
        watched.isSome = decide (0 < seconds) := by
  obtain ⟨watched, hwatched⟩ := Request.exists_watched fun _ => hseconds
  exact ⟨watched, ListEntry.watchedAt_eq_some_iff.2 ⟨fun _ => hseconds, hwatched⟩, hwatched,
    Request.isSome_of_map_parts hwatched⟩

theorem watchedAt_of_latest_lt {seconds : Int} (hseconds : latestMoment < seconds) :
    ListEntry.watchedAt seconds = none := by
  rw [eq_none_iff_of_some_iff fun _ => ListEntry.watchedAt_eq_some_iff]
  rintro watched ⟨hlatest, -⟩
  unfold latestMoment at hseconds hlatest
  omega

theorem means_alreadyListed_of_le (today : Date) (f : Filing) (id : UInt64) (storage : Storage)
    {date : Int64} (hdate : date.toInt ≤ latestMoment) :
    ∃ watched : Option Moment,
      watched.map Moment.parts = (if 0 < date.toInt then some (date.toInt, 0) else none) ∧
        Means today (Canned.alreadyListed id storage.number date.toInt) (.add f)
          (.ok ⟨.fileAlreadyInMyList,
            some (.entry ⟨id, storage, decide (0 < date.toInt), watched⟩)⟩) := by
  obtain ⟨watched, hread, hseconds, hsome⟩ := exists_watchedAt hdate
  have hmeans := means_alreadyListed today f id storage.ofNumber?_number date
  rw [hread] at hmeans
  dsimp only at hmeans
  rw [hsome] at hmeans
  exact ⟨watched, hseconds, hmeans⟩

theorem means_alreadyListed_of_lt (today : Date) (f : Filing) (id : UInt64) (storage : Storage)
    {date : Int64} (hdate : latestMoment < date.toInt) :
    Means today (Canned.alreadyListed id storage.number date.toInt) (.add f)
      (.error (.malformedField "MYLISTADD" .fileAlreadyInMyList "viewdate"
        ((Canned.alreadyListed id storage.number date.toInt).drop 4))) := by
  have hmeans := means_alreadyListed today f id storage.ofNumber?_number date
  rw [watchedAt_of_latest_lt hdate] at hmeans
  exact hmeans

/-! ## Calendars -/

/-- The entry that a line of a calendar stands for. -/
def lineEntry (line : UInt32 × Int64 × UInt8) : CalendarEntry :=
  ⟨line.1, CalendarEntry.startOf line.2.1.toInt, ⟨line.2.2⟩⟩

/-- The text of that line. -/
def lineText (line : UInt32 × Int64 × UInt8) : Text :=
  Canned.calendarLine line.1 line.2.1.toInt line.2.2

/-- The start of an entry is the moment of its seconds, and zero stands for none. -/
theorem lineEntry_start_eq_some_iff (line : UInt32 × Int64 × UInt8) (m : Moment) :
    (lineEntry line).start = some m ↔ line.2.1.toInt ≠ 0 ∧ m.parts = (line.2.1.toInt, 0) := by
  show CalendarEntry.startOf line.2.1.toInt = some m ↔ _
  unfold CalendarEntry.startOf
  by_cases hzero : line.2.1.toInt = 0
  · simp [hzero]
  · rw [if_neg hzero, Moment.ofSeconds?_eq_some_iff]
    simp [hzero]

theorem lineText_eq_join (line : UInt32 × Int64 × UInt8) :
    lineText line = Text.join '|' [Text.digits line.1.toNat, Text.signedDigits line.2.1.toInt,
      Text.digits line.2.2.toNat] := by
  have hjoin : ∀ a b c : Text, a ++ '|' :: b ++ '|' :: c = Text.join '|' [a, b, c] := by
    intro a b c
    simp [Text.join_cons_eq_flatMap]
  exact hjoin _ _ _

theorem isLine_lineText (line : UInt32 × Int64 × UInt8) : Text.IsLine (lineText line) := by
  have hanime := isLine_digits line.1.toNat
  have hstart := isLine_signedDigits line.2.1.toInt
  have hflags := isLine_digits line.2.2.toNat
  rw [lineText_eq_join]
  refine Text.isLine_join (by decide) (by decide) hanime.ne_nil ?_
  simp [hanime.no_feed, hanime.no_return, hstart.no_feed, hstart.no_return, hflags.no_feed,
    hflags.no_return]

theorem ofLine?_lineText (line : UInt32 × Int64 × UInt8) :
    CalendarEntry.ofLine? (lineText line) = some (lineEntry line) := by
  have hsplit : Text.split '|' (lineText line) = [Text.digits line.1.toNat,
      Text.signedDigits line.2.1.toInt, Text.digits line.2.2.toNat] := by
    rw [lineText_eq_join]
    refine Text.split_join ?_ (by simp)
    intro part hpart
    simp only [List.mem_cons, List.not_mem_nil, or_false] at hpart
    rcases hpart with rfl | rfl | rfl
    · exact Text.not_mem_digits (by decide) _
    · exact Text.not_mem_signedDigits (by decide) (by decide) _
    · exact Text.not_mem_digits (by decide) _
  unfold CalendarEntry.ofLine?
  rw [hsplit]
  dsimp only
  rw [Text.u32?_digits, Text.i64?_signedDigits, Text.u8?_digits]
  rfl

/-- The status message and the lines of the entries. -/
theorem isLine_calendar (lines : List (UInt32 × Int64 × UInt8)) :
    ∀ part ∈ ("CALENDAR" : Text) :: lines.map lineText, Text.IsLine part := by
  refine List.forall_mem_cons.2 ⟨⟨by decide, by decide, by decide⟩, ?_⟩
  rw [List.forall_mem_map]
  exact fun line _ => isLine_lineText line

/-- The status message is no entry, and every other line is one. -/
theorem entries_lineTexts (lines : List (UInt32 × Int64 × UInt8)) :
    Calendar.entries (Text.join '\n' ("CALENDAR" :: lines.map lineText)) =
      lines.map lineEntry := by
  have hstatus : CalendarEntry.ofLine? "CALENDAR" = none := by decide
  have hread : CalendarEntry.ofLine? ∘ lineText = some ∘ lineEntry := funext ofLine?_lineText
  unfold Calendar.entries
  rw [Text.lines_join (isLine_calendar lines) (by simp), List.filterMap_cons_none hstatus,
    List.filterMap_map, hread]
  exact congrFun List.filterMap_eq_map lines

theorem means_calendar (today : Date) (lines : List (UInt32 × Int64 × UInt8)) :
    Means today (Canned.calendar (lines.map fun line => (line.1, line.2.1.toInt, line.2.2)))
      .calendar
      (.ok ⟨.calendar, some (.calendar
        ⟨(lines.map lineEntry).filter (·.hasAired today),
          (lines.map lineEntry).filter (!·.hasAired today)⟩)⟩) := by
  have htext : Canned.calendar (lines.map fun line => (line.1, line.2.1.toInt, line.2.2)) =
      ("297" : Text) ++ ' ' :: Text.join '\n' ("CALENDAR" :: lines.map lineText) := by
    unfold Canned.calendar
    rw [Text.join_cons_eq_flatMap, List.flatMap_map, List.flatMap_map]
    rfl
  have hcode : IsCode "297" .calendar := {}
  have htrim := trimRightWhen_lines (isLine_calendar lines) (by simp)
  have hmeans := means_payload (r := .calendar) today hcode List.mem_cons_self htrim
  rw [htext, ← entries_lineTexts]
  exact hmeans

/-! ## Bans -/

/-- No request takes the code of a ban. -/
theorem banned_not_mem_accepted (r : Request) : ReturnCode.banned ∉ r.accepted := by
  cases r <;> simp [Request.accepted]

theorem means_banned (today : Date) (reason : Text) (r : Request) :
    Means today (Canned.banned reason) r
      (.error (.unexpectedResponse r.command .banned
        (Text.trimRightWhen Wire.isLineEnd ("BANNED\n" ++ reason)))) := by
  have htext : Canned.banned reason = ("555" : Text) ++ ' ' :: ("BANNED\n" ++ reason) := rfl
  have hcode : IsCode "555" .banned := {}
  rw [htext]
  exact means_unexpected today hcode (banned_not_mem_accepted r) _

/-! ## All of them -/

/-- What every canned reply means for the requests that may get it. -/
structure Understood (today : Date) : Prop where
  /-- A login gets the key. -/
  loginAccepted : ∀ (a : AuthRequest) (session : Text), IsWord session →
    session ≠ ("LOGIN" : Text) →
      Means today (Canned.loginAccepted session) (.auth a)
        (.ok ⟨.loginAccepted, some (.login ⟨session, none, false⟩)⟩)
  /-- A login gets the key and the address. -/
  loginAcceptedNat : ∀ (a : AuthRequest) (session address : Text), IsWord session →
    session ≠ ("LOGIN" : Text) → IsWord address → ':' ∈ address →
      Means today (Canned.loginAcceptedNat session address) (.auth a)
        (.ok ⟨.loginAccepted, some (.login ⟨session, some address, false⟩)⟩)
  /-- A filing gets the number of the new entry, which says what was filed. -/
  entryAdded : ∀ (f : Filing) (id : UInt64),
    Means today (Canned.entryAdded id) (.add f)
      (.ok ⟨.myListEntryAdded, some (.entry ⟨id, f.storage, f.watched, f.watchedDate⟩)⟩)
  /-- A filing gets the entry that was on the list; it was watched if its date is positive. -/
  alreadyListed : ∀ (f : Filing) (id : UInt64) (storage : Storage) (date : Int64),
    date.toInt ≤ latestMoment → ∃ watched : Option Moment,
      watched.map Moment.parts = (if 0 < date.toInt then some (date.toInt, 0) else none) ∧
        Means today (Canned.alreadyListed id storage.number date.toInt) (.add f)
          (.ok ⟨.fileAlreadyInMyList,
            some (.entry ⟨id, storage, decide (0 < date.toInt), watched⟩)⟩)
  /-- No date is understood beyond the end of the calendar. -/
  alreadyListedBeyond : ∀ (f : Filing) (id : UInt64) (storage : Storage) (date : Int64),
    latestMoment < date.toInt →
      Means today (Canned.alreadyListed id storage.number date.toInt) (.add f)
        (.error (.malformedField "MYLISTADD" .fileAlreadyInMyList "viewdate"
          ((Canned.alreadyListed id storage.number date.toInt).drop 4)))
  /-- A calendar has an entry for every line, in the order of the lines on either side. -/
  calendar : ∀ lines : List (UInt32 × Int64 × UInt8),
    Means today (Canned.calendar (lines.map fun line => (line.1, line.2.1.toInt, line.2.2)))
      .calendar
      (.ok ⟨.calendar, some (.calendar
        ⟨(lines.map lineEntry).filter (·.hasAired today),
          (lines.map lineEntry).filter (!·.hasAired today)⟩)⟩)
  /-- The start of an entry is that of its line, unless that is zero or beyond the calendar. -/
  start : ∀ (line : UInt32 × Int64 × UInt8) (m : Moment),
    (lineEntry line).start = some m ↔ line.2.1.toInt ≠ 0 ∧ m.parts = (line.2.1.toInt, 0)
  /-- No request expects a ban, and the reason is told. -/
  banned : ∀ (r : Request) (reason : Text),
    Means today (Canned.banned reason) r
      (.error (.unexpectedResponse r.command .banned
        (Text.trimRightWhen Wire.isLineEnd ("BANNED\n" ++ reason))))

/-- Every canned reply is understood as what it was made from, on any day. -/
theorem canned_understood (today : Date) : Understood today where
  loginAccepted a _ hword hsession := means_loginAccepted today a hword hsession
  loginAcceptedNat a _ _ hword hsession haddress hcolon :=
    means_loginAcceptedNat today a hword hsession haddress hcolon
  entryAdded := means_entryAdded today
  alreadyListed f id storage _ hdate := means_alreadyListed_of_le today f id storage hdate
  alreadyListedBeyond f id storage _ hdate := means_alreadyListed_of_lt today f id storage hdate
  calendar := means_calendar today
  start := lineEntry_start_eq_some_iff
  banned r reason := means_banned today reason r

/-- The last date that is understood, and the first one that is not. -/
theorem understood_at_limits :
    (∃ watched : Option Moment, watched.map Moment.parts = some (8210266876799, 0) ∧
      Means ⟨2024, 6, 15⟩ (Canned.alreadyListed 18446744073709551615 4 8210266876799)
        (.add ⟨⟨1, "00"⟩, .unknown, false, none⟩)
        (.ok ⟨.fileAlreadyInMyList,
          some (.entry ⟨18446744073709551615, .remote, true, watched⟩)⟩)) ∧
    Means ⟨2024, 6, 15⟩ (Canned.alreadyListed 18446744073709551615 4 8210266876800)
      (.add ⟨⟨1, "00"⟩, .unknown, false, none⟩)
      (.error (.malformedField "MYLISTADD" .fileAlreadyInMyList "viewdate"
        ((Canned.alreadyListed 18446744073709551615 4 8210266876800).drop 4))) :=
  ⟨(canned_understood ⟨2024, 6, 15⟩).alreadyListed _ _ .remote 8210266876799 (by decide),
    (canned_understood ⟨2024, 6, 15⟩).alreadyListedBeyond _ _ .remote 8210266876800 (by decide)⟩

end Reply

end AnidbClient
