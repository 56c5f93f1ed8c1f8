import AnidbClient.Text.Numeral

/-!
# Return codes

Every reply of the server starts with a number.  The ones the client acts upon have a name, all
others keep their number.  `ofNumber` and `number` are inverse to each other on the sixteen-bit
numbers (`number_ofNumber`), and `category` says what a code means for the session.
-/

namespace AnidbClient

/-- The number in front of a reply. -/
inductive ReturnCode where
  | loginAccepted
  | loginAcceptedNewVersion
  | loggedOut
  | myListEntryAdded
  | myListEntryDeleted
  | calendar
  | pong
  | fileAlreadyInMyList
  | myListEntryEdited
  | noSuchFile
  | noSuchAnime
  | noSuchEpisode
  | calendarEmpty
  | notLoggedIn
  | noSuchMyListEntry
  | loginFailed
  | loginFirst
  | accessDenied
  | clientVersionOutdated
  | clientBanned
  | illegalInput
  | invalidSession
  | banned
  | unknownCommand
  | internalServerError
  | outOfService
  | serverBusy
  | timeout
  /-- A number without a name of its own. -/
  | other (number : UInt16)
  deriving DecidableEq, Repr

/-- What a return code means for the caller. -/
inductive Category where
  /-- The command was carried out. -/
  | success
  /-- The command was understood, and there is nothing it applies to. -/
  | notFound
  /-- There is no session, or not this one any more. -/
  | sessionInvalid
  /-- The client or the account is banned. -/
  | banned
  /-- The server cannot answer now; the command may be sent again later. -/
  | retryable
  /-- The command will not succeed. -/
  | fatal
  /-- A code without a known meaning. -/
  | unknown
  deriving DecidableEq, Repr

namespace ReturnCode

/-- The code of a number. -/
def ofNumber (n : UInt16) : ReturnCode :=
  match n.toNat with
  | 200 => .loginAccepted
  | 201 => .loginAcceptedNewVersion
  | 203 => .loggedOut
  | 210 => .myListEntryAdded
  | 211 => .myListEntryDeleted
  | 297 => .calendar
  | 300 => .pong
  | 310 => .fileAlreadyInMyList
  | 311 => .myListEntryEdited
  | 320 => .noSuchFile
  | 330 => .noSuchAnime
  | 340 => .noSuchEpisode
  | 397 => .calendarEmpty
  | 403 => .notLoggedIn
  | 411 => .noSuchMyListEntry
  | 500 => .loginFailed
  | 501 => .loginFirst
  | 502 => .accessDenied
  | 503 => .clientVersionOutdated
  | 504 => .clientBanned
  | 505 => .illegalInput
  | 506 => .invalidSession
  | 555 => .banned
  | 598 => .unknownCommand
  | 600 => .internalServerError
  | 601 => .outOfService
  | 602 => .serverBusy
  | 604 => .timeout
  | _ => .other n

/-- The number of a code. -/
def number : ReturnCode → UInt16
  | .loginAccepted => 200
  | .loginAcceptedNewVersion => 201
  | .loggedOut => 203
  | .myListEntryAdded => 210
  | .myListEntryDeleted => 211
  | .calendar => 297
  | .pong => 300
  | .fileAlreadyInMyList => 310
  | .myListEntryEdited => 311
  | .noSuchFile => 320
  | .noSuchAnime => 330
  | .noSuchEpisode => 340
  | .calendarEmpty => 397
  | .notLoggedIn => 403
  | .noSuchMyListEntry => 411
  | .loginFailed => 500
  | .loginFirst => 501
  | .accessDenied => 502
  | .clientVersionOutdated => 503
  | .clientBanned => 504
  | .illegalInput => 505
  | .invalidSession => 506
  | .banned => 555
  | .unknownCommand => 598
  | .internalServerError => 600
  | .outOfService => 601
  | .serverBusy => 602
  | .timeout => 604
  | .other n => n

/-- The server's words for a code. -/
def description : ReturnCode → Text
  | .loginAccepted => "LOGIN ACCEPTED"
  | .loginAcceptedNewVersion => "LOGIN ACCEPTED - NEW VERSION AVAILABLE"
  | .loggedOut => "LOGGED OUT"
  | .myListEntryAdded => "MYLIST ENTRY ADDED"
  | .myListEntryDeleted => "MYLIST ENTRY DELETED"
  | .calendar => "CALENDAR"
  | .pong => "PONG"
  | .fileAlreadyInMyList => "FILE ALREADY IN MYLIST"
  | .myListEntryEdited => "MYLIST ENTRY EDITED"
  | .noSuchFile => "NO SUCH FILE"
  | .noSuchAnime => "NO SUCH ANIME"
  | .noSuchEpisode => "NO SUCH EPISODE"
  | .calendarEmpty => "CALENDAR EMPTY"
  | .notLoggedIn => "NOT LOGGED IN"
  | .noSuchMyListEntry => "NO SUCH MYLIST ENTRY"
  | .loginFailed => "LOGIN FAILED"
  | .loginFirst => "LOGIN FIRST"
  | .accessDenied => "ACCESS DENIED"
  | .clientVersionOutdated => "CLIENT VERSION OUTDATED"
  | .clientBanned => "CLIENT BANNED"
  | .illegalInput => "ILLEGAL INPUT OR ACCESS DENIED"
  | .invalidSession => "INVALID SESSION"
  | .banned => "BANNED"
  | .unknownCommand => "UNKNOWN COMMAND"
  | .internalServerError => "INTERNAL SERVER ERROR"
  | .outOfService => "ANIDB OUT OF SERVICE"
  | .serverBusy => "SERVER BUSY"
  | .timeout => "TIMEOUT - DELAY AND RESUBMIT"
  | .other _ => "UNKNOWN RESPONSE CODE"

/-- What a code means.  Numbers without a name count by their hundreds. -/
def category : ReturnCode → Category
  | .loginAccepted | .loginAcceptedNewVersion | .loggedOut | .myListEntryAdded
  | .myListEntryDeleted | .calendar | .pong | .fileAlreadyInMyList | .myListEntryEdited => .success
  | .noSuchFile | .noSuchAnime | .noSuchEpisode | .calendarEmpty | .noSuchMyListEntry => .notFound
  | .notLoggedIn | .loginFirst | .invalidSession => .sessionInvalid
  | .clientBanned | .banned => .banned
  | .internalServerError | .outOfService | .serverBusy | .timeout => .retryable
  | .loginFailed | .accessDenied | .clientVersionOutdated | .illegalInput | .unknownCommand =>
    .fatal
  | .other n =>
    if 500 ≤ n ∧ n ≤ 599 then .fatal
    else if 600 ≤ n ∧ n ≤ 699 then .retryable
    else .unknown

/-- The number and the server's words. -/
def text (c : ReturnCode) : Text :=
  Text.digits c.number.toNat ++ ' ' :: c.description

/-- The session cannot be used any more. -/
def isSessionInvalid (c : ReturnCode) : Bool :=
  c.category = .sessionInvalid

/-- The client or the account is banned. -/
def isBanned (c : ReturnCode) : Bool :=
  c.category = .banned

/-- The server cannot answer now. -/
def isRetryable (c : ReturnCode) : Bool :=
  c.category = .retryable

theorem number_ofNumber (n : UInt16) : (ofNumber n).number = n := by
  rw [← UInt16.toNat_inj]
  unfold ofNumber
  split <;> simp_all [number]

end ReturnCode

end AnidbClient
