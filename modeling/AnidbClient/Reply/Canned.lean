import AnidbClient.Calendar
import AnidbClient.Text.Numeral

/-!
# Canned replies

The texts of replies, without a tag, as a stand-in for the server sends them.
-/

namespace AnidbClient.Reply.Canned

/-- A login was accepted and the session has this key. -/
def loginAccepted (session : Text) : Text :=
  "200 " ++ session ++ " LOGIN ACCEPTED"

/-- A login was accepted, and the server tells the address it sees. -/
def loginAcceptedNat (session address : Text) : Text :=
  "200 " ++ session ++ ' ' :: address ++ " LOGIN ACCEPTED"

def loginFailed : Text := "500 LOGIN FAILED"

def loggedOut : Text := "203 LOGGED OUT"

def pong : Text := "300 PONG"

/-- The client is banned, for a reason. -/
def banned (reason : Text) : Text :=
  "555 BANNED\n" ++ reason

def invalidSession : Text := "506 INVALID SESSION"

def serverBusy : Text := "602 SERVER BUSY"

/-- A new entry of the list has this number. -/
def entryAdded (id : UInt64) : Text :=
  "210 MYLIST ENTRY ADDED\n" ++ Text.digits id.toNat

/-- The file has been on the list as this entry; a date of zero says that it was not watched. -/
def alreadyListed (id : UInt64) (storage : UInt8) (date : Int) : Text :=
  "310 FILE ALREADY IN MYLIST\n" ++ Text.digits id.toNat ++
    "|1001|2002|3003|4004|1600000000|" ++ Text.digits storage.toNat ++
    '|' :: Text.signedDigits date ++ "|shelf|web||1"

def entryDeleted : Text := "211 MYLIST ENTRY DELETED\n1"

def noSuchEntry : Text := "411 NO SUCH MYLIST ENTRY"

def noSuchFile : Text := "320 NO SUCH FILE"

/-- One line of a calendar. -/
def calendarLine (anime : UInt32) (seconds : Int) (flags : UInt8) : Text :=
  Text.digits anime.toNat ++ '|' :: Text.signedDigits seconds ++ '|' :: Text.digits flags.toNat

/-- A calendar with a line for every entry. -/
def calendar (entries : List (UInt32 × Int × UInt8)) : Text :=
  "297 CALENDAR" ++
    entries.flatMap fun (anime, seconds, flags) => '\n' :: calendarLine anime seconds flags

def calendarEmpty : Text := "397 CALENDAR EMPTY"

end AnidbClient.Reply.Canned
