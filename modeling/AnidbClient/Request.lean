import AnidbClient.Calendar
import AnidbClient.Error
import AnidbClient.MyList
import AnidbClient.Protocol
import AnidbClient.Secret

/-!
# Requests

The commands of the protocol that the client knows.  Each has a name, parameters in a fixed
order, the return codes that answer it, and three traits: whether it needs a session, whether it
may keep the short spacing for ever, and which parameters must not be shown.
-/

namespace AnidbClient

/-- What a login says. -/
structure AuthRequest where
  user : Text
  pass : Secret
  client : Text
  clientVersion : UInt32
  /-- The server shall tell the address it sees. -/
  nat : Bool
  mtu : Option UInt16
  deriving DecidableEq

/-- A command of the protocol. -/
inductive Request where
  | auth (login : AuthRequest)
  | logout
  /-- Asks for a sign of life, and for the port that the server sees if `nat` is set. -/
  | ping (nat : Bool)
  | calendar
  /-- Puts a file on the list. -/
  | add (filing : Filing)
  /-- Changes what the list says about a file. -/
  | update (filing : Filing)
  /-- Takes a file off the list. -/
  | remove (file : FileKey)
  deriving DecidableEq

/-- A named value of a command. -/
structure Parameter where
  key : Text
  value : Text
  deriving DecidableEq, Repr

namespace Request

/-- The name of the command. -/
def command : Request → Text
  | auth _ => "AUTH"
  | logout => "LOGOUT"
  | ping _ => "PING"
  | calendar => "CALENDAR"
  | add _ | update _ => "MYLISTADD"
  | remove _ => "MYLISTDEL"

/-- The return codes that the command takes. -/
def accepted : Request → List ReturnCode
  | auth _ => [.loginAccepted, .loginAcceptedNewVersion]
  | logout => [.loggedOut, .notLoggedIn]
  | ping _ => [.pong]
  | calendar => [.calendar, .calendarEmpty]
  | add _ => [.myListEntryAdded, .fileAlreadyInMyList]
  | update _ => [.myListEntryEdited, .noSuchMyListEntry]
  | remove _ => [.myListEntryDeleted, .noSuchMyListEntry, .noSuchFile]

/-- The command carries the key of a session. -/
def requiresSession : Request → Bool
  | auth _ | ping _ => false
  | _ => true

/-- The command keeps the short spacing however long the client has been active. -/
def keepsShortDelay : Request → Bool
  | ping _ => true
  | _ => false

/-- The names of the parameters that must not be shown. -/
def sensitive : Request → List Text
  | auth _ => ["pass"]
  | _ => []

/-- The parameter that asks the server for the address it sees. -/
def natParameter (nat : Bool) : List Parameter :=
  if nat then [⟨"nat", "1"⟩] else []

/-- The parameters of a login. -/
def authParameters (a : AuthRequest) : List Parameter :=
  [⟨"user", a.user⟩, ⟨"pass", a.pass.reveal⟩, ⟨"protover", Text.digits Protocol.version⟩,
    ⟨"client", a.client⟩, ⟨"clientver", Text.digits a.clientVersion.toNat⟩] ++
    natParameter a.nat ++ [⟨"enc", "utf8"⟩] ++
    a.mtu.toList.map fun mtu => ⟨"mtu", Text.digits mtu.toNat⟩

/-- The parameters that address a file. -/
def fileParameters (f : FileKey) : List Parameter :=
  [⟨"size", Text.digits f.size.toNat⟩, ⟨"ed2k", f.ed2k⟩]

/-- The parameters of an entry of the list.  A date is sent for a watched file only. -/
def filingParameters (f : Filing) : List Parameter :=
  fileParameters f.file ++ [⟨"state", Text.digits f.storage.number.toNat⟩] ++
    if f.watched then
      ⟨"viewed", "1"⟩ ::
        f.watchedDate.toList.map fun date => ⟨"viewdate", Text.signedDigits date.seconds⟩
    else []

/-- The parameters of a command, in the order in which they are sent. -/
def parameters : Request → List Parameter
  | auth login => authParameters login
  | logout | calendar => []
  | ping nat => natParameter nat
  | add filing => filingParameters filing
  | update filing => filingParameters filing ++ [⟨"edit", "1"⟩]
  | remove file => fileParameters file

end Request

namespace AuthRequest

/-- A truth value, as it is shown to a developer. -/
def inspectedBool (b : Bool) : Text :=
  if b then "true" else "false"

/-- A number that may be missing, as it is shown to a developer. -/
def inspectedOption (n : Option Nat) : Text :=
  match n with
  | none => "None"
  | some n => "Some(" ++ Text.digits n ++ [')']

/-- How a login is shown to a developer.  The password is masked. -/
def inspected (a : AuthRequest) : Text :=
  "AuthRequest " ++ ['\x7b'] ++ " user: " ++ Text.quote a.user ++
    ", pass: " ++ Text.quote mask ++
    ", client: " ++ Text.quote a.client ++
    ", clientver: " ++ Text.digits a.clientVersion.toNat ++
    ", nat: " ++ inspectedBool a.nat ++
    ", mtu: " ++ inspectedOption (a.mtu.map (·.toNat)) ++ [' ', '\x7d']

end AuthRequest

end AnidbClient
