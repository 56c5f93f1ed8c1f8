import AnidbClient.ReturnCode
import AnidbClient.Settings.Error
import AnidbClient.Text.Quoted
import AnidbClient.Text.Utf8
import AnidbClient.Time

/-!
# Failures of an operation

Everything that can go wrong between a call and its answer is one `Error`: the socket, the wait
for the reply, the reply itself, the session, or the call.  An error says what happened;
`message` is its wording and `kind` the policy for it.
-/

namespace AnidbClient

/-- Why a command line cannot be sent. -/
inductive EncodingFault where
  | emptyCommand
  | described (text : Text)
  deriving DecidableEq, Repr

/-- The wording of an encoding fault. -/
def EncodingFault.message : EncodingFault → Text
  | .emptyCommand => "Empty command"
  | .described text => text

/-- Why a datagram is no reply. -/
inductive DecodingFault where
  | emptyDatagram
  | notUtf8 (fault : Text.Utf8.Fault)
  | emptyReply
  /-- The token in the place of the return code is no number of sixteen bits. -/
  | badCode (token : Text)
  | described (text : Text)
  deriving DecidableEq, Repr

/-- The wording of a fault in UTF-8. -/
def Text.Utf8.Fault.message : Text.Utf8.Fault → Text
  | .broken width index =>
    "invalid utf-8 sequence of " ++ Text.digits width ++ " bytes from index " ++
      Text.digits index
  | .short index => "incomplete utf-8 byte sequence from index " ++ Text.digits index

/-- The wording of a decoding fault. -/
def DecodingFault.message : DecodingFault → Text
  | .emptyDatagram => "Empty datagram"
  | .notUtf8 fault => "Invalid UTF-8: " ++ fault.message
  | .emptyReply => "Empty response"
  | .badCode token => "Invalid response code: " ++ Text.quote token
  | .described text => text

/-- What went wrong in an operation. -/
inductive Error where
  /-- The socket failed, for the reason given by the system. -/
  | transport (reason : Text)
  /-- No reply came within the time allowed for it. -/
  | timeout (after : Duration)
  /-- The command does not take a reply with this code. -/
  | unexpectedResponse (command : Text) (code : ReturnCode) (body : Text)
  /-- The command takes the code, and a field that goes with it is missing or wrong. -/
  | malformedField (command : Text) (code : ReturnCode) (field body : Text)
  /-- The session is gone: expired, ended by the server, or the client is banned. -/
  | sessionInvalidated (code : ReturnCode) (reason : Text)
  /-- The server refused the login. -/
  | authenticationFailed (code : ReturnCode) (reason : Text)
  /-- The server cannot answer now. -/
  | serverBusy (code : ReturnCode)
  /-- A session command was called for without a session. -/
  | notAuthenticated
  /-- The connection cannot go from one state to the other. -/
  | invalidState (source target : Text)
  /-- The settings were refused before connecting. -/
  | invalidConfig (cause : SettingsError)
  /-- The request cannot be carried out as it stands. -/
  | invalidRequest (reason : Text)
  | encoding (fault : EncodingFault)
  | decoding (fault : DecodingFault)
  /-- The command line has more bytes than a packet holds. -/
  | packetTooLarge (size limit : Nat)
  deriving DecidableEq, Repr

/-- The coarse kinds of errors, one for each way to go on. -/
inductive ErrorKind where
  /-- The socket failed or stayed silent; try again, more slowly. -/
  | transport
  /-- The server cannot answer now; try again later. -/
  | serverBusy
  /-- The command does not understand the reply. -/
  | unexpectedResponse
  /-- The reply breaks the grammar of its code. -/
  | malformedField
  /-- Log in again before anything else. -/
  | sessionInvalidated
  /-- The login was refused. -/
  | authentication
  /-- The call was wrong. -/
  | usage
  deriving DecidableEq, Repr

namespace Error

/-- The wording of an error. -/
def message : Error → Text
  | transport reason => "Network I/O error: " ++ reason
  | timeout after => "No response after " ++ after.text
  | unexpectedResponse command code _ =>
    "Unexpected response to " ++ command ++ ": " ++ code.text
  | malformedField command code field _ =>
    "Malformed " ++ command ++ " response (" ++ code.text ++
      "): missing or invalid field '" ++ field ++ ['\'']
  | sessionInvalidated code reason =>
    "Session invalidated: " ++ code.text ++ ' ' :: reason
  | authenticationFailed code reason =>
    "Authentication failed: " ++ code.text ++ ' ' :: reason
  | serverBusy code => "AniDB server busy: " ++ code.text
  | notAuthenticated => "Not authenticated with AniDB"
  | invalidState source target =>
    "Invalid connection state transition: " ++ source ++ " -> " ++ target
  | invalidConfig cause => "Invalid client settings: " ++ cause.message
  | invalidRequest reason => "Invalid request: " ++ reason
  | encoding fault => "Encoding error: " ++ fault.message
  | decoding fault => "Decoding error: " ++ fault.message
  | packetTooLarge size limit =>
    "Packet size " ++ Text.digits size ++ " exceeds maximum " ++
      Text.digits limit

/-- The kind of an error. -/
def kind : Error → ErrorKind
  | transport _ | timeout _ | decoding _ => .transport
  | serverBusy _ => .serverBusy
  | unexpectedResponse .. => .unexpectedResponse
  | malformedField .. => .malformedField
  | sessionInvalidated .. => .sessionInvalidated
  | authenticationFailed .. => .authentication
  | notAuthenticated | invalidState .. | invalidConfig _ | invalidRequest _ | encoding _
  | packetTooLarge .. => .usage

/-- The same request may succeed when it is made again. -/
def isTransient (e : Error) : Bool :=
  e.kind = .transport || e.kind = .serverBusy

/-- The server said something that the command cannot use. -/
def isUnexpectedResponse (e : Error) : Bool :=
  e.kind = .unexpectedResponse || e.kind = .malformedField

/-- Nothing but a login will help. -/
def requiresReauth : Error → Bool
  | sessionInvalidated .. | notAuthenticated => true
  | _ => false

/-- The return code that the error came with. -/
def code? : Error → Option ReturnCode
  | unexpectedResponse _ code _ | malformedField _ code _ _ | sessionInvalidated code _
  | authenticationFailed code _ | serverBusy code => some code
  | _ => none

/-- The client or the account is banned; nothing may be sent any more. -/
def isBan : Error → Bool
  | sessionInvalidated code _ | authenticationFailed code _ => code.isBanned
  | _ => false

end Error

end AnidbClient
