import AnidbClient.Error

/-!
# The state of the connection

    disconnected -> connecting -> authenticated <-> sending
                                  authenticated  -> loggingOut -> disconnected

A connection also falls back to `disconnected` when a login fails, when the session expires and
when the server ends it.  `Connection.canBecome` is the list of all steps.
-/

namespace AnidbClient

/-- How far the client has come with the server. -/
inductive Connection where
  /-- There is no session. -/
  | disconnected
  /-- A login is on its way. -/
  | connecting
  /-- There is a session with this key, and no command on its way. -/
  | authenticated (session : Text)
  /-- A command of the session with this key is on its way. -/
  | sending (session : Text)
  /-- A logout is on its way. -/
  | loggingOut
  deriving DecidableEq, Repr

namespace Connection

/-- The name of the state, without the key. -/
def name : Connection → Text
  | disconnected => "Disconnected"
  | connecting => "Connecting"
  | authenticated _ => "Authenticated"
  | sending _ => "Sending"
  | loggingOut => "LoggingOut"

/-- There is a session that commands can use. -/
def isAuthenticated : Connection → Bool
  | authenticated _ | sending _ => true
  | _ => false

/-- The key of the session that commands can use. -/
def session? : Connection → Option Text
  | authenticated key | sending key => some key
  | _ => none

/-- The steps a connection may take. -/
def canBecome : Connection → Connection → Bool
  | disconnected, connecting => true
  | connecting, authenticated _ => true
  | connecting, disconnected => true
  | authenticated _, sending _ => true
  | authenticated _, loggingOut => true
  | authenticated _, disconnected => true
  | sending _, authenticated _ => true
  | sending _, disconnected => true
  | loggingOut, disconnected => true
  | _, _ => false

/-- The target of a step, unless the step may not be taken. -/
def become (source target : Connection) : Except Error Connection :=
  if source.canBecome target then .ok target else .error (.invalidState source.name target.name)

end Connection

end AnidbClient
