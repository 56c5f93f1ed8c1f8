import AnidbClient.Request.Answer
import AnidbClient.Request.Line
import AnidbClient.Session.Connection
import AnidbClient.Session.Exchange
import AnidbClient.Timeline

/-!
# The session handler

One `Handler` is shared by all callers: the state of the connection, the last sign of life of the
session, the tags given out and the network.  What its callers do with it is the service
`Handler.service` behind the turnstile, so one command at a time is on its way.

* A command of the session is turned away at once when there is no session, and once more when
  its turn has come; in between the session may have ended or another one begun.
* While it is on its way the connection is `sending`; afterwards it is as before, unless the
  reply ended the session.
* A login or logout that is called away leaves no session behind.

All callers take turns on one thread here.  `Handler.threads` is the service for several of them.
-/

namespace AnidbClient

/-- What does not change while a client runs. -/
structure Client where
  auth : AuthRequest
  /-- The clock by which callers sleep until their turn. -/
  clock : Clock
  /-- How long a reply is waited for. -/
  requestTimeout : Duration
  /-- After how long a silence the session counts as lost. -/
  sessionTimeout : Duration
  /-- The day on which calendars are split. -/
  today : Date

/-- What all callers share. -/
structure Handler where
  connection : Connection
  /-- When the server last said something, or the login succeeded. -/
  lastActivity : Option Instant
  /-- The number of the next tag. -/
  nextTag : Nat
  network : Network
  deriving DecidableEq

/-- What a caller asks for. -/
inductive Call where
  | login
  | logout
  /-- A sign of life, by the client's own settings. -/
  | ping
  | send (request : Request)
  deriving DecidableEq

/-- What a call brings when it succeeds. -/
inductive Success where
  | loggedIn (result : AuthResult)
  | loggedOut
  | pong (port : Option UInt16)
  | answered (answer : Answer)
  deriving DecidableEq

/-- A caller whose command is on its way. -/
structure Pending where
  call : Call
  /-- The key with which the connection is `sending` for this caller. -/
  held : Option Text
  tag : Text
  /-- When the wait for the reply is over. -/
  deadline : Instant
  deriving DecidableEq

namespace Call

/-- The command of a call. -/
def request (c : Client) : Call → Request
  | login => .auth c.auth
  | logout => .logout
  | ping => .ping c.auth.nat
  | send r => r

end Call

namespace Handler

/-- Nothing was sent yet. -/
def opened (server : Server) : Handler where
  connection := .disconnected
  lastActivity := none
  nextTag := 1
  network := .quiet server

/-! ## Changes of the session -/

/-- There is no session any more. -/
def disconnect (h : Handler) : Handler :=
  { h with connection := .disconnected, lastActivity := none }

/-- The server ended the session, if there was one. -/
def loseSession (h : Handler) : Handler :=
  if h.connection.isAuthenticated then h.disconnect else h

/-- A login or logout ends without having settled. -/
def unsettle (h : Handler) : Handler :=
  match h.connection with
  | .connecting | .loggingOut => h.disconnect
  | _ => h

/-- The command that held the connection with a key is over. -/
def release (held : Option Text) (h : Handler) : Handler :=
  match held, h.connection with
  | some key, .sending _ => { h with connection := .authenticated key }
  | _, _ => h

/-- How long the session has been silent. -/
def idle (now : Instant) (h : Handler) : Duration :=
  h.lastActivity.elim 0 (now - ·)

/-- The error of a session that was silent for too long. -/
def expired (idle : Duration) : Error :=
  .sessionInvalidated .loginFirst ("session expired after " ++ idle.text ++ " idle")

/-- Looks whether there is a session that a command can use.  One that was silent for too long
ends here. -/
def checkSession (c : Client) (now : Instant) (h : Handler) : Handler × Except Error Unit :=
  if !h.connection.isAuthenticated then (h, .error .notAuthenticated)
  else if c.sessionTimeout < h.idle now then (h.disconnect, .error (expired (h.idle now)))
  else (h, .ok ())

/-- Takes the connection for a command of the session, and tells the key. -/
def hold (h : Handler) : Handler × Except Error Text :=
  match h.connection with
  | .authenticated key =>
    match h.connection.become (.sending key) with
    | .error e => (h, .error e)
    | .ok next => ({ h with connection := next }, .ok key)
  | _ => (h, .error .notAuthenticated)

/-! ## One command and its reply -/

/-- Sends a command under a tag of its own, which is told. -/
def issue (now : Instant) (r : Request) (key : Option Text) (h : Handler) :
    Handler × Except Error Text :=
  let tag := 't' :: Text.digits h.nextTag
  let h := { h with nextTag := h.nextTag + 1 }
  let line := r.line key (some tag)
  match Wire.pack line with
  | .error e => (h, .error e)
  | .ok _ =>
    let (network, sent) := h.network.post now line tag
    ({ h with network := network }, sent.map fun () => tag)

/-- Reads what is due for a command on its way; nothing is told while the wait goes on. -/
def hear (c : Client) (now : Instant) (p : Pending) (h : Handler) :
    Handler × Option (Except Error Reply) :=
  let heard := listen p.tag now h.network.inbox
  let h := { h with
    network := { h.network with inbox := heard.rest }
    lastActivity := if heard.spoken then some now else h.lastActivity }
  (h, heard.verdict <|>
    if p.deadline ≤ now then some (.error (.timeout c.requestTimeout)) else none)

/-- Keeps back the codes that concern the session and not the command. -/
def screen (r : Request) (reply : Reply) (h : Handler) : Handler × Except Error Reply :=
  if reply.code ∈ r.accepted then (h, .ok reply)
  else
    match reply.code.category with
    | .sessionInvalid | .banned =>
      (h.loseSession, .error (.sessionInvalidated reply.code reply.message))
    | .retryable => (h, .error (.serverBusy reply.code))
    | _ => (h, .ok reply)

/-! ## The end of a call -/

/-- A login was refused for good when the code says that it will not succeed. -/
def refusal : Error → Error
  | .unexpectedResponse command code body =>
    if code.category = .fatal then .authenticationFailed code (Text.firstLine body)
    else .unexpectedResponse command code body
  | e => e

/-- The result of a login, from what was answered. -/
def loginResult (c : Client) (reply : Reply) : Except Error AuthResult :=
  ((Request.auth c.auth).answer c.today reply).bind fun a =>
    match a.payload with
    | some (.login result) => .ok result
    | _ => .error (.malformedField "AUTH" a.code "session" [])

/-- A login ends. -/
def finishLogin (c : Client) (now : Instant) (h : Handler) (r : Except Error Reply) :
    Handler × Except Error Success :=
  match r.bind (loginResult c) with
  | .error e => (h.disconnect, .error (refusal e))
  | .ok result =>
    match h.connection.become (.authenticated result.session) with
    | .error e => (h.unsettle, .error e)
    | .ok next =>
      ({ h with connection := next, lastActivity := some now }, .ok (.loggedIn result))

/-- A logout ends.  Where the server knew of no session, it is as good as logged out. -/
def finishLogout (c : Client) (h : Handler) (r : Except Error Reply) :
    Handler × Except Error Success :=
  (h.disconnect,
    match r.bind (Request.logout.answer c.today) with
    | .ok _ => .ok .loggedOut
    | .error e =>
      match e with
      | .sessionInvalidated .. => if e.isBan then .error e else .ok .loggedOut
      | _ => .error e)

/-- The port told in an answer. -/
def portOf (a : Answer) : Option UInt16 :=
  match a.payload with
  | some (.port n) => some n
  | _ => none

/-- What an answer is to the caller. -/
def success (call : Call) (a : Answer) : Success :=
  match call with
  | .ping => .pong (portOf a)
  | _ => .answered a

/-- A call ends, with the reply to its command or the error that came instead. -/
def conclude (c : Client) (now : Instant) (call : Call) (held : Option Text) (h : Handler)
    (r : Except Error Reply) : Handler × Except Error Success :=
  let request := call.request c
  let (h, r) : Handler × Except Error Reply :=
    match r with
    | .ok reply => h.screen request reply
    | .error e => (h, .error e)
  match call with
  | .login => finishLogin c now h r
  | .logout => finishLogout c h r
  | .ping | .send _ =>
    (h.release held, (r.bind (request.answer c.today)).map (success call))

/-! ## The service -/

/-- The caller whose command is on its way reads what is due. -/
def resume (c : Client) (now : Instant) (p : Pending) (h : Handler) :
    Handler × Turn Pending (Except Error Success) :=
  match h.hear c now p with
  | (h, none) => (h, .staying p)
  | (h, some r) =>
    let (h, result) := conclude c now p.call p.held h r
    (h, .leaving result)

/-- The caller sends its command and starts to wait for the reply. -/
def engage (c : Client) (now : Instant) (call : Call) (key held : Option Text) (h : Handler) :
    Handler × Turn Pending (Except Error Success) :=
  match h.issue now (call.request c) key with
  | (h, .error e) =>
    let (h, result) := conclude c now call held h (.error e)
    (h, .leaving result)
  | (h, .ok tag) => h.resume c now ⟨call, held, tag, now + c.requestTimeout⟩

/-- A caller whose turn has come looks for what it needs: a logout for the key of the session, and
a command of the session for one that it can use. -/
def look (c : Client) (now : Instant) (call : Call) (h : Handler) :
    Handler × Except Error (Option Text) :=
  match call with
  | .login => (h, .ok none)
  | .logout =>
    match h.connection.session? with
    | none => (h, .error .notAuthenticated)
    | some key => (h, .ok (some key))
  | .ping | .send _ =>
    if (call.request c).requiresSession then
      match h.checkSession c now with
      | (h, .error e) => (h, .error e)
      | (h, .ok ()) => (h, .ok none)
    else (h, .ok none)

/-- A caller that has looked takes its step of the connection.  It is told the key for its command
and the key with which it holds the connection. -/
def take (c : Client) (call : Call) (key : Option Text) (h : Handler) :
    Handler × Except Error (Option Text × Option Text) :=
  match call with
  | .login =>
    match h.connection.become .connecting with
    | .error e => (h, .error e)
    | .ok next => ({ h with connection := next }, .ok (none, none))
  | .logout =>
    match h.connection.become .loggingOut with
    | .error e => (h, .error e)
    | .ok next => ({ h with connection := next }, .ok (key, none))
  | .ping | .send _ =>
    if (call.request c).requiresSession then
      match h.hold with
      | (h, .error e) => (h, .error e)
      | (h, .ok key) => (h, .ok (some key, some key))
    else (h, .ok (none, none))

/-- A caller that met an error leaves with it; any other goes on to send. -/
def setOut (c : Client) (now : Instant) (call : Call) :
    Handler × Except Error (Option Text × Option Text) →
      Handler × Turn Pending (Except Error Success)
  | (h, .error e) => (h, .leaving (.error e))
  | (h, .ok (key, held)) => engage c now call key held h

/-- What a caller meets that is let in: it looks, and takes its step at once. -/
def meet (c : Client) (now : Instant) (call : Call) (h : Handler) :
    Handler × Except Error (Option Text × Option Text) :=
  match h.look c now call with
  | (h, .error e) => (h, .error e)
  | (h, .ok key) => h.take c call key

/-- The turn of a caller has come. -/
def enter (c : Client) (now : Instant) (call : Call) (h : Handler) :
    Handler × Turn Pending (Except Error Success) :=
  setOut c now call (h.meet c now call)

/-- A caller arrives.  Without a session its command is turned away. -/
def arrive (c : Client) (now : Instant) (call : Call) (h : Handler) :
    Handler × Option (Except Error Success) :=
  match call with
  | .login | .logout | .ping => (h, none)
  | .send r =>
    if r.requiresSession then
      match h.checkSession c now with
      | (h, .error e) => (h, some (.error e))
      | (h, .ok ()) => (h, none)
    else (h, none)

/-- A caller whose command is on its way is called away. -/
def abandon (p : Pending) (h : Handler) : Handler :=
  match p.call with
  | .login | .logout => h.unsettle
  | .ping | .send _ => h.release p.held

/-- When there is something to read for a caller, or its wait is over. -/
def due (p : Pending) (h : Handler) : Instant :=
  h.network.inbox.head?.elim p.deadline fun a => min a.due p.deadline

/-- What callers do with a handler. -/
def service (c : Client) : Service Handler Call Pending (Except Error Success) where
  clock := c.clock
  keepsShort call := (call.request c).keepsShortDelay
  arrive := arrive c
  enter := enter c
  resume := resume c
  abandon _ p h := h.abandon p
  due := due
  stock h := h.network.stock

end Handler

end AnidbClient
