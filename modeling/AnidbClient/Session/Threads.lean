import AnidbClient.Session.Handler

/-!
# Callers on several threads

Where all callers take turns on one thread, nobody comes between the look of a caller that is let
in and the step that it takes; this is how `Handler.service` has it.  The session is locked for
either of them alone, though, and newcomers look at it without waiting for their turn.  On several
threads a newcomer can come in between and find that the session has expired, and then the step is
taken from another state than the one that was looked at.

`Handler.threads` is the service with the two apart: a caller that has looked is inside already,
and takes its step when it goes on.  Later changes are not taken apart.  Newcomers leave a login
and a logout on their way alone, and a command of the session asks for no further step.
-/

namespace AnidbClient

/-- How far a caller has come that was let in. -/
inductive Within where
  /-- It has looked, and was told this key if it looked for one. -/
  | looked (call : Call) (key : Option Text)
  /-- Its command is on its way. -/
  | waiting (p : Pending)
  deriving DecidableEq

namespace Handler

/-- What callers on several threads do with a handler.  No caller is called away between its look
and its step; here it may be, and changes nothing. -/
def threads (c : Client) : Service Handler Call Within (Except Error Success) where
  clock := c.clock
  keepsShort call := (call.request c).keepsShortDelay
  arrive := arrive c
  enter now call h :=
    match h.look c now call with
    | (h, .error e) => (h, .leaving (.error e))
    | (h, .ok key) => (h, .staying (.looked call key))
  resume now stay h :=
    match stay with
    | .looked call key => Turn.rename .waiting (setOut c now call (h.take c call key))
    | .waiting p => Turn.rename .waiting (h.resume c now p)
  abandon _ stay h :=
    match stay with
    | .looked .. => h
    | .waiting p => h.abandon p
  due stay h :=
    match stay with
    | .looked .. => 0
    | .waiting p => due p h
  stock h := h.network.stock

end Handler

end AnidbClient
