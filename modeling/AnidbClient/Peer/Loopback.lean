import AnidbClient.Session.Host

/-!
# A server on the same machine

A server by rules and a client on one machine, as a rehearsal without the real server: first some
texts are sent as they are, then a client without any spacing does its errands.

There is a rehearsal only where the machine can reach itself.
-/

namespace AnidbClient

/-- What is rehearsed. -/
structure Rehearsal where
  client : Client
  rules : List (Text × Option Text)
  /-- The texts that are sent as they are. -/
  raw : List Text
  /-- What the client does after them. -/
  errands : List (List (Errand Call))

namespace Rehearsal

/-- No spacing at all. -/
def limits : Limits := ⟨0, 0, 0, 0⟩

/-- The seconds for which settings that point to such a server let a client wait. -/
def requestTimeoutSecs : Nat := 2

/-- A text as the server sees it, cut to what it can receive. -/
def seen (text : Text) : Text :=
  Text.Utf8.decodeLossy ((Text.Utf8.encode text).take Protocol.receiveLimit)

/-- The reply to a text that is sent as it is. -/
def reply? (r : Rehearsal) (text : Text) : Option Text :=
  Server.ruledReply? r.rules (seen text)

/-- What the client does. -/
def scenes (r : Rehearsal) : List (Scene Handler Call Pending (Except Error Success)) :=
  Timeline.playAll (Handler.service r.client) limits (.opened (.opened (.ruled r.rules))) 0
    r.errands

/-- All that the server has seen in the end. -/
def received (r : Rehearsal) : List Text :=
  r.raw.map seen ++
    (r.scenes.getLast?.elim [] fun scene => scene.after.state.network.sent).map (·.2)

/-- The commands that the server has seen, without their tags. -/
def commands (r : Rehearsal) : List Text :=
  r.received.map fun line => (CommandLine.splitTag line).1

end Rehearsal

/-- The rehearsals that a host allows. -/
def Host.rehearsal? (r : Rehearsal) : Host → Option Rehearsal
  | .isolated => none
  | .connected => some r

end AnidbClient
