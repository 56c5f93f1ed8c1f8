import AnidbClient.Network
import AnidbClient.Protocol
import AnidbClient.Reply

/-!
# Waiting for a reply

Whoever has sent a command reads datagrams until one of them decides: a reply with the tag of the
command or without a tag is the reply to it, and what is no reply or cannot be read is an error.
Replies with another tag answer commands that nobody waits for any more, and are passed over.
-/

namespace AnidbClient

/-- What reading brought so far. -/
structure Heard where
  /-- What decided, if anything did. -/
  verdict : Option (Except Error Reply)
  /-- What was left to be read. -/
  rest : List Arrival
  /-- A reply was read, whatever its tag. -/
  spoken : Bool

/-- The reply answers the command with the given tag. -/
def Reply.answers (tag : Text) (r : Reply) : Bool :=
  r.tag.all (· = tag)

/-- What a datagram is to the sender of a command, cut to what can be received of it. -/
def Delivery.read : Delivery → Except Error Reply
  | .data bytes => (Reply.ofDatagram (bytes.take Protocol.receiveLimit)).mapError .decoding
  | .failure reason => .error (.transport reason)

/-- Reads what is due until something decides about the command with the given tag. -/
def listen (tag : Text) (now : Instant) : List Arrival → Heard
  | [] => ⟨none, [], false⟩
  | a :: rest =>
    if now < a.due then ⟨none, a :: rest, false⟩
    else
      match a.delivery.read with
      | .error e => ⟨some (.error e), rest, false⟩
      | .ok reply =>
        if reply.answers tag then ⟨some (.ok reply), rest, true⟩
        else { listen tag now rest with spoken := true }

end AnidbClient
