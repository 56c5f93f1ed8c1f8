import AnidbClient.CommandLine
import AnidbClient.Text.Utf8
import AnidbClient.Time

/-!
# The scripted peer

A stand-in for the network in which replies are queued beforehand.  Each command takes the oldest
reply that is queued, or meets with silence; what the reply stands for can be received from then
on, in order.  A receiver waits for a tenth of a second and then gives up.
-/

namespace AnidbClient

open Text.Utf8 (Bytes)

/-- How the peer answers a command. -/
inductive QueuedReply where
  /-- With a text behind the tag of the command. -/
  | tagged (text : Text)
  | untagged (text : Text)
  /-- First with a reply to another command, then with the tag of this one. -/
  | staleThen (staleTag text : Text)
  | silence
  deriving DecidableEq, Repr

namespace QueuedReply

/-- The texts that a reply stands for, to a command with the given tag. -/
def texts (tag : Text) : QueuedReply → List Text
  | tagged text => [tag ++ ' ' :: text]
  | untagged text => [text]
  | staleThen staleTag text => [staleTag ++ " 300 PONG", tag ++ ' ' :: text]
  | silence => []

end QueuedReply

/-- The peer, with all that is queued in it. -/
structure ScriptedPeer where
  now : Instant
  /-- The replies that no command has taken. -/
  replies : List QueuedReply
  /-- The commands, and when they came. -/
  sent : List (Instant × Text)
  /-- The datagrams that have not been received. -/
  inbox : List Bytes
  deriving DecidableEq, Repr

namespace ScriptedPeer

/-- Nothing was queued or sent. -/
def empty : ScriptedPeer := ⟨0, [], [], []⟩

/-- How long a receiver waits. -/
def patience : Duration := .ofMillis 100

/-- Queues a reply. -/
def push (p : ScriptedPeer) (r : QueuedReply) : ScriptedPeer :=
  { p with replies := p.replies ++ [r] }

/-- The tag in a line, empty if there is none. -/
def tagIn (line : Text) : Text :=
  (CommandLine.param? "tag" line).getD []

/-- Takes a command, which gets the oldest reply. -/
def send (p : ScriptedPeer) (bytes : Bytes) : ScriptedPeer :=
  let line := Text.Utf8.decodeLossy bytes
  let reply := p.replies.head?.getD .silence
  { p with
    replies := p.replies.tail
    sent := p.sent ++ [(p.now, line)]
    inbox := p.inbox ++ (reply.texts (tagIn line)).map Text.Utf8.encode }

/-- Hands out the next datagram, cut to what the receiver has room for; none if there is nothing
to be received. -/
def receive (p : ScriptedPeer) (room : Nat) : ScriptedPeer × Option Bytes :=
  match p.inbox with
  | [] => ({ p with now := p.now + patience }, none)
  | bytes :: rest => ({ p with inbox := rest }, some (bytes.take room))

end ScriptedPeer

end AnidbClient
