import AnidbClient.CommandLine
import AnidbClient.Error

/-!
# The network and the server behind it

A command that is sent reaches the server at once; its replies arrive when they are due.  Replies
that are not read wait, and whoever reads next gets the one that was due first.

The server either plays a script, one `Reaction` for each command, or follows rules that look at
the command.  In a script anything can be put: silence, any bytes, failures of the socket, any
delay and any tag.
-/

namespace AnidbClient

open Text.Utf8 (Bytes)

/-- What reading from the socket brings. -/
inductive Delivery where
  | data (bytes : Bytes)
  | failure (reason : Text)
  deriving DecidableEq, Repr

/-- Something to be read from the socket. -/
structure Arrival where
  /-- From when on it can be read. -/
  due : Instant
  delivery : Delivery
  deriving DecidableEq, Repr

namespace Arrival

/-- Puts an arrival in its place among others, behind those that are due at the same instant. -/
def insert (a : Arrival) : List Arrival → List Arrival
  | [] => [a]
  | b :: rest => if a.due < b.due then a :: b :: rest else b :: insert a rest

end Arrival

/-- What a reply has in front of it. -/
inductive Front where
  /-- The tag of the command, and a blank. -/
  | own
  /-- This tag, and a blank. -/
  | tag (t : Text)
  | bare
  deriving DecidableEq, Repr

/-- What the server sends. -/
inductive Content where
  | reply (front : Front) (text : Text)
  | raw (bytes : Bytes)
  /-- Reading fails instead. -/
  | failure (reason : Text)
  deriving DecidableEq, Repr

namespace Content

/-- The text of a reply to a command with the given tag. -/
def fronted (front : Front) (tag text : Text) : Text :=
  match front with
  | .own => tag ++ ' ' :: text
  | .tag t => t ++ ' ' :: text
  | .bare => text

/-- What is read of the content by the sender of a command with the given tag. -/
def delivery (tag : Text) : Content → Delivery
  | reply front text => .data (Text.Utf8.encode (fronted front tag text))
  | raw bytes => .data bytes
  | failure reason => .failure reason

end Content

/-- Something the server sends some time after a command. -/
structure Sending where
  after : Duration
  content : Content
  deriving DecidableEq, Repr

/-- What a command leads to. -/
inductive Reaction where
  /-- Sending fails. -/
  | refuse (reason : Text)
  | respond (sendings : List Sending)
  deriving DecidableEq, Repr

/-- How the server chooses its reactions. -/
inductive Server where
  /-- One after the other, then silence. -/
  | scripted (reactions : List Reaction)
  /-- By the first rule whose beginning the command has: its reply if it has one, else
  silence. -/
  | ruled (rules : List (Text × Option Text))
  deriving DecidableEq, Repr

namespace Server

/-- The reply of the first rule whose beginning the command has. -/
def ruling? (rules : List (Text × Option Text)) (command : Text) : Option Text :=
  (rules.find? fun rule => rule.1.isPrefixOf command).bind Prod.snd

/-- The reply to a line by rules: the tag of the line in front and a line feed behind. -/
def ruledReply? (rules : List (Text × Option Text)) (line : Text) : Option Text :=
  let (command, tag) := CommandLine.splitTag line
  (ruling? rules command).map fun reply =>
    (match tag with
      | some tag => tag ++ ' ' :: reply
      | none => reply) ++ ['\n']

/-- The reaction to a line, and the server after it. -/
def react (line : Text) : Server → Server × Reaction
  | scripted [] => (scripted [], .respond [])
  | scripted (reaction :: rest) => (scripted rest, reaction)
  | ruled rules =>
    (ruled rules,
      .respond ((ruledReply? rules line).toList.map fun text => ⟨0, .reply .bare text⟩))

/-- How many sendings are still in the script. -/
def stock : Server → Nat
  | scripted reactions =>
    (reactions.flatMap fun
      | .refuse _ => []
      | .respond sendings => sendings).length
  | ruled _ => 0

end Server

/-- The network between the client and the server. -/
structure Network where
  server : Server
  /-- What can be read, now or later, first due first. -/
  inbox : List Arrival
  /-- The commands that were sent, and when. -/
  sent : List (Instant × Text)
  deriving DecidableEq, Repr

namespace Network

/-- A network on which nothing was sent. -/
def quiet (server : Server) : Network := ⟨server, [], []⟩

/-- Puts what the server sends at an instant into the inbox. -/
def deliver (now : Instant) (tag : Text) (n : Network) (sendings : List Sending) : Network :=
  { n with
    inbox := sendings.foldl
      (fun inbox s => Arrival.insert ⟨now + s.after, s.content.delivery tag⟩ inbox) n.inbox }

/-- Sends a command line with the given tag. -/
def post (now : Instant) (line tag : Text) (n : Network) : Network × Except Error Unit :=
  let (server, reaction) := n.server.react line
  let n := { n with server := server, sent := n.sent ++ [(now, line)] }
  match reaction with
  | .refuse reason => (n, .error (.transport reason))
  | .respond sendings => (n.deliver now tag sendings, .ok ())

/-- How many datagrams can still be read, those in the script included. -/
def stock (n : Network) : Nat :=
  n.server.stock + n.inbox.length

/-- The commands sent after the first `count`. -/
def sentSince (count : Nat) (n : Network) : List (Instant × Text) :=
  n.sent.drop count

end Network

end AnidbClient
