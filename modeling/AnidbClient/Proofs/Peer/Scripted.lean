import AnidbClient.Peer.Scripted
import AnidbClient.Proofs.CommandLine.Untagged
import AnidbClient.Proofs.Text.Utf8
import Mathlib.Data.List.Forall2

/-!
# What comes of a script

A history of the scripted peer is any sequence of steps: a reply is queued, a command is sent, a
datagram is received.

* `queued`, `commands`, `taken` and `due` tell from the steps alone what the script amounts to.
  They never take anything out of a queue: which reply is next is a matter of counting.
* `handed` writes down what the receivers really got.

The peer has two queues, which advance at different rates.  `taken_append_replies` and
`exists_passed` say how far each of them is; `script_followed` puts this together.
-/

namespace AnidbClient

open Text.Utf8 (Bytes encode decodeLossy)

namespace QueuedReply

/-- The datagrams that a reply stands for, to a command with the given tag. -/
def datagrams (tag : Bytes) : QueuedReply → List Bytes
  | tagged text => [tag ++ 0x20 :: encode text]
  | untagged text => [encode text]
  | staleThen staleTag text =>
    [encode staleTag ++ encode " 300 PONG", tag ++ 0x20 :: encode text]
  | silence => []

theorem map_encode_texts (tag : Text) (reply : QueuedReply) :
    (reply.texts tag).map encode = reply.datagrams (encode tag) := by
  have hblank : ∀ text : Text, encode (tag ++ ' ' :: text) = encode tag ++ 0x20 :: encode text :=
    fun text => Text.Utf8.encode_append tag (' ' :: text)
  cases reply with
  | tagged text => exact congrArg ([·]) (hblank text)
  | untagged text => rfl
  | staleThen staleTag text =>
    show [encode (staleTag ++ _), encode (tag ++ ' ' :: text)] = _
    rw [hblank, Text.Utf8.encode_append]
    rfl
  | silence => rfl

end QueuedReply

namespace ScriptedPeer

/-! ## Histories -/

/-- Something that is done with the peer. -/
inductive Step where
  | queue (reply : QueuedReply)
  | send (command : Bytes)
  /-- By a receiver that has room for so many bytes. -/
  | receive (room : Nat)
  deriving DecidableEq, Repr

/-- The peer after one more step. -/
def step (p : ScriptedPeer) : Step → ScriptedPeer
  | .queue reply => p.push reply
  | .send command => p.send command
  | .receive room => (p.receive room).1

/-- The peer after some steps.  Here and below, the latest step comes first. -/
def after : List Step → ScriptedPeer
  | [] => empty
  | s :: earlier => (after earlier).step s

/-! ## What the steps amount to -/

/-- All replies that were queued, the oldest first. -/
def queued : List Step → List QueuedReply
  | [] => []
  | .queue reply :: earlier => queued earlier ++ [reply]
  | .send _ :: earlier | .receive _ :: earlier => queued earlier

/-- All commands that were sent, the oldest first. -/
def commands : List Step → List Text
  | [] => []
  | .send command :: earlier => commands earlier ++ [decodeLossy command]
  | .queue _ :: earlier | .receive _ :: earlier => commands earlier

/-- All replies that were taken: a command takes the oldest reply that was queued before it and
not taken, if there is one. -/
def taken : List Step → List QueuedReply
  | [] => []
  | .send _ :: earlier => taken earlier ++ (queued earlier)[(taken earlier).length]?.toList
  | .queue _ :: earlier | .receive _ :: earlier => taken earlier

/-- What a command meets with that comes next. -/
def answer (history : List Step) : QueuedReply :=
  (queued history)[(taken history).length]?.getD .silence

/-- The tag of a command, empty if there is none. -/
def ownTag (command : Bytes) : Bytes :=
  encode (tagIn (decodeLossy command))

/-- All datagrams that the replies to the commands stand for, the oldest first. -/
def due : List Step → List Bytes
  | [] => []
  | .send command :: earlier => due earlier ++ (answer earlier).datagrams (ownTag command)
  | .queue _ :: earlier | .receive _ :: earlier => due earlier

/-- What was handed out, the oldest first, and the room that the receiver had for it.  Who got
nothing is left out. -/
def handed : List Step → List (Nat × Bytes)
  | [] => []
  | .receive room :: earlier =>
    handed earlier ++ ((after earlier).receive room).2.toList.map (room, ·)
  | .queue _ :: earlier | .send _ :: earlier => handed earlier

/-! ## One step -/

section Step

variable (p : ScriptedPeer) (room : Nat)

@[simp] theorem receive_replies : (p.receive room).1.replies = p.replies := by
  unfold receive
  split <;> rfl

@[simp] theorem receive_sent : (p.receive room).1.sent = p.sent := by
  unfold receive
  split <;> rfl

@[simp] theorem receive_inbox : (p.receive room).1.inbox = p.inbox.tail := by
  unfold receive
  split
  · rename_i hnone
    rw [hnone]
    rfl
  · rename_i hsome
    rw [hsome]
    rfl

theorem receive_snd : (p.receive room).2 = p.inbox.head?.map (·.take room) := by
  unfold receive
  split
  · rename_i hnone
    rw [hnone]
    rfl
  · rename_i hsome
    rw [hsome]
    rfl

theorem send_inbox (command : Bytes) :
    (p.send command).inbox =
      p.inbox ++ (p.replies.head?.getD .silence).datagrams (ownTag command) :=
  congrArg (p.inbox ++ ·) (QueuedReply.map_encode_texts _ _)

end Step

/-! ## All steps -/

/-- The first of what is left follows what has passed. -/
private theorem passed_append_tail {α : Type} {passed rest all : List α}
    (hall : passed ++ rest = all) :
    passed ++ all[passed.length]?.toList ++ rest.tail = all := by
  subst hall
  cases rest <;> simp

/-- What was taken and what is left are what was queued. -/
theorem taken_append_replies (history : List Step) :
    taken history ++ (after history).replies = queued history := by
  induction history with
  | nil => rfl
  | cons s earlier ih =>
    cases s with
    | queue reply =>
      show taken earlier ++ ((after earlier).replies ++ [reply]) = queued earlier ++ [reply]
      rw [← List.append_assoc, ih]
    | send command => exact passed_append_tail ih
    | receive room =>
      show taken earlier ++ ((after earlier).receive room).1.replies = queued earlier
      rw [receive_replies, ih]

/-- What is next by the count is what the peer has in front. -/
theorem head?_replies (history : List Step) :
    (after history).replies.head?.getD .silence = answer history := by
  unfold answer
  rw [← taken_append_replies, List.getElem?_append_right le_rfl, Nat.sub_self,
    List.head?_eq_getElem?]

theorem sent_texts (history : List Step) :
    (after history).sent.map Prod.snd = commands history := by
  induction history with
  | nil => rfl
  | cons s earlier ih =>
    cases s with
    | queue reply => exact ih
    | send command =>
      show ((after earlier).sent ++ [(_, decodeLossy command)]).map Prod.snd = _
      rw [List.map_append, ih]
      rfl
    | receive room =>
      show ((after earlier).receive room).1.sent.map Prod.snd = commands earlier
      rw [receive_sent, ih]

/-- A datagram was handed out, cut to the room that the receiver had. -/
def Cut (got : Nat × Bytes) (datagram : Bytes) : Prop :=
  got.2 = datagram.take got.1

/-- What was handed out and what can still be received are what is due. -/
theorem exists_passed (history : List Step) :
    ∃ passed, passed ++ (after history).inbox = due history ∧
      List.Forall₂ Cut (handed history) passed := by
  induction history with
  | nil => exact ⟨[], rfl, .nil⟩
  | cons s earlier ih =>
    obtain ⟨passed, hdue, hcut⟩ := ih
    cases s with
    | queue reply => exact ⟨passed, hdue, hcut⟩
    | send command =>
      refine ⟨passed, ?_, hcut⟩
      show passed ++ ((after earlier).send command).inbox = due earlier ++ _
      rw [send_inbox, head?_replies, ← List.append_assoc, hdue]
    | receive room =>
      -- Both lists grow by what is in front of the inbox, if there is anything.
      refine ⟨passed ++ (due earlier)[passed.length]?.toList, ?_, ?_⟩
      · show _ ++ ((after earlier).receive room).1.inbox = due earlier
        rw [receive_inbox]
        exact passed_append_tail hdue
      · show List.Forall₂ Cut (handed earlier ++
          ((after earlier).receive room).2.toList.map (room, ·)) _
        rw [receive_snd, ← hdue, List.getElem?_append_right le_rfl, Nat.sub_self,
          ← List.head?_eq_getElem?]
        cases (after earlier).inbox with
        | nil => simpa using hcut
        | cons datagram rest => exact List.rel_append hcut (.cons rfl .nil)

/-! ## The tags of commands -/

/-- The peer finds the tag of a command, as the server would. -/
theorem tagIn_line (r : Request) (session tag : Option Text) :
    tagIn (r.line session tag) = (tag.map CommandLine.shown).getD [] := by
  have hfront : (r.parameters ++ Request.envelope session none).find?
      (·.key = ("tag" : Text)) = none := by
    rw [List.find?_eq_none]
    intro p hp
    simpa using CommandLine.key_ne_tag hp
  have henvelope : r.parameters ++ Request.envelope session tag =
      (r.parameters ++ Request.envelope session none) ++
        tag.toList.map fun t => (⟨"tag", t⟩ : Parameter) := by
    simp [Request.envelope]
  unfold tagIn
  rw [CommandLine.param?_line (by decide), henvelope, List.find?_append, hfront]
  cases tag <;> rfl

/-- Whatever is done with the peer in whatever order, nothing of its script is lost, comes twice
or out of order: the replies that were not taken remain, every command is noted and meets with the
oldest of them, and the datagrams that are handed out are those which the replies stand for, until
there are no more. -/
theorem script_followed (history : List Step) :
    let p := after history
    taken history ++ p.replies = queued history ∧
      p.replies.length = (queued history).length - (taken history).length ∧
      p.sent.map Prod.snd = commands history ∧
      (∀ command, (p.send command).inbox =
        p.inbox ++ (answer history).datagrams (ownTag command)) ∧
      (∀ (r : Request) session tag,
        ownTag (encode (r.line session tag)) = encode ((tag.map CommandLine.shown).getD [])) ∧
      List.Forall₂ Cut (handed history) ((due history).take (handed history).length) ∧
      ∀ room, (p.receive room).2 = none ↔ (handed history).length = (due history).length := by
  intro p
  have hreplies := taken_append_replies history
  obtain ⟨passed, hdue, hcut⟩ := exists_passed history
  have hlength := hcut.length_eq
  refine ⟨hreplies, ?_, sent_texts history, fun command => ?_, fun r session tag => ?_, ?_,
    fun room => ?_⟩
  · rw [← hreplies, List.length_append, Nat.add_sub_cancel_left]
  · rw [send_inbox, head?_replies]
  · unfold ownTag
    rw [Text.Utf8.decodeLossy_encode, tagIn_line]
  · rwa [← hdue, hlength, List.take_left]
  · rw [receive_snd, Option.map_eq_none_iff, List.head?_eq_none_iff, ← hdue, List.length_append,
      hlength, Nat.left_eq_add, List.length_eq_zero_iff]

/-- A late reply comes first, and the buffer of its receiver is too small for it. -/
example :
    handed [.receive 64, .receive 2, .send (encode "LOGOUT s=abc&tag=t2"),
        .queue (.staleThen "t1" "203 LOGGED OUT")] =
      [(2, encode "t1"), (64, encode "t2 203 LOGGED OUT")] := by
  decide +kernel

end ScriptedPeer

end AnidbClient
