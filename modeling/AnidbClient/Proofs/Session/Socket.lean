import AnidbClient.Proofs.Session.Callers
import AnidbClient.Proofs.Turnstile.Fifo

/-!
# The socket is used in turn

Two callers that read from one socket would take each other's replies.  So what a caller calls on
the socket, a send and then receives, has to be over before the next caller begins.

`Handler.socketCalls` tells what an act calls: a caller that is let in sends and starts to receive
at once, and each datagram that it passes over makes it receive again.  `Session.socketLog` writes
the calls of a run down, each with its caller.  `InBlocks` is what events keep: the log consists of
blocks, one for each command that was sent, and whoever is inside owns the last one.
`socket_used_in_turn` is the law that follows.
-/

namespace AnidbClient

/-- A call on the socket. -/
inductive SocketCall where
  | send
  | receive
  deriving DecidableEq, Repr

/-- How many datagrams are read that decide nothing. -/
def passedOver (tag : Text) (now : Instant) : List Arrival → Nat
  | [] => 0
  | a :: rest =>
    if now < a.due then 0
    else
      match a.delivery.read with
      | .error _ => 0
      | .ok reply => if reply.answers tag then 0 else passedOver tag now rest + 1

namespace Handler

section Calls

variable (c : Client) (now : Instant) (h : Handler)

/-- The calls of a caller that may send.  A command that cannot be packed is not sent, and whoever
cannot send does not receive. -/
def issueCalls (r : Request) (key : Option Text) : List SocketCall :=
  match Wire.pack (r.line key (some h.tag)) with
  | .error _ => []
  | .ok _ =>
    match h.issue now r key with
    | (_, .error _) => [.send]
    | (sent, .ok tag) =>
      .send :: .receive :: List.replicate (passedOver tag now sent.network.inbox) .receive

/-- The calls of an act.  Whoever goes on inside has a receive open already. -/
def socketCalls : Act Call Pending → List SocketCall
  | .arrive _ | .abandon _ => []
  | .enter call =>
    match h.meet c now call with
    | (_, .error _) => []
    | (met, .ok (key, _)) => met.issueCalls now (call.request c) key
  | .resume p => List.replicate (passedOver p.tag now h.network.inbox) .receive

/-- A caller that is let in leaves the socket alone, or sends its command and then receives. -/
theorem socketCalls_enter (call : Call) :
    (h.socketCalls c now (.enter call) = [] ∧
        (enter c now call h).1.network = h.network) ∨
      ∃ key n, h.socketCalls c now (.enter call) = .send :: List.replicate n .receive ∧
        (enter c now call h).1.lines = h.lines ++ [(call.request c).line key (some h.tag)] := by
  rcases admits_or_refuses c now h call with ⟨key, held, ready, hadmits⟩ | ⟨e, h', hrefuse⟩
  · cases hpack : Wire.pack ((call.request c).line key (some ready.tag)) with
    | error e =>
      have hissue := issue_of_pack_error now hpack
      refine .inl ⟨?_, ?_⟩
      · simp only [socketCalls, hadmits.meet_eq, issueCalls, hpack]
      · rw [hadmits.enter_eq]
        simp only [engage, hissue]
        rw [(sameWire_conclude c now _ call held (.error e)).network, ← hadmits.sameWire.network]
    | ok bytes =>
      have hlines : (enter c now call h).1.lines =
          h.lines ++ [(call.request c).line key (some h.tag)] := by
        rw [hadmits.lines_eq, lines_issue_of_pack now hpack, hadmits.sameWire.lines_eq,
          hadmits.sameWire.tag_eq]
      simp only [socketCalls, hadmits.meet_eq, issueCalls, hpack]
      split
      · exact .inr ⟨key, 0, rfl, hlines⟩
      · exact .inr ⟨key, passedOver _ _ _ + 1, rfl, hlines⟩
  · refine .inl ⟨?_, ?_⟩
    · simp only [socketCalls, hrefuse.meet_eq]
    · rw [hrefuse.enter_eq, hrefuse.sameWire.network]

end Calls

end Handler

/-! ## Blocks -/

/-- What one caller calls on the socket: a send, and then receives. -/
structure Block where
  caller : Caller
  receives : Nat
  deriving DecidableEq, Repr

/-- The calls of a block. -/
def Block.calls (b : Block) : List (Caller × SocketCall) :=
  (b.caller, .send) :: List.replicate b.receives (b.caller, .receive)

namespace Session

open Turnstile Handler

section Log

variable (c : Client) (l : Limits)

/-- What is called at an event.  Nobody calls anything when it arrives or is called away. -/
def socketCalls (w : Session) : Event Call → List (Caller × SocketCall)
  | .poll id =>
    match w.act? (service c) l (.poll id) with
    | none => []
    | some a => (w.state.socketCalls c w.now a).map (id, ·)
  | _ => []

variable (server : Server)

/-- The calls of a run, each with its caller. -/
def socketLog (events : List (Event Call)) : List (Caller × SocketCall) :=
  record (service c) l (fun w e log => log ++ socketCalls c l w e)
    (opened (Handler.opened server)) [] events

/-- The callers of a run that asked for their turn. -/
def asked (events : List (Event Call)) : List Caller :=
  Turnstile.asked (service c) l (opened (Handler.opened server)) events

theorem socketLog_concat (events : List (Event Call)) (e : Event Call) :
    socketLog c l server (events ++ [e]) =
      socketLog c l server events ++ socketCalls c l (after c l server events) e :=
  record_concat _ _ _ _ _

/-- What an event does on the socket. -/
inductive UsesSocket (w : Session) :
    Event Call → List (Caller × SocketCall) → Session → Prop where
  | quiet {e : Event Call} {w' : Session} (hnetwork : w'.state.network = w.state.network) :
      UsesSocket w e [] w'
  /-- A caller is let in, sends its command, and may receive. -/
  | send {id : Caller} {call : Call} {pace : Pace} {key : Option Text} {w' : Session} (n : Nat)
      (hin : GoesIn (service c) l w id call pace)
      (hgrown : w'.state.lines =
        w.state.lines ++ [(call.request c).line key (some w.state.tag)]) :
      UsesSocket w (.poll id) ((id, .send) :: List.replicate n (id, .receive)) w'
  /-- The caller inside receives again. -/
  | receive {id : Caller} {p : Pending} {w' : Session} (n : Nat)
      (hstage : w.stage id = some (.inside p)) (hsame : w'.state.lines = w.state.lines) :
      UsesSocket w (.poll id) (List.replicate n (id, .receive)) w'

theorem usesSocket_step (w : Session) (e : Event Call) :
    UsesSocket c l w e (socketCalls c l w e) (w.step (service c) l e) := by
  have hstate : (w.step (service c) l e).state = _ := state_step w e
  cases hact : w.act? (service c) l e with
  | none =>
    have hcalls : socketCalls c l w e = [] := by
      cases e with
      | poll id => simp only [socketCalls, hact]
      | _ => rfl
    rw [hact] at hstate
    rw [hcalls]
    exact .quiet (congrArg Handler.network hstate)
  | some a =>
    rw [hact] at hstate
    cases act?_eq_some_iff.1 hact with
    | @arrive id call =>
      have hsame := (sameWire_arrive c w.now w.state call).network
      exact .quiet ((congrArg Handler.network hstate).trans hsame)
    | @abandon id p =>
      have hsame := (sameWire_abandon w.state p).network
      exact .quiet ((congrArg Handler.network hstate).trans hsame)
    | @enter id call pace hin =>
      simp only [socketCalls, hact]
      rcases socketCalls_enter c w.now w.state call with ⟨hnone, hsame⟩ | ⟨key, n, hcalls, hgrown⟩
      · rw [hnone]
        exact .quiet ((congrArg Handler.network hstate).trans hsame)
      · rw [hcalls, List.map_cons, List.map_replicate]
        exact .send n hin ((congrArg Handler.lines hstate).trans hgrown)
    | @resume id p hstage =>
      simp only [socketCalls, hact, Handler.socketCalls, List.map_replicate]
      refine .receive _ hstage ((congrArg Handler.lines hstate).trans ?_)
      exact congrArg (List.map Prod.snd) (heeds_resume c w.now w.state p).sent_eq

end Log

/-! ## Who gets inside -/

section Inside

variable {c : Client} {l : Limits} {w : Session} {id : Caller}

/-- Whoever is inside after an event was there before, or has just sent its command. -/
theorem inside_step {e : Event Call} {p : Pending}
    (hstage : (w.step (service c) l e).stage id = some (.inside p)) :
    w.stage id = some (.inside p) ∨
      ∃ call pace, e = .poll id ∧ GoesIn (service c) l w id call pace ∧
        (w.step (service c) l e).state.lines ≠ w.state.lines := by
  have hfate := fate_step c l w id e
  generalize hs : (w.step (service c) l e).stage id = s at hstage hfate
  cases hfate with
  | same => exact .inl hstage
  | aside hinside => exact absurd (Option.some.inj hstage) (hinside p)
  | turnedAway => cases hstage
  | refused => cases hstage
  | @waits call pace key held ready issued t hin hadmits hissue =>
    refine .inr ⟨call, pace, rfl, hin, ?_⟩
    show (w.poll (service c) l id).state.lines ≠ _
    rw [hin.poll_eq, state_settle]
    show (enter c w.now call w.state).1.lines ≠ _
    rw [hadmits.lines_enter hissue]
    simp
  | decided => cases hstage

/-- Whoever is inside after a caller was let in or went on is that caller. -/
theorem eq_of_inside_step {a : Act Call Pending} {k : Caller} {p : Pending} (hw : w.Orderly)
    (hacts : Acts (service c) l w (.poll id) a)
    (hk : (w.step (service c) l (.poll id)).stage k = some (.inside p)) : k = id := by
  rcases inside_step hk with hbefore | ⟨_, _, heq, _, _⟩
  · exact hacts.eq_of_inside hw hbefore
  · cases heq
    rfl

/-- Whoever was let in is over with its call unless it is inside. -/
theorem over_of_not_isAhead (hahead : ¬ w.IsAhead id)
    (hinside : ∀ p, w.stage id ≠ some (.inside p)) :
    w.stage id = some .gone ∨ ∃ outcome, w.stage id = some (.left outcome) := by
  cases hstage : w.stage id with
  | none => exact absurd (by simp [IsAhead, hstage]) hahead
  | some s =>
    cases s with
    | waiting ticket => exact absurd (by simp [IsAhead, hstage, Stage.isAhead]) hahead
    | pacing call ready => exact absurd (by simp [IsAhead, hstage, Stage.isAhead]) hahead
    | inside p => exact absurd hstage (hinside p)
    | left outcome => exact .inr ⟨outcome, rfl⟩
    | gone => exact .inl rfl

end Inside

/-! ## The log consists of blocks -/

/-- The calls of a run are these blocks: one for each command that was sent, in the order in which
the callers asked, and whoever is inside owns the last one. -/
structure InBlocks (c : Client) (l : Limits) (server : Server) (events : List (Event Call))
    (blocks : List Block) : Prop where
  log : socketLog c l server events = blocks.flatMap Block.calls
  length : blocks.length = (lines c l server events).length
  sent : ∀ i id, (blocks.map Block.caller)[i]? = some id →
    ∃ call, SentBy c l server events id call i
  last : ∀ id p, (after c l server events).stage id = some (.inside p) →
    ∃ earlier n, blocks = earlier ++ [⟨id, n⟩]
  order : InOrder (after c l server events) (blocks.map Block.caller) (asked c l server events)

section Blocks

variable {c : Client} {l : Limits} {server : Server} {events : List (Event Call)}
  {blocks : List Block}

theorem inBlocks_nil (c : Client) (l : Limits) (server : Server) :
    InBlocks c l server [] [] where
  log := rfl
  length := rfl
  sent i id hid := by cases hid
  last id p hstage := by cases hstage
  order := inOrder_opened _

/-- Whoever owns a block has been let in. -/
theorem InBlocks.not_isAhead (h : InBlocks c l server events blocks) {id : Caller}
    (hid : id ∈ blocks.map Block.caller) : ¬ (after c l server events).IsAhead id := by
  obtain ⟨i, hi⟩ := List.mem_iff_getElem?.1 hid
  obtain ⟨call, hsent⟩ := h.sent i id hi
  exact hsent.not_isAhead

/-- Those that were served have still asked in their order after one more event. -/
private theorem inOrder_concat {served : List Caller}
    (horder : InOrder (after c l server events) served (asked c l server events))
    (e : Event Call) :
    InOrder (after c l server (events ++ [e])) served (asked c l server (events ++ [e])) := by
  unfold asked
  rw [after_concat, asked_concat]
  exact horder.step (orderly_after c l server events) (service c) l e

/-- An event that sends nothing and calls nothing. -/
theorem InBlocks.quiet (h : InBlocks c l server events blocks) {e : Event Call}
    (hcalls : socketCalls c l (after c l server events) e = [])
    (hsame : lines c l server (events ++ [e]) = lines c l server events) :
    InBlocks c l server (events ++ [e]) blocks where
  log := by rw [socketLog_concat, hcalls, List.append_nil, h.log]
  length := by rw [hsame, h.length]
  sent i id hid := (h.sent i id hid).imp fun _ hsent => hsent.append [e]
  last id p hstage := by
    rw [after_concat] at hstage
    rcases inside_step hstage with hstage | ⟨_, _, _, _, hgrown⟩
    · exact h.last id p hstage
    · refine absurd ?_ hgrown
      rw [← after_concat]
      exact hsame
  order := inOrder_concat h.order e

/-- A caller that is let in begins a block. -/
theorem InBlocks.send (h : InBlocks c l server events blocks) {id : Caller} {call : Call}
    {pace : Pace} {key : Option Text} {n : Nat}
    (hin : GoesIn (service c) l (after c l server events) id call pace)
    (hcalls : socketCalls c l (after c l server events) (.poll id) =
      (id, .send) :: List.replicate n (id, .receive))
    (hgrown : lines c l server (events ++ [.poll id]) = lines c l server events ++
      [(call.request c).line key (some (after c l server events).state.tag)]) :
    InBlocks c l server (events ++ [.poll id]) (blocks ++ [⟨id, n⟩]) where
  log := by
    rw [socketLog_concat, hcalls, h.log, List.flatMap_append]
    simp [Block.calls]
  length := by
    rw [hgrown, List.length_append, List.length_append, h.length]
    rfl
  sent i k hk := by
    rw [List.map_append, List.getElem?_append] at hk
    split at hk
    · exact (h.sent i k hk).imp fun _ hsent => hsent.append [_]
    · rename_i hi
      rw [List.map_cons, List.map_nil, List.getElem?_singleton] at hk
      split at hk
      · rename_i hzero
        cases hk
        have hlast : (lines c l server events).length = i := by
          rw [List.length_map, h.length] at hi hzero
          omega
        exact ⟨call, events, [], pace, key, rfl, hin, hgrown, hlast⟩
      · cases hk
  last k p hstage := by
    rw [after_concat] at hstage
    obtain rfl := eq_of_inside_step (orderly_after c l server events) (.enter hin) hstage
    exact ⟨blocks, n, rfl⟩
  order := by
    rw [List.map_append]
    refine inOrder_concat ?_ _
    refine h.order.serve (hin.head? (orderly_after c l server events)) ?_
    exact fun hid => h.not_isAhead hid hin.isAhead

/-- The caller inside goes on with its block. -/
theorem InBlocks.receive {earlier : List Block} {id : Caller} {p : Pending} {m n : Nat}
    (h : InBlocks c l server events (earlier ++ [⟨id, m⟩]))
    (hstage : (after c l server events).stage id = some (.inside p))
    (hcalls : socketCalls c l (after c l server events) (.poll id) =
      List.replicate n (id, .receive))
    (hsame : lines c l server (events ++ [.poll id]) = lines c l server events) :
    InBlocks c l server (events ++ [.poll id]) (earlier ++ [⟨id, m + n⟩]) where
  log := by
    rw [socketLog_concat, hcalls, h.log]
    simp [Block.calls]
  length := by
    rw [hsame, ← h.length]
    simp
  sent i k hk := by
    have hsent := h.sent i k
    rw [List.map_append] at hk hsent
    exact (hsent hk).imp fun _ hsent => hsent.append [_]
  last k p' hinside := by
    rw [after_concat] at hinside
    obtain rfl := eq_of_inside_step (orderly_after c l server events) (.resume hstage) hinside
    exact ⟨earlier, m + n, rfl⟩
  order := by
    have horder := h.order
    rw [List.map_append] at horder ⊢
    exact inOrder_concat horder _

theorem InBlocks.step (h : InBlocks c l server events blocks) (e : Event Call) :
    ∃ blocks', InBlocks c l server (events ++ [e]) blocks' := by
  have huses := usesSocket_step c l (after c l server events) e
  rw [← after_concat] at huses
  generalize hcalls : socketCalls c l (after c l server events) e = calls at huses
  generalize hafter : after c l server (events ++ [e]) = w' at huses
  cases huses with
  | quiet hnetwork =>
    subst hafter
    exact ⟨blocks, h.quiet hcalls (congrArg (fun n => n.sent.map Prod.snd) hnetwork)⟩
  | send n hin hgrown =>
    subst hafter
    exact ⟨_, h.send hin hcalls hgrown⟩
  | @receive id p _ n hstage hsame =>
    subst hafter
    obtain ⟨earlier, m, rfl⟩ := h.last id p hstage
    exact ⟨_, h.receive hstage hcalls hsame⟩

theorem exists_inBlocks (c : Client) (l : Limits) (server : Server) (events : List (Event Call)) :
    ∃ blocks, InBlocks c l server events blocks := by
  induction events using List.reverseRecOn with
  | nil => exact ⟨[], inBlocks_nil c l server⟩
  | append_singleton events e ih =>
    obtain ⟨blocks, h⟩ := ih
    exact h.step e

theorem InBlocks.mem_callers_iff (h : InBlocks c l server events blocks) {id : Caller} :
    id ∈ (socketLog c l server events).map Prod.fst ↔ id ∈ blocks.map Block.caller := by
  rw [h.log, List.map_flatMap, List.mem_flatMap, List.mem_map]
  refine exists_congr fun b => and_congr_right fun _ => ?_
  simp [Block.calls, eq_comm]

/-- Whoever has used the socket is over with its call when another caller is let in or goes on. -/
theorem InBlocks.over_of_acts (h : InBlocks c l server events blocks) {id k : Caller}
    {a : Act Call Pending} (hacts : Acts (service c) l (after c l server events) (.poll id) a)
    (hk : k ∈ (socketLog c l server events).map Prod.fst) (hne : k ≠ id) :
    (after c l server events).stage k = some .gone ∨
      ∃ outcome, (after c l server events).stage k = some (.left outcome) := by
  refine over_of_not_isAhead (h.not_isAhead (h.mem_callers_iff.1 hk)) ?_
  exact fun p hinside => hne (hacts.eq_of_inside (orderly_after c l server events) hinside)

/-! ## The law -/

/-- The calls on the socket are blocks, each one a send and receives of one caller, and they come in
the order in which the callers asked for their turn.  There is one block for each command that was
sent, and it is the block of the caller that sent it.  Whenever the socket is called, or something
changes on the network, that is due to one caller that looks whether it can go on and whose block
has begun, and everyone else that has used the socket has left or was called away. -/
theorem socket_used_in_turn (c : Client) (l : Limits) (server : Server)
    (events : List (Event Call)) :
    (∃ blocks : List Block,
      socketLog c l server events = blocks.flatMap Block.calls ∧
      (asked c l server events).Nodup ∧
      (blocks.map Block.caller).Sublist (asked c l server events) ∧
      blocks.length = (lines c l server events).length ∧
      ∀ i id, (blocks.map Block.caller)[i]? = some id →
        ∃ call, SentBy c l server events id call i) ∧
    ∀ e, socketCalls c l (after c l server events) e ≠ [] ∨
        (after c l server (events ++ [e])).state.network ≠ (after c l server events).state.network →
      ∃ id, e = .poll id ∧
        (∀ u ∈ socketCalls c l (after c l server events) e, u.1 = id) ∧
        id ∈ (socketLog c l server (events ++ [e])).map Prod.fst ∧
        ∀ k ∈ (socketLog c l server events).map Prod.fst, k ≠ id →
          (after c l server events).stage k = some .gone ∨
            ∃ outcome, (after c l server events).stage k = some (.left outcome) := by
  obtain ⟨blocks, h⟩ := exists_inBlocks c l server events
  refine ⟨⟨blocks, h.log, h.order.nodup, h.order.served_sublist, h.length, h.sent⟩, ?_⟩
  intro e hbusy
  have huses := usesSocket_step c l (after c l server events) e
  rw [← after_concat] at huses
  rw [socketLog_concat]
  generalize socketCalls c l (after c l server events) e = calls at huses hbusy
  generalize after c l server (events ++ [e]) = w' at huses hbusy
  cases huses with
  | quiet hnetwork =>
    rcases hbusy with hcalls | hchange
    · exact absurd rfl hcalls
    · exact absurd hnetwork hchange
  | @send id call pace key w' n hin hgrown =>
    refine ⟨id, rfl, ?_, ?_, fun k => h.over_of_acts (.enter hin)⟩
    · simp
    · simp
  | @receive id p w' n hstage hsame =>
    refine ⟨id, rfl, ?_, ?_, fun k => h.over_of_acts (.resume hstage)⟩
    · simp
    · obtain ⟨earlier, m, rfl⟩ := h.last id p hstage
      rw [List.map_append]
      refine List.mem_append_left _ (h.mem_callers_iff.2 ?_)
      simp

/-- Of three callers the first one is called away while it waits for its reply, and the second one
in line.  The third one has to pass the reply over. -/
example : socketLog .plain Settings.default.spacing.limits
    (.scripted [.respond [⟨.ofSecs 2, .reply .own "300 PONG"⟩]])
    [.call 0 (.job .ping), .poll 0, .call 1 (.job .ping), .call 2 (.job .ping), .drop 0, .drop 1,
      .poll 2, .tick (.ofSecs 3), .poll 2] =
    [(0, .send), (0, .receive), (2, .send), (2, .receive), (2, .receive)] := by
  decide +kernel

end Blocks

end Session

end AnidbClient
