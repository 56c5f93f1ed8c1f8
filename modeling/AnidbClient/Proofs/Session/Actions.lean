import AnidbClient.Proofs.Reply.Grammar
import AnidbClient.Proofs.Session.Awaiting
import AnidbClient.Proofs.Session.Ending

/-!
# The action of a caller

A caller that is let in is at its action from then on.  `Ends` lists the events that end it: a look
at which its call is decided, or the caller is called away.  Whatever else happens, the caller
waits on (`waits_or_ended`), and a look after its time is over is the last one
(`WaitsUntil.ends`).

A login and a logout have more in common.  Where no reply decides, they end with the error that
came instead, and without a session.  `Settles` says so and leaves open what a reply means;
`unsettled_or_settled` is the law for
both of them.
-/

namespace AnidbClient

/-- The error came in place of a reply: the command was not sent, or no reply was received. -/
def Error.isReplyless : Error → Bool
  | .transport _ | .timeout _ | .encoding _ | .decoding _ | .packetTooLarge .. => true
  | _ => false

theorem Error.isReplyless_of_isUnsent {e : Error} (he : e.isUnsent = true) :
    e.isReplyless = true := by
  cases e with
  | transport => rfl
  | encoding => rfl
  | packetTooLarge => rfl
  | _ => cases he

theorem Delivery.Decides.isReplyless {tag : Text} {d : Delivery} {e : Error}
    (h : d.Decides tag (.error e)) : e.isReplyless = true := by
  cases h <;> rfl

/-- A code that is that of its number is known by it. -/
theorem ReturnCode.eq_iff_number_eq {code known : ReturnCode}
    (hcode : code = .ofNumber code.number) (hknown : known = .ofNumber known.number) :
    code = known ↔ code.number = known.number := by
  constructor
  · rintro rfl
    rfl
  · intro hnumber
    rw [hcode, hnumber, ← hknown]

/-- The code of a reply that was read is that of its number. -/
theorem Delivery.code_eq_of_read {d : Delivery} {reply : Reply} (hread : d.read = .ok reply) :
    reply.code = .ofNumber reply.code.number := by
  have hanswers : reply.answers (reply.tag.getD []) = true := by
    rw [Reply.answers_iff]
    cases reply.tag <;> simp
  cases Delivery.decides_of_read_ok hread hanswers with
  | @reply bytes _ hdatagram =>
    unfold Reply.ofDatagram at hdatagram
    cases hunpack : Wire.unpack (bytes.take Protocol.receiveLimit) with
    | error fault =>
      rw [hunpack] at hdatagram
      cases hdatagram
    | ok s =>
      rw [hunpack] at hdatagram
      exact (Reply.spells_of_read hdatagram).code

namespace Handler

variable {c : Client} {now : Instant} {h : Handler} {p : Pending} {e : Error}

theorem isReplyless_of_hear (hhear : (h.hear c now p).2 = some (.error e)) :
    e.isReplyless = true := by
  rcases eq_timeout_or_exists_of_hear hhear with rfl | ⟨a, _, hread⟩
  · rfl
  · have hdecides : a.delivery.Decides p.tag (.error e) := Delivery.decides_of_read_error hread
    exact hdecides.isReplyless

/-- A call ends with the error that came in place of a reply. -/
theorem outcome_of_isReplyless (call : Call) (he : e.isReplyless = true) :
    call.outcome c (.error e) = .error e := by
  cases e with
  | decoding fault => cases call <;> rfl
  | transport => exact outcome_of_error rfl
  | timeout => exact outcome_of_error rfl
  | encoding => exact outcome_of_error rfl
  | packetTooLarge => exact outcome_of_error rfl
  | _ => cases he

/-- There is no session, and nothing is remembered of one. -/
def IsOut (h : Handler) : Prop :=
  h.connection = .disconnected ∧ h.lastActivity = none

theorem isOut_disconnect (h : Handler) : h.disconnect.IsOut := ⟨rfl, rfl⟩

/-- When its time is over something decides. -/
theorem exists_hear_of_deadline_le (c : Client) (h : Handler) (hover : p.deadline ≤ now) :
    ∃ answered, (h.hear c now p).2 = some answered := by
  rw [hear_snd]
  cases (listen p.tag now h.network.inbox).verdict with
  | some answered => exact ⟨answered, rfl⟩
  | none => exact ⟨_, if_pos hover⟩

end Handler

namespace Session

open Turnstile Handler

/-! ## From its start to its end -/

/-- The event ends the action of the caller. -/
inductive Ends (c : Client) (l : Limits) (w : Session) (id : Caller) (call : Call) :
    Event Call → Prop where
  /-- The caller looks, and its call is decided. -/
  | decided {held : Option Text} {h : Handler} {answered : Except Error Reply}
      (hdecides : Decides c l w id call held h answered) : Ends c l w id call (.poll id)
  | dropped {p : Pending} (hstage : w.stage id = some (.inside p)) (hcall : p.call = call) :
      Ends c l w id call (.drop id)

/-- The command of the caller is on its way, and it waits for the reply. -/
def WaitsUntil (w : Session) (id : Caller) (call : Call) (deadline : Instant) : Prop :=
  ∃ p, w.stage id = some (.inside p) ∧ p.call = call ∧ p.deadline = deadline

section Ends

variable {c : Client} {l : Limits} {w : Session} {id : Caller} {call : Call} {deadline : Instant}

/-- Whoever looks when its time is over does not wait on. -/
theorem WaitsUntil.ends (hwaits : WaitsUntil w id call deadline) (hover : deadline ≤ w.now) :
    Ends c l w id call (.poll id) := by
  obtain ⟨p, hstage, rfl, rfl⟩ := hwaits
  obtain ⟨answered, hhear⟩ := exists_hear_of_deadline_le c w.state hover
  exact .decided (.waiting hstage (Prod.ext rfl hhear))

/-- Whoever is let in and may send its command begins to wait, or is done with it at once. -/
theorem waits_or_ends_of_admits {pace : Pace} {key held : Option Text} {ready : Handler}
    (hin : GoesIn (service c) l w id call pace)
    (hadmits : Admits c w.now w.state call key held ready) :
    WaitsUntil (w.step (service c) l (.poll id)) id call (w.now + c.requestTimeout) ∨
      Ends c l w id call (.poll id) := by
  cases hissue : ready.issue w.now (call.request c) key with
  | mk sent result =>
    cases result with
    | error e => exact .inr (.decided (.unsent hin hadmits hissue))
    | ok tag =>
      cases hhear : (sent.hear c w.now ⟨call, held, tag, w.now + c.requestTimeout⟩).2 with
      | some answered => exact .inr (.decided (.atOnce hin hadmits hissue (Prod.ext rfl hhear)))
      | none =>
        refine .inl ⟨⟨call, held, tag, w.now + c.requestTimeout⟩, ?_, rfl, rfl⟩
        have henter : (service c).enter w.now call w.state = _ :=
          enter_of_hear_none hadmits hissue hhear
        show (w.poll (service c) l id).stage id = _
        rw [hin.poll_eq, henter, settle_staying, stage_setStage_self]

/-- An event ends the action, or the caller waits on. -/
theorem WaitsUntil.step (hwaits : WaitsUntil w id call deadline) (hw : w.Orderly)
    (e : Event Call) :
    WaitsUntil (w.step (service c) l e) id call deadline ∨ Ends c l w id call e := by
  obtain ⟨p, hstage, rfl, hdeadline⟩ := hwaits
  by_cases hdrop : e = .drop id
  · subst hdrop
    exact .inr (.dropped hstage rfl)
  · by_cases hpoll : e = .poll id
    · subst hpoll
      cases hhear : (w.state.hear c w.now p).2 with
      | some answered => exact .inr (.decided (.waiting hstage (Prod.ext rfl hhear)))
      | none =>
        refine .inl ⟨p, ?_, rfl, hdeadline⟩
        have hresume : (service c).resume w.now p w.state = _ := resume_of_hear_none hhear
        show (w.poll (service c) l id).stage id = _
        rw [poll_of_inside (service c) l hstage, hresume, settle_staying, stage_setStage_self]
    · exact .inl ⟨p, (network_step_of_inside hw hstage hpoll hdrop).1, rfl, hdeadline⟩

end Ends

section Runs

variable {c : Client} {l : Limits} {server : Server} {before : List (Event Call)} {id : Caller}
  {call : Call}

/-- At any time after it was let in, a caller that could send its command waits for the reply, or
one of the events since then was the end of its action. -/
theorem waits_or_ended {pace : Pace} {key held : Option Text} {ready : Handler}
    (hin : GoesIn (service c) l (after c l server before) id call pace)
    (hadmits : Admits c (after c l server before).now (after c l server before).state call key held
      ready) (later : List (Event Call)) :
    WaitsUntil (after c l server (before ++ .poll id :: later)) id call
        ((after c l server before).now + c.requestTimeout) ∨
      ∃ mid e rest, .poll id :: later = mid ++ e :: rest ∧
        Ends c l (after c l server (before ++ mid)) id call e := by
  -- On the events since then: each keeps the wait or ends it, and an end that was stays.
  induction later using List.reverseRecOn with
  | nil =>
    rw [after_concat]
    rcases waits_or_ends_of_admits hin hadmits with hwaits | hends
    · exact .inl hwaits
    · exact .inr ⟨[], .poll id, [], rfl, by rwa [List.append_nil]⟩
  | append_singleton later e ih =>
    rcases ih with hwaits | ⟨mid, e', rest, hcut, hends⟩
    · rw [← List.cons_append, ← List.append_assoc, after_concat]
      rcases hwaits.step (orderly_after c l server _) e with hwaits' | hends
      · exact .inl hwaits'
      · exact .inr ⟨.poll id :: later, e, [], rfl, hends⟩
    · refine .inr ⟨mid, e', rest ++ [e], ?_, hends⟩
      rw [← List.cons_append, hcut, List.append_assoc]
      rfl

end Runs

/-! ## Logins and logouts -/

section Settling

variable {c : Client} {l : Limits} {server : Server} {before : List (Event Call)} {id : Caller}
  {call : Call}

/-- How the action of a login or a logout ends, and the session after that.  What a reply brings to
the caller and what it leaves of the handler is left open. -/
inductive Settles (c : Client) (l : Limits) (w : Session) (id : Caller) (call : Call)
    (Brings : Reply → Except Error Success → Handler → Prop) : Event Call → Session → Prop where
  | answered {held : Option Text} {h : Handler} {reply : Reply} {result : Except Error Success}
      {w' : Session} (hdecides : Decides c l w id call held h (.ok reply))
      (hleft : w'.stage id = some (.left (.result result)))
      (hbrings : Brings reply result w'.state) : Settles c l w id call Brings (.poll id) w'
  | failed {held : Option Text} {h : Handler} {e : Error} {w' : Session}
      (hdecides : Decides c l w id call held h (.error e)) (he : e.isReplyless = true)
      (hleft : w'.stage id = some (.left (.result (.error e)))) (hout : w'.state.IsOut) :
      Settles c l w id call Brings (.poll id) w'
  | dropped {p : Pending} {w' : Session} (hinside : w.stage id = some (.inside p))
      (hcall : p.call = call) (hgone : w'.stage id = some .gone) (hout : w'.state.IsOut) :
      Settles c l w id call Brings (.drop id) w'

/-- The login or logout has not ended yet.  It waits with the connection in this state, and the
first look after its time is the end of it. -/
structure Unsettled (c : Client) (l : Limits) (w : Session) (id : Caller) (call : Call)
    (conn : Connection) (deadline : Instant)
    (Brings : Reply → Except Error Success → Handler → Prop) : Prop where
  waits : WaitsUntil w id call deadline
  connection : w.state.connection = conn
  timed : deadline ≤ w.now →
    Settles c l w id call Brings (.poll id) (w.step (service c) l (.poll id))

theorem Decides.isReplyless {w : Session} {held : Option Text} {h : Handler} {e : Error}
    (hdecides : Decides c l w id call held h (.error e)) : e.isReplyless = true := by
  cases hdecides with
  | waiting _ hhear => exact isReplyless_of_hear (congrArg Prod.snd hhear)
  | unsent _ _ hissue =>
    exact Error.isReplyless_of_isUnsent (isUnsent_of_issue (congrArg Prod.snd hissue))
  | atOnce _ _ _ hhear => exact isReplyless_of_hear (congrArg Prod.snd hhear)

theorem Decides.code_eq {w : Session} {held : Option Text} {h : Handler} {reply : Reply}
    (hdecides : Decides c l w id call held h (.ok reply)) :
    reply.code = .ofNumber reply.code.number := by
  have hread : ∀ {h' : Handler} {p : Pending},
      h'.hear c w.now p = (h, some (.ok reply)) → reply.code = .ofNumber reply.code.number := by
    intro h' p hhear
    obtain ⟨a, _, hread, _⟩ := exists_of_hear (congrArg Prod.snd hhear)
    exact Delivery.code_eq_of_read hread
  cases hdecides with
  | waiting _ hhear => exact hread hhear
  | atOnce _ _ _ hhear => exact hread hhear

/-- The login or logout of a caller that is called away leaves no session behind. -/
theorem isOut_abandon {p : Pending} {h : Handler} (hcall : p.call = .login ∨ p.call = .logout)
    (hsuits : Suits p.call p.held h.connection) : (h.abandon p).IsOut := by
  unfold abandon unsettle
  rcases hcall with hcall | hcall
  · rw [hcall] at hsuits ⊢
    rw [hsuits.eq_connecting]
    exact isOut_disconnect h
  · rw [hcall] at hsuits ⊢
    rw [hsuits.eq_loggingOut]
    exact isOut_disconnect h

/-- A login or logout without a reply leaves no session behind. -/
theorem conclude_error (c : Client) (now : Instant) {call : Call}
    (hcall : call = .login ∨ call = .logout) (held : Option Text) (h : Handler) (e : Error) :
    (conclude c now call held h (.error e)).1 = h.disconnect := by
  rcases hcall with rfl | rfl <;> rfl

/-- This is what a reply brings to the call. -/
def Interprets (c : Client) (call : Call)
    (Brings : Reply → Except Error Success → Handler → Prop) : Prop :=
  ∀ {now held h reply}, Suits call held h.connection → reply.code = .ofNumber reply.code.number →
    Brings reply (conclude c now call held h (.ok reply)).2
      (conclude c now call held h (.ok reply)).1

variable {Brings : Reply → Except Error Success → Handler → Prop}

/-- A login or logout that ends settles. -/
theorem Ends.settles {events : List (Event Call)} {e : Event Call}
    (hends : Ends c l (after c l server events) id call e)
    (hcall : call = .login ∨ call = .logout) (hbrings : Interprets c call Brings) :
    Settles c l (after c l server events) id call Brings e
      ((after c l server events).step (service c) l e) := by
  cases hends with
  | @decided held h answered hdecides =>
    have hleft := hdecides.stage_eq
    have hstate := hdecides.state_eq
    cases answered with
    | ok reply =>
      refine .answered hdecides hleft ?_
      rw [hstate]
      exact hbrings hdecides.suits hdecides.code_eq
    | error failure =>
      have he := hdecides.isReplyless
      rw [conclude_snd hdecides.suits, outcome_of_isReplyless call he] at hleft
      refine .failed hdecides he hleft ?_
      rw [hstate, conclude_error c _ hcall]
      exact isOut_disconnect h
  | @dropped p hstage hp =>
    subst hp
    have hdrop : (after c l server events).step (service c) l (.drop id) = _ :=
      drop_of_inside (service c) hstage
    rw [hdrop]
    exact .dropped hstage rfl (stage_setStage_self _ _ _)
      (isOut_abandon hcall (suits_of_inside hstage))

theorem WaitsUntil.suits {events : List (Event Call)} {deadline : Instant}
    (hwaits : WaitsUntil (after c l server events) id call deadline) :
    ∃ held, Suits call held (after c l server events).state.connection := by
  obtain ⟨p, hstage, rfl, _⟩ := hwaits
  exact ⟨p.held, suits_of_inside hstage⟩

/-- At any time after it was let in, a login or logout that could send its command has not ended
yet, or one of the events since then was the end of it. -/
theorem unsettled_or_settled {conn : Connection} {pace : Pace} {key held : Option Text}
    {ready : Handler} (hcall : call = .login ∨ call = .logout)
    (hconn : ∀ {held conn'}, Suits call held conn' → conn' = conn)
    (hbrings : Interprets c call Brings)
    (hin : GoesIn (service c) l (after c l server before) id call pace)
    (hadmits : Admits c (after c l server before).now (after c l server before).state call key held
      ready) (later : List (Event Call)) :
    Unsettled c l (after c l server (before ++ .poll id :: later)) id call conn
        ((after c l server before).now + c.requestTimeout) Brings ∨
      ∃ mid e rest, .poll id :: later = mid ++ e :: rest ∧
        Settles c l (after c l server (before ++ mid)) id call Brings e
          (after c l server (before ++ mid ++ [e])) := by
  rcases waits_or_ended hin hadmits later with hwaits | ⟨mid, e, rest, hcut, hends⟩
  · obtain ⟨_, hsuits⟩ := hwaits.suits
    exact .inl ⟨hwaits, hconn hsuits, fun hover => (hwaits.ends hover).settles hcall hbrings⟩
  · refine .inr ⟨mid, e, rest, hcut, ?_⟩
    rw [after_concat]
    exact hends.settles hcall hbrings

/-- Whoever is let in finds a session without a command on its way, or none. -/
theorem disconnected_or_authenticated {pace : Pace}
    (hin : GoesIn (service c) l (after c l server before) id call pace) :
    (after c l server before).state.connection = .disconnected ∨
      ∃ key, (after c l server before).state.connection = .authenticated key := by
  have hsettled := suits_after c l server before
  rw [hin.inside? (orderly_after c l server before)] at hsettled
  exact eq_of_isSettled hsettled

end Settling

end Session

end AnidbClient
