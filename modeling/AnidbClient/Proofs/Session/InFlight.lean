import AnidbClient.Proofs.Session.States

/-!
# A command of the session on its way

While the connection is `sending` one caller is inside, and its command carries the key.  The
connection changes when that caller goes on or is called away (`ownStep`), and in one more case:
a newcomer that wants to use the session ends it if it has been silent for too long, though a
command is on its way just then (`Expires`).  `connection_step_of_sending` says that this is all.
-/

namespace AnidbClient

namespace Session

open Turnstile Handler

variable {c : Client} {l : Limits} {server : Server} {w : Session} {key : Text}

/-- A newcomer has a command of the session and finds the session silent for too long. -/
def Expires {Stay Result : Type} (c : Client) (w : Turnstile Handler Call Stay Result)
    (e : Event Call) : Prop :=
  ∃ k r, e = .call k (.job (.send r)) ∧ w.stage k = none ∧ r.requiresSession = true ∧
    c.sessionTimeout < w.state.idle w.now

/-- The connection after an event, if only the caller inside, which is `sending` with the key, can
change it. -/
def ownStep (c : Client) (w : Session) (id : Caller) (p : Pending) (key : Text) :
    Event Call → Connection
  | .poll k =>
    if k = id then
      match (w.state.hear c w.now p).2 with
      | none => .sending key
      | some (.ok reply) =>
        if (p.call.request c).losesSession reply.code then .disconnected else .authenticated key
      | some (.error _) => .authenticated key
    else .sending key
  | .drop k => if k = id then .authenticated key else .sending key
  | .tick _ | .call _ _ => .sending key

/-- The caller entered where the events are cut, from a connection that was `authenticated` with
the key, and the connection has been `sending` with it ever since. -/
def Entered (c : Client) (l : Limits) (server : Server) (events : List (Event Call))
    (id : Caller) (p : Pending) (key : Text) : Prop :=
  ∃ before since, events = before ++ .poll id :: since ∧
    (after c l server before).state.connection = .authenticated key ∧
    ∀ mid, mid <+: since →
      (after c l server (before ++ .poll id :: mid)).stage id = some (.inside p) ∧
      (after c l server (before ++ .poll id :: mid)).state.connection = .sending key

/-! ## Who made the connection sending -/

theorem connection_arrive_of_sending {now : Instant} {h : Handler} {call : Call}
    (hsending : (arrive c now call h).1.connection = .sending key) :
    h.connection = .sending key := by
  rw [arrive_fst] at hsending
  split at hsending
  · cases hsending
  · exact hsending

/-- A caller that makes the connection `sending` is one that stays inside. -/
theorem enters_of_sending {now : Instant} {h : Handler} {call : Call}
    {turn : Handler × Turn Pending (Except Error Success)} (henter : Enters c now h call turn)
    (hsettled : h.connection.isSettled = true) (hsending : turn.1.connection = .sending key) :
    h.connection = .authenticated key ∧ ∃ p, turn.2 = .staying p ∧ p.held = some key := by
  have hsuits := henter.suits hsettled
  cases henter with
  | refused hrefuse =>
    have hsettled' := hrefuse.isSettled hsettled
    rw [hsending] at hsettled'
    cases hsettled'
  | unsent _ _ =>
    have hsettled' : Connection.isSettled _ = true := hsuits
    rw [hsending] at hsettled'
    cases hsettled'
  | @sent key' held h' h'' t turn hadmits hissue hheed =>
    cases hheed with
    | ends _ =>
      have hsettled' : Connection.isSettled _ = true := hsuits
      rw [hsending] at hsettled'
      cases hsettled'
    | @waits h₃ hhear =>
      have hsame : h₃.connection = h'.connection := by
        have hissued := connection_issue now h' (call.request c) key'
        have hheard := connection_hear c now h'' ⟨call, held, t, now + c.requestTimeout⟩
        rw [hissue] at hissued
        rw [hhear] at hheard
        exact hheard.trans hissued
      rw [hsame] at hsending
      cases hadmits with
      | login => cases hsending
      | logout => cases hsending
      | ping =>
        rw [hsending] at hsettled
        cases hsettled
      | free =>
        rw [hsending] at hsettled
        cases hsettled
      | bound _ hconn =>
        cases hsending
        exact ⟨hconn, _, rfl, rfl⟩

/-- A caller that goes on inside leaves the connection `sending` only if it stays. -/
theorem heeds_of_sending {now : Instant} {h : Handler} {p : Pending}
    {turn : Handler × Turn Pending (Except Error Success)} (hheed : Heeds c now h p turn)
    (hsuits : Suits p.call p.held h.connection) (hsending : turn.1.connection = .sending key) :
    turn.2 = .staying p ∧ h.connection = .sending key := by
  have hsettled := hheed.suits hsuits
  cases hheed with
  | waits hhear =>
    have hheard := connection_hear c now h p
    rw [hhear] at hheard
    exact ⟨rfl, hheard.symm.trans hsending⟩
  | ends _ =>
    have hsettled' : Connection.isSettled _ = true := hsettled
    rw [hsending] at hsettled'
    cases hsettled'

/-- Where the connection is `sending` after a move, it was so before with the same caller inside,
or a caller has just entered. -/
theorem sending_of_move {e : Event Call} {w' : Session} (hw : w.Orderly)
    (hsuits : SuitsInside w.inside? w.state.connection)
    (hm : Move (service c) l w e w') (hsending : w'.state.connection = .sending key) :
    (w.state.connection = .sending key ∧
        ∀ id p, w.stage id = some (.inside p) → w'.stage id = some (.inside p)) ∨
      ∃ id p, e = .poll id ∧ w.state.connection = .authenticated key ∧
        w'.stage id = some (.inside p) ∧ p.held = some key := by
  cases hm with
  | rest => exact .inl ⟨hsending, fun _ _ hid => hid⟩
  | tick d => exact .inl ⟨hsending, fun _ _ hid => hid⟩
  | ask hnew =>
    exact .inl ⟨hsending, fun _ _ hid => stage_setStage_inside hid (by simp [hnew])⟩
  | @refuse k j t r hnew harrive =>
    have harrived : (arrive c w.now j w.state).1 = t := congrArg Prod.fst harrive
    have hconn : w.state.connection = .sending key := by
      rw [state_setStage, ← harrived] at hsending
      exact connection_arrive_of_sending hsending
    exact .inl ⟨hconn, fun _ _ hid => stage_setStage_inside hid (by simp [hnew])⟩
  | @queue k j t hnew harrive =>
    have harrived : (arrive c w.now j w.state).1 = t := congrArg Prod.fst harrive
    have hconn : w.state.connection = .sending key := by
      rw [state_setStage, ← harrived] at hsending
      exact connection_arrive_of_sending hsending
    exact .inl ⟨hconn, fun _ _ hid => stage_setStage_inside hid (by simp [hnew])⟩
  | tell hstage _ =>
    exact .inl ⟨hsending, fun _ _ hid => stage_setStage_inside hid (by simp [hstage])⟩
  | pace hstage _ _ =>
    exact .inl ⟨hsending, fun _ _ hid => stage_setStage_inside hid (by simp [hstage])⟩
  | @enter k j p hin =>
    rw [hin.inside? hw] at hsuits
    rw [state_settle] at hsending
    have henter : Enters c w.now w.state j ((service c).enter w.now j w.state) :=
      enters_enter c w.now w.state j
    generalize (service c).enter w.now j w.state = turn at henter hsending ⊢
    obtain ⟨hauth, p', hstay, hheld⟩ := enters_of_sending henter hsuits hsending
    obtain ⟨t, y⟩ := turn
    obtain rfl : y = .staying p' := hstay
    exact .inr ⟨k, p', rfl, hauth, stage_setStage_self _ _ _, hheld⟩
  | @resume k p hstage =>
    rw [hw.inside?_of_inside hstage] at hsuits
    rw [state_settle] at hsending
    have hheed : Heeds c w.now w.state p ((service c).resume w.now p w.state) :=
      heeds_resume c w.now w.state p
    generalize (service c).resume w.now p w.state = turn at hheed hsending ⊢
    obtain ⟨hstay, hconn⟩ := heeds_of_sending hheed hsuits hsending
    obtain ⟨t, y⟩ := turn
    obtain rfl : y = .staying p := hstay
    refine .inl ⟨hconn, fun id p' hid => ?_⟩
    obtain rfl : id = k := hw.eq_of_inside hstage hid
    rw [hstage] at hid
    rw [settle_staying, stage_setStage_self]
    exact hid
  | dropWaiting hstage =>
    exact .inl ⟨hsending, fun _ _ hid => stage_setStage_inside hid (by simp [hstage])⟩
  | dropPacing hstage =>
    exact .inl ⟨hsending, fun _ _ hid => stage_setStage_inside hid (by simp [hstage])⟩
  | @dropInside k p hstage =>
    rw [hw.inside?_of_inside hstage] at hsuits
    have hsettled : (w.state.abandon p).connection.isSettled = true := Suits.abandon hsuits
    have hsending' : (w.state.abandon p).connection = .sending key := hsending
    rw [hsending'] at hsettled
    cases hsettled

/-- While the connection is `sending`, the caller that made it so is inside. -/
theorem exists_entered (events : List (Event Call))
    (hsending : (after c l server events).state.connection = .sending key) :
    ∃ id p, p.held = some key ∧ Entered c l server events id p key := by
  induction events using List.reverseRecOn with
  | nil => cases hsending
  | append_singleton events e ih =>
    have hm := move_step (service c) l (after c l server events) e
    rw [← after_concat] at hm
    rcases sending_of_move (orderly_after c l server events) (suits_after c l server events) hm
      hsending with ⟨hbefore, hstay⟩ | ⟨id, p, rfl, hauth, hid, hheld⟩
    · obtain ⟨id, p, hheld, before, since, rfl, hauth, hsince⟩ := ih hbefore
      refine ⟨id, p, hheld, before, since ++ [e], by simp, hauth, ?_⟩
      intro mid hmid
      rcases List.prefix_concat_iff.1 hmid with rfl | hmid
      · rw [← List.cons_append, ← List.append_assoc]
        exact ⟨hstay id p (hsince since (List.prefix_refl since)).1, hsending⟩
      · exact hsince mid hmid
    · refine ⟨id, p, hheld, events, [], rfl, hauth, ?_⟩
      intro mid hmid
      obtain rfl := List.prefix_nil.1 hmid
      exact ⟨hid, hsending⟩

/-! ## Who changes it -/

/-- Only a newcomer can end a session so. -/
theorem not_expires {e : Event Call} (he : ∀ k ticket, e ≠ .call k ticket) : ¬ Expires c w e := by
  rintro ⟨k, r, rfl, _⟩
  exact he _ _ rfl

/-- A newcomer ends a session that was silent for too long, and changes nothing else. -/
theorem connection_call_of_sending (hsending : w.state.connection = .sending key) (k : Caller)
    (ticket : Ticket Call) :
    (Expires c w (.call k ticket) →
        (w.call (service c) k ticket).state.connection = .disconnected) ∧
      (¬ Expires c w (.call k ticket) →
        (w.call (service c) k ticket).state.connection = .sending key) := by
  cases ticket with
  | delay short =>
    rw [state_call_delay]
    refine ⟨?_, fun _ => hsending⟩
    rintro ⟨k', r, heq, _⟩
    cases heq
  | job call =>
    have hstate : (w.call (service c) k (.job call)).state =
        if w.stage k = none then (arrive c w.now call w.state).1 else w.state :=
      state_call_job (service c) k call
    rw [hstate]
    constructor
    · rintro ⟨k', r, heq, hnew, hbound, hidle⟩
      cases heq
      have hauth : w.state.connection.isAuthenticated = true := by
        rw [hsending]
        rfl
      rw [if_pos hnew, arrive_fst, if_pos ⟨hbound, hauth, hidle⟩]
      rfl
    · intro hnot
      split
      · rename_i hnew
        rw [arrive_fst, if_neg]
        · exact hsending
        · rintro ⟨hbound, _, hidle⟩
          cases call with
          | send r => exact hnot ⟨k, r, rfl, hnew, hbound, hidle⟩
          | _ => cases hbound
      · exact hsending

/-- A caller that holds the connection has a command of the session. -/
theorem exists_send_of_held {call : Call} {conn : Connection}
    (hsuits : Suits call (some key) conn) : ∃ r, call = .send r ∧ r.requiresSession = true := by
  cases hsuits with
  | bound hbound => exact ⟨_, rfl, hbound⟩
  | lost hbound => exact ⟨_, rfl, hbound⟩

/-- What the caller inside makes of the connection when it goes on. -/
theorem connection_resume_of_sending {now : Instant} {h : Handler} {p : Pending}
    (hsuits : Suits p.call p.held h.connection) (hsending : h.connection = .sending key)
    (hheld : p.held = some key) :
    (h.resume c now p).1.connection =
      match (h.hear c now p).2 with
      | none => .sending key
      | some (.ok reply) =>
        if (p.call.request c).losesSession reply.code then .disconnected else .authenticated key
      | some (.error _) => .authenticated key := by
  rw [hheld] at hsuits
  obtain ⟨r, hcall, _⟩ := exists_send_of_held hsuits
  have hheard := connection_hear c now h p
  have hheed := heeds_resume c now h p
  generalize h.resume c now p = turn at hheed
  cases hheed with
  | waits hhear =>
    rw [hhear] at hheard ⊢
    exact hheard.trans hsending
  | @ends h' answered hhear =>
    rw [hhear] at hheard ⊢
    have hsending' : h'.connection = .sending key := hheard.trans hsending
    have hend := connection_release_heed hsending' r answered
    rw [hcall, hheld, conclude_send_fst, hend]
    cases answered <;> rfl

/-- A caller that is called away leaves the session as it found it. -/
theorem connection_abandon_of_sending {h : Handler} {p : Pending}
    (hsuits : Suits p.call p.held h.connection) (hsending : h.connection = .sending key)
    (hheld : p.held = some key) : (h.abandon p).connection = .authenticated key := by
  rw [hheld] at hsuits
  obtain ⟨r, hcall, _⟩ := exists_send_of_held hsuits
  unfold abandon
  rw [hcall, hheld]
  exact connection_release_of_sending h hsending

/-- While the connection is `sending`, the caller that made it so is inside, and what it does is
all that changes the connection, but for the newcomer that finds the session silent for too
long. -/
theorem connection_step_of_sending (events : List (Event Call))
    (hsending : (after c l server events).state.connection = .sending key) :
    ∃ id p, p.held = some key ∧ Entered c l server events id p key ∧
      ∀ e, (Expires c (after c l server events) e →
          (after c l server (events ++ [e])).state.connection = .disconnected) ∧
        (¬ Expires c (after c l server events) e →
          (after c l server (events ++ [e])).state.connection =
            ownStep c (after c l server events) id p key e) := by
  obtain ⟨id, p, hheld, hentered⟩ := exists_entered events hsending
  refine ⟨id, p, hheld, hentered, fun e => ?_⟩
  rw [after_concat]
  obtain ⟨before, since, rfl, _, hsince⟩ := hentered
  have hid := (hsince since (List.prefix_refl since)).1
  have hw := orderly_after c l server (before ++ .poll id :: since)
  have hsuits := suits_after c l server (before ++ .poll id :: since)
  generalize after c l server (before ++ .poll id :: since) = w at hsending hid hw hsuits ⊢
  rw [hw.inside?_of_inside hid] at hsuits
  cases e with
  | tick d => exact ⟨fun hexpires => absurd hexpires (not_expires (by simp)), fun _ => hsending⟩
  | call k ticket => exact connection_call_of_sending hsending k ticket
  | poll k =>
    refine ⟨fun hexpires => absurd hexpires (not_expires (by simp)), fun _ => ?_⟩
    show (w.poll (service c) l k).state.connection = _
    by_cases hk : k = id
    · subst hk
      rw [poll_of_inside (service c) l hid, state_settle]
      simp only [ownStep, if_true]
      exact connection_resume_of_sending hsuits hsending hheld
    · rw [hw.poll_of_ne hid hk]
      simp only [ownStep, hk, if_false]
      exact hsending
  | drop k =>
    refine ⟨fun hexpires => absurd hexpires (not_expires (by simp)), fun _ => ?_⟩
    show (w.drop (service c) k).state.connection = _
    by_cases hk : k = id
    · subst hk
      rw [drop_of_inside (service c) hid]
      simp only [ownStep, if_true]
      exact connection_abandon_of_sending hsuits hsending hheld
    · rw [(hw.drop_of_ne hid hk (service c)).1]
      simp only [ownStep, hk, if_false]
      exact hsending

/-! ## A calendar that outlasts the session -/

/-- A server that takes the login and answers the next command after three seconds. -/
def slowServer : Server :=
  .scripted [.respond [⟨0, .reply .own "200 abc12 LOGIN ACCEPTED"⟩],
    .respond [⟨.ofSecs 3, .reply .own "397 CALENDAR EMPTY"⟩]]

/-- Half an hour after the login a calendar has been on its way for two seconds. -/
def slowCalendar : List (Event Call) :=
  [.call 0 (.job .login), .poll 0, .tick (.ofSecs 1799), .call 1 (.job (.send .calendar)),
    .poll 1, .tick (.ofSecs 2)]

/-- Someone else asks for a calendar, too. -/
def secondCalendar : Event Call :=
  .call 2 (.job (.send .calendar))

theorem connection_step_of_slowCalendar :
    (after .plain Settings.default.spacing.limits slowServer slowCalendar).state.connection =
        .sending "abc12".toList ∧
      (after .plain Settings.default.spacing.limits slowServer
        (slowCalendar ++ [secondCalendar])).state.connection = .disconnected := by
  have hsending : (after .plain Settings.default.spacing.limits slowServer
      slowCalendar).state.connection = .sending "abc12".toList := by
    decide +kernel
  have hexpires : Expires .plain (after .plain Settings.default.spacing.limits slowServer
      slowCalendar) secondCalendar :=
    ⟨2, .calendar, rfl, by decide +kernel, rfl, by decide +kernel⟩
  obtain ⟨_, _, _, _, hstep⟩ := connection_step_of_sending slowCalendar hsending
  exact ⟨hsending, (hstep secondCalendar).1 hexpires⟩

/-- The calendar is answered, with a code it takes and under a key that was live when it was sent,
and still there is no session left: the second caller ended it. -/
theorem calendar_outlasts_session :
    (after .plain Settings.default.spacing.limits slowServer slowCalendar).state.connection =
        .sending "abc12".toList ∧
      (after .plain Settings.default.spacing.limits slowServer
        (slowCalendar ++ [secondCalendar])).state.connection ≠ .sending "abc12".toList ∧
      (after .plain Settings.default.spacing.limits slowServer
        (slowCalendar ++ [secondCalendar, .tick (.ofSecs 1), .poll 1])).stage 1 =
          some (.left (.result (.ok (.answered ⟨.calendarEmpty, none⟩)))) ∧
      (after .plain Settings.default.spacing.limits slowServer
        (slowCalendar ++ [secondCalendar, .tick (.ofSecs 1), .poll 1])).state.connection =
          .disconnected := by
  decide +kernel

end Session

end AnidbClient
