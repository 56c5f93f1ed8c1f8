import AnidbClient.Proofs.Session.LiveKeys

/-!
# Sessions that were silent for too long

A caller may stand in line for long after its command was found to have a session.  So the silence
of the session is measured against the moment of sending, and it is measured from the last sign of
life: a reply that was read, whatever its tag, or a login that succeeded.

* `Session.received` tells what is read at an event, and `SignOfLife` what of it counts.
* `Lasts` says that a change of the handler keeps the session and its last sign of life, or ends the
  session.  Whatever is no sign of life lasts in this sense, and a sign of life is remembered with
  its moment.  So the handler knows the last sign of life of a session that is there
  (`exists_lastSign`).
* `expiry_enforced` is the law: how old the last sign of life can be when a command is sent, and
  what happens to one that finds it too old.
-/

namespace AnidbClient

/-! ## What is read -/

/-- What reading takes from the inbox. -/
def taken (tag : Text) (now : Instant) : List Arrival → List Arrival
  | [] => []
  | a :: rest =>
    if now < a.due then []
    else
      match a.delivery.read with
      | .error _ => [a]
      | .ok reply => if reply.answers tag then [a] else a :: taken tag now rest

/-- The arrival brought a reply. -/
def Arrival.isReply (a : Arrival) : Bool :=
  a.delivery.read.isOk

section Taken

variable {tag : Text} {now : Instant} {inbox : List Arrival}

/-- The reader knows whether a reply was read. -/
theorem spoken_listen (tag : Text) (now : Instant) (inbox : List Arrival) :
    (listen tag now inbox).spoken = (taken tag now inbox).any Arrival.isReply := by
  fun_induction taken tag now inbox with
  | case1 => rfl
  | case2 a rest hdue => simp [listen, hdue]
  | case3 a rest hdue e hread =>
    simp [listen, hdue, hread, Arrival.isReply, Except.isOk, Except.toBool]
  | case4 a rest hdue reply hread hanswers =>
    simp [listen, hdue, hread, hanswers, Arrival.isReply, Except.isOk, Except.toBool]
  | case5 a rest hdue reply hread hother ih =>
    simp [listen, hdue, hread, hother, Arrival.isReply, Except.isOk, Except.toBool]

end Taken

namespace Handler

variable {c : Client} {now : Instant} {h h' h'' : Handler}

/-- What an act reads. -/
def received (c : Client) (now : Instant) (h : Handler) : Act Call Pending → List Arrival
  | .arrive _ | .abandon _ => []
  | .enter call =>
    match h.meet c now call with
    | (_, .error _) => []
    | (met, .ok (key, _)) =>
      match met.issue now (call.request c) key with
      | (_, .error _) => []
      | (sent, .ok tag) => taken tag now sent.network.inbox
  | .resume p => taken p.tag now h.network.inbox

/-! ## Sessions that last -/

/-- A session that is there afterwards was there before, with the same last sign of life. -/
def Lasts (h h' : Handler) : Prop :=
  h'.connection.isAuthenticated = true →
    h.connection.isAuthenticated = true ∧ h'.lastActivity = h.lastActivity

theorem Lasts.refl (h : Handler) : Lasts h h :=
  fun hauth => ⟨hauth, rfl⟩

theorem Lasts.trans (first : Lasts h h') (second : Lasts h' h'') : Lasts h h'' := by
  intro hauth
  obtain ⟨hauth', hsame'⟩ := second hauth
  obtain ⟨hauth'', hsame⟩ := first hauth'
  exact ⟨hauth'', hsame'.trans hsame⟩

theorem lasts_disconnect (h : Handler) : Lasts h h.disconnect :=
  fun hauth => by cases hauth

theorem lasts_loseSession (h : Handler) : Lasts h h.loseSession := by
  unfold loseSession
  split
  · exact lasts_disconnect h
  · exact .refl h

theorem lasts_unsettle (h : Handler) : Lasts h h.unsettle := by
  unfold unsettle
  split
  · exact lasts_disconnect h
  · exact lasts_disconnect h
  · exact .refl h

theorem lasts_release (h : Handler) (held : Option Text) : Lasts h (h.release held) := by
  unfold release
  split
  · rename_i hconn
    exact fun _ => ⟨by rw [hconn]; rfl, rfl⟩
  · exact .refl h

theorem lasts_heed (h : Handler) (r : Request) (answered : Except Error Reply) :
    Lasts h (h.heed r answered) := by
  unfold heed
  split
  · split
    · exact lasts_loseSession h
    · exact .refl h
  · exact .refl h

theorem lasts_arrive (c : Client) (now : Instant) (h : Handler) (call : Call) :
    Lasts h (arrive c now call h).1 := by
  rw [arrive_fst]
  split
  · exact lasts_disconnect h
  · exact .refl h

theorem lasts_abandon (h : Handler) (p : Pending) : Lasts h (h.abandon p) := by
  unfold abandon
  split
  · exact lasts_unsettle h
  · exact lasts_unsettle h
  · exact lasts_release h p.held
  · exact lasts_release h p.held

theorem Refuses.lasts {call : Call} {e : Error} (hrefuse : Refuses c now h call e h') :
    Lasts h h' := by
  cases hrefuse with
  | expired => exact lasts_disconnect h
  | _ => exact .refl h

theorem Admits.lasts {call : Call} {key held : Option Text}
    (hadmits : Admits c now h call key held h') : Lasts h h' := by
  cases hadmits with
  | login => exact fun hauth => by cases hauth
  | logout => exact fun hauth => by cases hauth
  | ping => exact .refl h
  | free => exact .refl h
  | bound _ hconn => exact fun _ => ⟨by rw [hconn]; rfl, rfl⟩

theorem lasts_issue (now : Instant) (h : Handler) (r : Request) (key : Option Text) :
    Lasts h (h.issue now r key).1 := by
  have hactive : (h.issue now r key).1.lastActivity = h.lastActivity := by
    unfold issue
    dsimp only
    split <;> rfl
  intro hauth
  rw [connection_issue] at hauth
  exact ⟨hauth, hactive⟩

/-- A call that ends keeps the last sign of life, unless it is a login that a reply ends. -/
theorem lasts_conclude (c : Client) (now : Instant) (call : Call) (held : Option Text) (h : Handler)
    (answered : Except Error Reply) :
    Lasts h (conclude c now call held h answered).1 ∨
      (∃ reply, answered = .ok reply) ∧
        (conclude c now call held h answered).1.lastActivity = some now := by
  cases call with
  | login =>
    rw [conclude_login, screened_eq_heed]
    have hheed := lasts_heed h (Call.login.request c) answered
    rcases finishLogin_cases c now (h.heed (Call.login.request c) answered)
      (answered.bind fun reply => (h.screen (.auth c.auth) reply).2) with
      ⟨e, hend⟩ | ⟨e, hend⟩ | ⟨reply, result, hreply, _, hend⟩
    · rw [hend]
      exact .inl (hheed.trans (lasts_disconnect _))
    · rw [hend]
      exact .inl (hheed.trans (lasts_unsettle _))
    · rw [hend]
      refine .inr ⟨?_, rfl⟩
      cases answered with
      | ok reply => exact ⟨reply, rfl⟩
      | error e => cases hreply
  | logout =>
    rw [conclude_logout_fst, screened_eq_heed]
    exact .inl ((lasts_heed h _ answered).trans (lasts_disconnect _))
  | ping =>
    rw [conclude_ping_fst]
    exact .inl ((lasts_heed h _ answered).trans (lasts_release _ held))
  | send r =>
    rw [conclude_send_fst]
    exact .inl ((lasts_heed h r answered).trans (lasts_release _ held))

/-- An error ends no login with a session. -/
theorem lasts_conclude_error (c : Client) (now : Instant) (call : Call) (held : Option Text)
    (h : Handler) (e : Error) : Lasts h (conclude c now call held h (.error e)).1 := by
  rcases lasts_conclude c now call held h (.error e) with hlasts | ⟨⟨reply, heq⟩, _⟩
  · exact hlasts
  · cases heq

/-! ## What an act remembers -/

/-- A reply decides only if one was read. -/
theorem isReply_of_hear {p : Pending} {reply : Reply}
    (hhear : (h.hear c now p).2 = some (.ok reply)) :
    (taken p.tag now h.network.inbox).any Arrival.isReply = true := by
  rw [← spoken_listen]
  rw [hear_snd] at hhear
  split at hhear
  · rename_i hverdict
    rw [Option.some.inj hhear] at hverdict
    exact spoken_of_listen hverdict
  · split at hhear
    · cases Option.some.inj hhear
    · cases hhear

theorem lastActivity_hear_eq (c : Client) (now : Instant) (h : Handler) (p : Pending) :
    (h.hear c now p).1.lastActivity =
      if (taken p.tag now h.network.inbox).any Arrival.isReply then some now
      else h.lastActivity := by
  rw [← spoken_listen]
  rfl

/-- What reading makes of the last sign of life. -/
theorem Heeds.lasts {p : Pending} {turn : Handler × Turn Pending (Except Error Success)}
    (hheed : Heeds c now h p turn) :
    if (taken p.tag now h.network.inbox).any Arrival.isReply then
      turn.1.connection.isAuthenticated = true → turn.1.lastActivity = some now
    else Lasts h turn.1 := by
  have hactive := lastActivity_hear_eq c now h p
  have hconn := connection_hear c now h p
  split
  · rename_i hreply
    rw [if_pos hreply] at hactive
    cases hheed with
    | waits hhear =>
      rw [hhear] at hactive
      exact fun _ => hactive
    | @ends heard answered hhear =>
      rw [hhear] at hactive
      intro hauth
      rcases lasts_conclude c now p.call p.held heard answered with hlasts | ⟨_, hnow⟩
      · exact (hlasts hauth).2.trans hactive
      · exact hnow
  · rename_i hnone
    rw [if_neg hnone] at hactive
    have hheard : Lasts h (h.hear c now p).1 := by
      intro hauth
      rw [hconn] at hauth
      exact ⟨hauth, hactive⟩
    cases hheed with
    | waits hhear =>
      rw [hhear] at hheard
      exact hheard
    | @ends heard answered hhear =>
      rw [hhear] at hheard
      cases answered with
      | ok reply => exact absurd (isReply_of_hear (congrArg Prod.snd hhear)) hnone
      | error e => exact hheard.trans (lasts_conclude_error c now p.call p.held heard e)

/-- An act that reads a reply remembers the moment, and any other act keeps the last sign of life,
as far as there is a session afterwards. -/
theorem lasts_perform (c : Client) (now : Instant) (h : Handler) (a : Act Call Pending) :
    if (h.received c now a).any Arrival.isReply then
      ((service c).perform now h a).connection.isAuthenticated = true →
        ((service c).perform now h a).lastActivity = some now
    else Lasts h ((service c).perform now h a) := by
  cases a with
  | arrive call => exact lasts_arrive c now h call
  | abandon p => exact lasts_abandon h p
  | resume p => exact (heeds_resume c now h p).lasts
  | enter call =>
    show if (h.received c now (.enter call)).any Arrival.isReply then
        (enter c now call h).1.connection.isAuthenticated = true →
          (enter c now call h).1.lastActivity = some now
      else Lasts h (enter c now call h).1
    rcases admits_or_refuses c now h call with ⟨key, held, ready, hadmits⟩ | ⟨e, h', hrefuse⟩
    · have hissued := lasts_issue now ready (call.request c) key
      simp only [received, hadmits.meet_eq]
      rw [hadmits.enter_eq]
      unfold engage
      generalize ready.issue now (call.request c) key = posted at hissued
      obtain ⟨issued, e | tag⟩ := posted
      · exact hadmits.lasts.trans (hissued.trans (lasts_conclude_error c now call held issued e))
      · have hheed := (heeds_resume c now issued
          ⟨call, held, tag, now + c.requestTimeout⟩).lasts
        dsimp only at hheed ⊢
        split at hheed
        · rename_i hreply
          rw [if_pos hreply]
          exact hheed
        · rename_i hnone
          rw [if_neg hnone]
          exact hadmits.lasts.trans (hissued.trans hheed)
    · simp only [received, hrefuse.meet_eq]
      rw [hrefuse.enter_eq]
      exact hrefuse.lasts

end Handler

namespace Session

open Turnstile Handler

/-! ## The last sign of life -/

section LastSign

variable (c : Client) (l : Limits) (server : Server)

/-- What is read at an event. -/
def received (w : Session) (e : Event Call) : List Arrival :=
  (w.act? (service c) l e).elim [] (w.state.received c w.now)

/-- The event brings a sign of life: a reply is read, or a login succeeds. -/
def SignOfLife (events : List (Event Call)) (e : Event Call) : Prop :=
  (∃ a ∈ received c l (after c l server events) e, ∃ reply, a.delivery.read = .ok reply) ∨
    ∃ key, Granted (after c l server events) (after c l server (events ++ [e])) key

/-- The last sign of life came at this moment. -/
def LastSign (events : List (Event Call)) (last : Instant) : Prop :=
  ∃ early e since, events = early ++ e :: since ∧ SignOfLife c l server early e ∧
    (after c l server early).now = last ∧
    ∀ mid next rest, since = mid ++ next :: rest →
      ¬ SignOfLife c l server (early ++ e :: mid) next

variable {c l server} {events : List (Event Call)} {e : Event Call} {last : Instant}

theorem any_isReply_iff {arrivals : List Arrival} :
    arrivals.any Arrival.isReply = true ↔
      ∃ a ∈ arrivals, ∃ reply, a.delivery.read = .ok reply := by
  rw [List.any_eq_true]
  refine exists_congr fun a => and_congr_right fun _ => ?_
  unfold Arrival.isReply
  cases a.delivery.read with
  | error e => simp [Except.isOk, Except.toBool]
  | ok reply => simp [Except.isOk, Except.toBool]

/-- A login that succeeds remembers the moment. -/
theorem lastActivity_of_granted {key : Text}
    (hgranted : Granted (after c l server events) (after c l server (events ++ [e])) key) :
    (after c l server (events ++ [e])).state.lastActivity =
      some (after c l server events).now := by
  obtain ⟨id, held, h, answered, result, rfl, hdecides, hresult, _⟩ :=
    exists_decides_of_granted hgranted
  rw [after_concat, hdecides.state_eq]
  rw [conclude_login] at hresult ⊢
  rcases finishLogin_cases c (after c l server events).now (screened c .login h answered)
    (answered.bind fun reply => (h.screen (.auth c.auth) reply).2) with
    ⟨e, hend⟩ | ⟨e, hend⟩ | ⟨reply, result', _, _, hend⟩
  · rw [hend] at hresult
    cases hresult
  · rw [hend] at hresult
    cases hresult
  · rw [hend]

/-- An event at which a reply is read is remembered, and any other keeps the last sign of life, as
far as there is a session afterwards. -/
theorem lasts_step (c : Client) (l : Limits) (w : Session) (e : Event Call) :
    if (received c l w e).any Arrival.isReply then
      (w.step (service c) l e).state.connection.isAuthenticated = true →
        (w.step (service c) l e).state.lastActivity = some w.now
    else Lasts w.state (w.step (service c) l e).state := by
  rw [state_step]
  unfold received
  cases w.act? (service c) l e with
  | none => exact .refl _
  | some a => exact lasts_perform c w.now w.state a

/-- A sign of life is remembered with its moment. -/
theorem lastActivity_of_signOfLife (hsign : SignOfLife c l server events e)
    (hauth : (after c l server (events ++ [e])).state.connection.isAuthenticated = true) :
    (after c l server (events ++ [e])).state.lastActivity =
      some (after c l server events).now := by
  rcases hsign with hread | ⟨key, hgranted⟩
  · have hstep := lasts_step c l (after c l server events) e
    rw [if_pos (any_isReply_iff.2 hread), ← after_concat] at hstep
    exact hstep hauth
  · exact lastActivity_of_granted hgranted

/-- What is no sign of life keeps the last one. -/
theorem lasts_of_not_signOfLife (hnot : ¬ SignOfLife c l server events e) :
    Lasts (after c l server events).state (after c l server (events ++ [e])).state := by
  have hstep := lasts_step c l (after c l server events) e
  rw [if_neg fun hreply => hnot (.inl (any_isReply_iff.1 hreply)), ← after_concat] at hstep
  exact hstep

theorem lastSign_of_signOfLife (hsign : SignOfLife c l server events e) :
    LastSign c l server (events ++ [e]) (after c l server events).now := by
  refine ⟨events, e, [], rfl, hsign, rfl, ?_⟩
  intro mid next rest heq
  simp at heq

theorem LastSign.concat (hlast : LastSign c l server events last)
    (hnot : ¬ SignOfLife c l server events e) : LastSign c l server (events ++ [e]) last := by
  obtain ⟨early, first, since, rfl, hsign, hnow, hsince⟩ := hlast
  refine ⟨early, first, since ++ [e], by simp, hsign, hnow, ?_⟩
  intro mid next rest heq
  rcases cut_concat heq with ⟨rfl, rfl⟩ | ⟨rest', hcut⟩
  · exact hnot
  · exact hsince mid next rest' hcut

/-- There is one last sign of life at most. -/
theorem LastSign.unique {last' : Instant} (h : LastSign c l server events last)
    (h' : LastSign c l server events last') : last = last' := by
  obtain ⟨early, e, since, rfl, hsign, hnow, hsince⟩ := h
  obtain ⟨early', e', since', hcut, hsign', hnow', hsince'⟩ := h'
  rcases List.append_eq_append_iff.1 hcut with ⟨mid, rfl, hrest⟩ | ⟨mid, rfl, hrest⟩
  · cases mid with
    | nil =>
      rw [List.append_nil] at hnow'
      exact hnow.symm.trans hnow'
    | cons first mid =>
      obtain ⟨rfl, rfl⟩ := List.cons.inj hrest
      exact absurd hsign' (hsince mid e' since' rfl)
  · cases mid with
    | nil =>
      rw [List.append_nil] at hnow
      exact hnow.symm.trans hnow'
    | cons first mid =>
      obtain ⟨rfl, rfl⟩ := List.cons.inj hrest
      exact absurd hsign (hsince' mid e since rfl)

/-- The handler knows the last sign of life of a session that is there. -/
theorem exists_lastSign (events : List (Event Call))
    (hauth : (after c l server events).state.connection.isAuthenticated = true) :
    ∃ last, (after c l server events).state.lastActivity = some last ∧
      LastSign c l server events last := by
  induction events using List.reverseRecOn with
  | nil => cases hauth
  | append_singleton events e ih =>
    by_cases hsign : SignOfLife c l server events e
    · exact ⟨_, lastActivity_of_signOfLife hsign hauth, lastSign_of_signOfLife hsign⟩
    · obtain ⟨hbefore, hsame⟩ := lasts_of_not_signOfLife hsign hauth
      obtain ⟨last, hactive, hlast⟩ := ih hbefore
      exact ⟨last, hsame.trans hactive, hlast.concat hsign⟩

/-- The silence of a session is the time since its last sign of life. -/
theorem LastSign.idle_eq (hlast : LastSign c l server events last)
    (hauth : (after c l server events).state.connection.isAuthenticated = true) :
    (after c l server events).state.idle (after c l server events).now =
      (after c l server events).now - last := by
  obtain ⟨last', hactive, hlast'⟩ := exists_lastSign events hauth
  obtain rfl := hlast.unique hlast'
  unfold idle
  rw [hactive]
  rfl

/-- The last sign of life is not in the future. -/
theorem LastSign.le_now (hlast : LastSign c l server events last)
    (hauth : (after c l server events).state.connection.isAuthenticated = true) :
    last ≤ (after c l server events).now := by
  obtain ⟨last', hactive, hlast'⟩ := exists_lastSign events hauth
  obtain rfl := hlast.unique hlast'
  obtain ⟨last', hactive', hle⟩ := alive_after c l server events hauth
  rw [hactive] at hactive'
  cases hactive'
  exact hle

end LastSign

/-! ## Commands that find the session too old -/

section Expiry

variable (c : Client) (l : Limits) (server : Server)

/-- A caller with a command of the session looks whether there is one: when it arrives, and when its
turn has come. -/
inductive LooksForSession (w : Session) (id : Caller) (r : Request) : Event Call → Prop where
  | arrives (hnew : w.stage id = none) : LooksForSession w id r (.call id (.job (.send r)))
  | hasTurn {pace : Pace} (hin : GoesIn (service c) l w id (.send r) pace) :
      LooksForSession w id r (.poll id)

variable {c l server}

/-- Whoever finds the session too old ends it and leaves. -/
theorem step_of_expired {w : Session} {id : Caller} {r : Request} {e : Event Call}
    (hlooks : LooksForSession c l w id r e) (hbound : r.requiresSession = true)
    (hauth : w.state.connection.isAuthenticated = true)
    (hidle : c.sessionTimeout < w.state.idle w.now) :
    (w.step (service c) l e).stage id =
        some (.left (.result (.error (expired (w.state.idle w.now))))) ∧
      (w.step (service c) l e).state = w.state.disconnect := by
  cases hlooks with
  | arrives hnew =>
    have harrive : (service c).arrive w.now (.send r) w.state =
        (w.state.disconnect, some (.error (expired (w.state.idle w.now)))) := by
      show arrive c w.now (.send r) w.state = _
      simp [arrive, checkSession, hbound, hauth, hidle]
    show (w.call (service c) id (.job (.send r))).stage id = _ ∧
      (w.call (service c) id (.job (.send r))).state = _
    rw [call_job_of_none (service c) hnew, harrive]
    exact ⟨stage_setStage_self _ _ _, rfl⟩
  | hasTurn hin => exact step_of_refuses hin (.expired hbound hauth hidle)

/-- A command of the session that is sent finds the last sign of life recent enough. -/
theorem Posts.exists_lastSign {events : List (Event Call)} {id : Caller} {call : Call}
    {key : Option Text} {ready : Handler} {line : Text}
    (hposts : Posts c l (after c l server events) id call key ready line)
    (hbound : call.isBound = true) :
    ∃ last, LastSign c l server events last ∧ last ≤ (after c l server events).now ∧
      (after c l server events).now - last ≤ c.sessionTimeout := by
  obtain ⟨held, hadmits⟩ := hposts.admits
  cases hadmits with
  | @bound r key _ hconn hidle =>
    have hauth : (after c l server events).state.connection.isAuthenticated = true := by
      rw [hconn]
      rfl
    obtain ⟨last, _, hlast⟩ := Session.exists_lastSign events hauth
    rw [hlast.idle_eq hauth] at hidle
    exact ⟨last, hlast, hlast.le_now hauth, hidle⟩
  | free hfree =>
    have hfree' : Call.isBound (.send _) = false := hfree
    rw [hbound] at hfree'
    cases hfree'
  | _ => cases hbound

/-- No command of the session goes out on a session that was silent for too long, however long its
caller has waited: at the moment of sending the last sign of life is recent enough.  A caller that
finds it too old, when it arrives or when its turn has come, leaves with the code 501, sends nothing
and ends the session, and no command of the session is sent until another login succeeds. -/
theorem expiry_enforced (c : Client) (l : Limits) (server : Server) (events : List (Event Call)) :
    (∀ (i : Nat) (t : Instant) (line : Text),
      (after c l server events).state.network.sent[i]? = some (t, line) →
        ∃ before id later call key ready, events = before ++ .poll id :: later ∧
          (lines c l server before).length = i ∧ (after c l server before).now = t ∧
          Posts c l (after c l server before) id call key ready line ∧
          (call.isBound = true → ∃ last, LastSign c l server before last ∧ last ≤ t ∧
            t - last ≤ c.sessionTimeout)) ∧
      ∀ before e later id r last, events = before ++ [e] ++ later →
        LooksForSession c l (after c l server before) id r e → r.requiresSession = true →
        (after c l server before).state.connection.isAuthenticated = true →
        LastSign c l server before last →
        c.sessionTimeout < (after c l server before).now - last →
        let expired := after c l server (before ++ [e])
        (∃ code reason, code.number = 501 ∧
          expired.stage id = some (.left (.result (.error (.sessionInvalidated code reason))))) ∧
        expired.state.network.sent = (after c l server before).state.network.sent ∧
        expired.state.connection = .disconnected ∧
        (NoLogin c l server (before ++ [e]) later → ∀ id' call i,
          SentBy c l server events id' call i → (lines c l server before).length ≤ i →
            (call.request c).requiresSession = false) := by
  constructor
  · intro i t line hsent
    obtain ⟨before, id, later, call, key, ready, hevents, hi, rfl, hposts⟩ :=
      exists_posts_at c l server events hsent
    exact ⟨before, id, later, call, key, ready, hevents, hi, rfl, hposts, hposts.exists_lastSign⟩
  · rintro before e later id r last rfl hlooks hbound hauth hlast hold
    rw [← hlast.idle_eq hauth] at hold
    obtain ⟨hstage, hstate⟩ := step_of_expired hlooks hbound hauth hold
    rw [← after_concat] at hstage hstate
    refine ⟨⟨.loginFirst, _, rfl, hstage⟩, ?_, ?_, ?_⟩
    · rw [hstate]
      rfl
    · rw [hstate]
      rfl
    · intro hno id' call i hsent hi
      have hnone : (after c l server (before ++ [e])).state.connection.session? = none := by
        rw [hstate]
        rfl
      have hlines : lines c l server (before ++ [e]) = lines c l server before := by
        unfold lines
        rw [hstate]
        rfl
      refine requiresSession_eq_false_of_sentSince hnone hno hsent fun hearly => ?_
      have hlt := hearly.lt_length
      rw [hlines] at hlt
      exact absurd hi (Nat.not_le.2 hlt)

/-- A sign of life that is never answered makes a calendar wait in line, and the session is too old
when its turn comes. -/
example :
    let w := after .plain Settings.default.spacing.limits
      (.scripted [.respond [⟨0, .reply .own "200 abc12 LOGIN ACCEPTED"⟩]])
      [.call 0 (.job .login), .poll 0, .tick (.ofSecs 1798), .call 1 (.job .ping), .poll 1,
        .call 2 (.job (.send .calendar)), .tick (.ofSecs 30), .poll 1, .poll 2,
        .tick (.ofMillis 2550), .poll 2]
    w.stage 2 = some (.left (.result (.error (.sessionInvalidated .loginFirst
        "session expired after 1830.55s idle".toList)))) ∧
      w.state.connection = .disconnected ∧ w.state.lines.length = 2 := by
  decide +kernel

end Expiry

end Session

end AnidbClient
