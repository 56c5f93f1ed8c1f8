import AnidbClient.Proofs.Session.Callers

/-!
# Replies belong to the commands they answer

Over an honest server no call takes the reply to another command for its own, in whatever order
replies come and however many of them are left over.  `Decides.ownReply` is the reason: the reply
that decides a call answers the command that the caller of that call has sent.

`Origin` tells where the result of a call comes from, and `Falls` why a connection is
`disconnected` after an event.  `replies_attributed` puts them together.
-/

namespace AnidbClient

namespace Handler

section Refused

variable {c : Client} {now : Instant} {h h' : Handler} {call : Call}

/-- Newcomers are turned away for want of a session. -/
theorem eq_of_arrive {r : Except Error Success} (harrive : (arrive c now call h).2 = some r) :
    r = .error .notAuthenticated ∨ r = .error (expired (h.idle now)) := by
  cases call with
  | send request =>
    have hcheck : ∀ e, (h.checkSession c now).2 = .error e →
        e = .notAuthenticated ∨ e = expired (h.idle now) := by
      intro e he
      unfold checkSession at he
      split at he
      · exact .inl (Except.error.inj he).symm
      · split at he
        · exact .inr (Except.error.inj he).symm
        · cases he
    simp only [arrive] at harrive
    split at harrive
    · split at harrive
      · rename_i h'' e heq
        obtain rfl := Option.some.inj harrive
        exact (hcheck e (congrArg Prod.snd heq)).imp (congrArg _) (congrArg _)
      · cases harrive
    · cases harrive
  | _ => cases harrive

theorem Refuses.isUnanswered_or {e : Error} (hrefuse : Refuses c now h call e h') :
    e.isUnanswered = true ∨ ∃ idle, e = Handler.expired idle := by
  cases hrefuse with
  | expired => exact .inr ⟨_, rfl⟩
  | _ => exact .inl rfl

/-- Whoever is admitted to a connection that is not `disconnected` leaves it so. -/
theorem Admits.connection_ne {key held : Option Text} (hadmits : Admits c now h call key held h')
    (hconn : h.connection ≠ .disconnected) : h'.connection ≠ .disconnected := by
  cases hadmits with
  | ping => exact hconn
  | free => exact hconn
  | _ => simp

end Refused

end Handler

namespace Session

open Turnstile Handler

section Attribution

variable (c : Client) (l : Limits) (server : Server)

/-- The reply answers the command that the caller sent with this call. -/
def OwnReply (events : List (Event Call)) (id : Caller) (call : Call) (reply : Reply) : Prop :=
  ∃ i, SentBy c l server events id call i ∧ server.Replies (lines c l server events) i reply

/-- Where the result of a caller comes from. -/
inductive Origin (events : List (Event Call)) (id : Caller) : Except Error Success → Prop where
  | reply {call : Call} {reply : Reply} (hown : OwnReply c l server events id call reply) :
      Origin events id (call.outcome c (.ok reply))
  /-- It is an error that tells of no reply. -/
  | noReply {e : Error} (hno : e.isUnanswered = true) : Origin events id (.error e)
  /-- The session was silent for too long, and the caller never sent anything. -/
  | expired {idle : Duration} (hnone : ∀ call i, ¬ SentBy c l server events id call i) :
      Origin events id (.error (expired idle))

/-- Why the connection is `disconnected` after one event more. -/
inductive Falls (events : List (Event Call)) : Event Call → Prop where
  /-- A reply decided the call of a caller, and answers the command of that caller. -/
  | reply {id : Caller} {call : Call} {held : Option Text} {h : Handler} {reply : Reply}
      (hdecides : Decides c l (after c l server events) id call held h (.ok reply))
      (hown : OwnReply c l server (events ++ [.poll id]) id call reply) : Falls events (.poll id)
  /-- An error that tells of no reply decided the call of a caller. -/
  | noReply {id : Caller} {call : Call} {held : Option Text} {h : Handler} {e : Error}
      (hdecides : Decides c l (after c l server events) id call held h (.error e))
      (hno : e.isUnanswered = true) : Falls events (.poll id)
  /-- The session was found silent for too long by a newcomer. -/
  | arrival {id : Caller} {call : Call}
      (hidle : c.sessionTimeout <
        (after c l server events).state.idle (after c l server events).now) :
      Falls events (.call id (.job call))
  /-- The session was found silent for too long by a caller that was let in. -/
  | entry {id : Caller} {call : Call} {pace : Pace} {e : Error} {h : Handler}
      (hin : GoesIn (service c) l (after c l server events) id call pace)
      (hrefuse : Refuses c (after c l server events).now (after c l server events).state call e h)
      (hidle : c.sessionTimeout <
        (after c l server events).state.idle (after c l server events).now) :
      Falls events (.poll id)
  /-- The caller inside was called away. -/
  | drop {id : Caller} {p : Pending}
      (hstage : (after c l server events).stage id = some (.inside p)) : Falls events (.drop id)

variable {c l server} {events : List (Event Call)} {id : Caller} {call : Call} {reply : Reply}

theorem OwnReply.append (hown : OwnReply c l server events id call reply)
    (later : List (Event Call)) : OwnReply c l server (events ++ later) id call reply := by
  obtain ⟨i, hsent, hreplies⟩ := hown
  obtain ⟨more, hlines⟩ := lines_append c l server events later
  exact ⟨i, hsent.append later, hlines ▸ hreplies.append more⟩

/-- The handler of a caller that has just sent its command. -/
private theorem traced_of_issue {pace : Pace} {key held : Option Text} {h h' : Handler} {t : Text}
    (hin : GoesIn (service c) l (after c l server events) id call pace)
    (hadmits : Admits c (after c l server events).now (after c l server events).state call key
      held h)
    (hissue : h.issue (after c l server events).now (call.request c) key = (h', .ok t)) :
    Traced server h' ∧ h'.lines = lines c l server (events ++ [.poll id]) := by
  have htraced := traced_after c l server events
  obtain ⟨_, hgrown⟩ := sentBy_of_issue hin hadmits hissue
  have hissued := (hadmits.sameWire.traced htraced).issue (after c l server events).now
    (call.request c) key
  rw [hissue] at hissued
  refine ⟨hissued, ?_⟩
  rw [lines_issue_of_ok hissue, hadmits.sameWire.lines_eq, hgrown]
  rfl

/-- The reply that decides a call answers the command of its caller. -/
theorem Decides.ownReply {held : Option Text} {h : Handler}
    (hdecides : Decides c l (after c l server events) id call held h (.ok reply))
    (hhonest : server.HonestOn (lines c l server (events ++ [.poll id]))) :
    OwnReply c l server (events ++ [.poll id]) id call reply := by
  have htraced := traced_after c l server events
  cases hdecides with
  | @waiting p h answered hstage hhear =>
    obtain ⟨i, line, hsent, hline, htag⟩ := exists_sentBy hstage
    obtain ⟨a, ha, hread, hanswers⟩ := exists_of_hear (congrArg Prod.snd hhear)
    obtain ⟨more, hlines⟩ := lines_append c l server events [.poll id]
    rw [hlines] at hhonest
    have hreplies : server.Replies (lines c l server events) i reply :=
      htraced.answered hhonest.of_append hline htag ha hread hanswers
    exact ⟨i, hsent.append _, hlines ▸ hreplies.append more⟩
  | @atOnce call pace key held h' h'' h t answered hin hadmits hissue hhear =>
    -- The command is the last one that was sent, and what is read came no later than with it.
    obtain ⟨hsent, hgrown⟩ := sentBy_of_issue hin hadmits hissue
    obtain ⟨hissued, hlines⟩ := traced_of_issue hin hadmits hissue
    obtain ⟨a, ha, hread, hanswers⟩ := exists_of_hear (congrArg Prod.snd hhear)
    have hline : h''.lines[(lines c l server events).length]? =
        some ((call.request c).line key (some t)) := by
      rw [hlines, hgrown]
      exact List.getElem?_concat_length
    rw [← hlines] at hhonest
    have hreplies : server.Replies h''.lines (lines c l server events).length reply :=
      hissued.answered hhonest hline (splitTag_of_issue hissue) ha hread hanswers
    exact ⟨_, hsent, hlines ▸ hreplies⟩

/-- An error that decides a call tells of no reply. -/
theorem Decides.isUnanswered {held : Option Text} {h : Handler} {e : Error}
    (hdecides : Decides c l (after c l server events) id call held h (.error e))
    (hhonest : server.HonestOn (lines c l server (events ++ [.poll id]))) :
    e.isUnanswered = true := by
  have htraced := traced_after c l server events
  cases hdecides with
  | @waiting p h answered hstage hhear =>
    obtain ⟨more, hlines⟩ := lines_append c l server events [.poll id]
    rw [hlines] at hhonest
    rcases eq_timeout_or_exists_of_hear (congrArg Prod.snd hhear) with rfl | ⟨a, ha, hread⟩
    · rfl
    · exact htraced.isUnanswered hhonest.of_append ha hread
  | unsent hin hadmits hissue =>
    exact Error.isUnanswered_of_isUnsent (isUnsent_of_issue (congrArg Prod.snd hissue))
  | @atOnce call pace key held h' h'' h t answered hin hadmits hissue hhear =>
    rcases eq_timeout_or_exists_of_hear (congrArg Prod.snd hhear) with rfl | ⟨a, ha, hread⟩
    · rfl
    · obtain ⟨hissued, hlines⟩ := traced_of_issue hin hadmits hissue
      exact hissued.isUnanswered (hlines ▸ hhonest) ha hread

/-! ## Results -/

/-- Whoever has a result sends nothing any more. -/
private theorem Origin.concat {r : Except Error Success}
    (horigin : Origin c l server events id r)
    (hleft : (after c l server events).stage id = some (.left (.result r))) (e : Event Call) :
    Origin c l server (events ++ [e]) id r := by
  cases horigin with
  | reply hown => exact .reply (hown.append [e])
  | noReply hno => exact .noReply hno
  | expired hnone =>
    refine .expired ?_
    intro call i hsent
    rcases hsent.of_concat with hearlier | ⟨_, _, _, hin, _, _⟩
    · exact hnone call i hearlier
    · have hahead := hin.isAhead
      simp [IsAhead, hleft, Stage.isAhead] at hahead

/-- Whoever is turned away when it arrives has never sent anything. -/
private theorem origin_of_arrive {h : Handler} {r : Except Error Success}
    (hnew : (after c l server events).stage id = none)
    (harrive : arrive c (after c l server events).now call (after c l server events).state =
      (h, some r)) : Origin c l server (events ++ [.call id (.job call)]) id r := by
  rcases eq_of_arrive (congrArg Prod.snd harrive) with rfl | rfl
  · exact .noReply rfl
  · refine .expired ?_
    intro call' i hsent
    rcases hsent.of_concat with hearlier | ⟨_, _, hpoll, _, _, _⟩
    · exact hearlier.not_isAhead (by simp [IsAhead, hnew])
    · cases hpoll

/-- Whoever is turned away when it is let in has never sent anything. -/
private theorem origin_of_refuses {pace : Pace} {e : Error} {h : Handler}
    (hin : GoesIn (service c) l (after c l server events) id call pace)
    (hrefuse : Refuses c (after c l server events).now (after c l server events).state call e h) :
    Origin c l server (events ++ [.poll id]) id (.error e) := by
  have hlines : lines c l server (events ++ [.poll id]) = lines c l server events := by
    unfold lines
    rw [after_concat]
    show ((after c l server events).poll (service c) l id).state.lines = _
    rw [hin.poll_eq, state_settle]
    show (enter c _ call _).1.lines = _
    rw [hrefuse.enter_eq, hrefuse.sameWire.lines_eq]
  rcases hrefuse.isUnanswered_or with hno | ⟨idle, rfl⟩
  · exact .noReply hno
  · refine .expired ?_
    intro call' i hsent
    rcases hsent.of_concat with hearlier | ⟨_, line, _, _, hgrown, _⟩
    · exact hearlier.not_isAhead hin.isAhead
    · rw [hlines] at hgrown
      simp at hgrown

/-- The result of a call that is decided comes from what decided it. -/
private theorem origin_of_decides {held : Option Text} {h : Handler} {answered : Except Error Reply}
    (hdecides : Decides c l (after c l server events) id call held h answered)
    (hhonest : server.HonestOn (lines c l server (events ++ [.poll id]))) :
    Origin c l server (events ++ [.poll id]) id
      (conclude c (after c l server events).now call held h answered).2 := by
  rw [conclude_snd hdecides.suits]
  cases answered with
  | ok reply => exact .reply (hdecides.ownReply hhonest)
  | error e =>
    have hno := hdecides.isUnanswered hhonest
    rw [outcome_of_error hno]
    exact .noReply hno

/-- Every result comes from a reply to the command of its caller, or from no reply at all. -/
theorem origin_after {r : Except Error Success}
    (hhonest : server.HonestOn (lines c l server events))
    (hleft : (after c l server events).stage id = some (.left (.result r))) :
    Origin c l server events id r := by
  -- From the last event back: the result was there before, or the last event brought it.
  induction events using List.reverseRecOn with
  | nil => cases hleft
  | append_singleton events e ih =>
    have hfate := fate_step c l (after c l server events) id e
    rw [← after_concat] at hfate
    generalize (after c l server (events ++ [e])).stage id = s at hleft hfate
    cases hfate with
    | same =>
      obtain ⟨more, hlines⟩ := lines_append c l server events [e]
      rw [hlines] at hhonest
      exact (ih hhonest.of_append hleft).concat hleft e
    | aside _ hresult => exact absurd (Option.some.inj hleft) (hresult r)
    | turnedAway hnew harrive =>
      cases hleft
      exact origin_of_arrive hnew harrive
    | refused hin hrefuse =>
      cases hleft
      exact origin_of_refuses hin hrefuse
    | waits => cases hleft
    | decided hdecides =>
      cases hleft
      exact origin_of_decides hdecides hhonest

/-! ## Losses -/

private theorem Decides.falls {held : Option Text} {h : Handler} {answered : Except Error Reply}
    (hdecides : Decides c l (after c l server events) id call held h answered)
    (hhonest : server.HonestOn (lines c l server (events ++ [.poll id]))) :
    Falls c l server events (.poll id) := by
  cases answered with
  | ok reply => exact .reply hdecides (hdecides.ownReply hhonest)
  | error e => exact .noReply hdecides (hdecides.isUnanswered hhonest)

private theorem falls_of_enter {pace : Pace}
    (hin : GoesIn (service c) l (after c l server events) id call pace)
    (hhonest : server.HonestOn (lines c l server (events ++ [.poll id])))
    (hbefore : (after c l server events).state.connection ≠ .disconnected)
    (hafter : ((service c).enter (after c l server events).now call
      (after c l server events).state).1.connection = .disconnected) :
    Falls c l server events (.poll id) := by
  have henter : Enters c (after c l server events).now (after c l server events).state call
      ((service c).enter (after c l server events).now call (after c l server events).state) :=
    enters_enter c _ _ call
  generalize (service c).enter (after c l server events).now call
    (after c l server events).state = turn at henter hafter
  cases henter with
  | refused hrefuse =>
    cases hrefuse with
    | expired hbound hconn hidle => exact .entry hin (.expired hbound hconn hidle) hidle
    | _ => exact absurd hafter hbefore
  | unsent hadmits hissue => exact Decides.falls (.unsent hin hadmits hissue) hhonest
  | @sent key held ready issued t turn hadmits hissue hheed =>
    cases hheed with
    | @waits heard hhear =>
      have hissued := connection_issue (after c l server events).now ready (call.request c) key
      have hheard := connection_hear c (after c l server events).now issued
        ⟨call, held, t, (after c l server events).now + c.requestTimeout⟩
      rw [hissue] at hissued
      rw [hhear] at hheard
      have hsame : heard.connection = ready.connection := hheard.trans hissued
      exact absurd (hsame.symm.trans hafter) (hadmits.connection_ne hbefore)
    | ends hhear => exact Decides.falls (.atOnce hin hadmits hissue hhear) hhonest

private theorem falls_of_resume {p : Pending}
    (hstage : (after c l server events).stage id = some (.inside p))
    (hhonest : server.HonestOn (lines c l server (events ++ [.poll id])))
    (hbefore : (after c l server events).state.connection ≠ .disconnected)
    (hafter : ((service c).resume (after c l server events).now p
      (after c l server events).state).1.connection = .disconnected) :
    Falls c l server events (.poll id) := by
  have hheed : Heeds c (after c l server events).now (after c l server events).state p
      ((service c).resume (after c l server events).now p (after c l server events).state) :=
    heeds_resume c _ _ p
  generalize (service c).resume (after c l server events).now p
    (after c l server events).state = turn at hheed hafter
  cases hheed with
  | waits hhear =>
    have hheard := connection_hear c (after c l server events).now (after c l server events).state p
    rw [hhear] at hheard
    exact absurd (hheard.symm.trans hafter) hbefore
  | ends hhear => exact Decides.falls (.waiting hstage hhear) hhonest

/-- There is no other way for the connection to fall back. -/
theorem falls_of_disconnected {e : Event Call}
    (hhonest : server.HonestOn (lines c l server (events ++ [e])))
    (hbefore : (after c l server events).state.connection ≠ .disconnected)
    (hafter : (after c l server (events ++ [e])).state.connection = .disconnected) :
    Falls c l server events e := by
  rw [after_concat] at hafter
  have hm := move_step (service c) l (after c l server events) e
  generalize (after c l server events).step (service c) l e = w' at hm hafter
  have hcome : ∀ {k : Caller} {j : Call} {h : Handler} {o : Option (Except Error Success)},
      (service c).arrive (after c l server events).now j (after c l server events).state = (h, o) →
        h.connection = .disconnected → Falls c l server events (.call k (.job j)) := by
    intro k j h o harrive hconn
    obtain rfl : (arrive c _ j _).1 = h := congrArg Prod.fst harrive
    rw [arrive_fst] at hconn
    split at hconn
    · rename_i hexpires
      exact .arrival hexpires.2.2
    · exact absurd hconn hbefore
  cases hm with
  | refuse _ harrive => exact hcome harrive hafter
  | queue _ harrive => exact hcome harrive hafter
  | enter hin =>
    rw [state_settle] at hafter
    exact falls_of_enter hin hhonest hbefore hafter
  | resume hstage =>
    rw [state_settle] at hafter
    exact falls_of_resume hstage hhonest hbefore hafter
  | dropInside hstage => exact .drop hstage
  | _ => exact absurd hafter hbefore

/-! ## The law -/

/-- Whatever callers do, every command has a tag of its own, and a caller sends one command at
most.  Over an honest server whoever has a result has it from a reply to its own command or from no
reply at all, and a reply that ends a session or an attempt to begin one answers the command of the
caller that got it. -/
theorem replies_attributed (c : Client) (l : Limits) (server : Server)
    (events : List (Event Call)) :
    (∃ tags : List Text, tags.Nodup ∧
        (lines c l server events).map (fun line => (CommandLine.splitTag line).2) =
          tags.map some) ∧
      (∀ id call call' i j, SentBy c l server events id call i →
        SentBy c l server events id call' j → call = call' ∧ i = j) ∧
      (server.HonestOn (lines c l server events) →
        (∀ id r, (after c l server events).stage id = some (.left (.result r)) →
          Origin c l server events id r) ∧
        ∀ before e since, events = before ++ e :: since →
          (after c l server before).state.connection ≠ .disconnected →
          (after c l server (before ++ [e])).state.connection = .disconnected →
            Falls c l server before e) := by
  refine ⟨(traced_after c l server events).exists_tags, ?_, fun hhonest => ⟨?_, ?_⟩⟩
  · intro id call call' i j hsent hsent'
    exact hsent.unique hsent'
  · intro id r hleft
    exact origin_after hhonest hleft
  · intro before e since hevents hbefore hafter
    have hsplit : events = (before ++ [e]) ++ since := by
      rw [hevents]
      simp
    obtain ⟨more, hlines⟩ := lines_append c l server (before ++ [e]) since
    rw [hsplit, hlines] at hhonest
    exact falls_of_disconnected hhonest.of_append hbefore hafter

end Attribution

/-- A server whose reply to the first command comes too late, and twice. -/
def lateServer : Server :=
  .scripted [.respond [⟨.ofSecs 31, .reply .own "602 SERVER BUSY"⟩,
      ⟨.ofSecs 32, .reply .own "602 SERVER BUSY"⟩],
    .respond [⟨.ofSecs 2, .reply .own "300 PONG"⟩]]

/-- The first sign of life is given up, and its replies meet the second one. -/
def secondPing : List (Event Call) :=
  [.call 0 (.job .ping), .poll 0, .tick (.ofSecs 30), .poll 0, .call 1 (.job .ping), .poll 1,
    .tick (.ofSecs 3), .poll 1, .tick (.ofSecs 2), .poll 1]

theorem honestOn_lateServer :
    lateServer.HonestOn (lines .plain Settings.default.spacing.limits lateServer secondPing) := by
  have htags : ∀ line ∈ lines .plain Settings.default.spacing.limits lateServer secondPing,
      (CommandLine.splitTag line).2 = some "t1".toList ∨
        (CommandLine.splitTag line).2 = some "t2".toList := by
    decide +kernel
  have hreply : ∀ tag : Text, tag = "t1".toList ∨ tag = "t2".toList →
      ((Content.reply .own "602 SERVER BUSY").delivery tag).IsReplyTo tag ∧
        ((Content.reply .own "300 PONG").delivery tag).IsReplyTo tag := by
    intro tag htag
    refine ⟨⟨"602".toList, " SERVER BUSY".toList, rfl, by decide, ?_, ?_⟩,
      ⟨"300".toList, " PONG".toList, rfl, by decide, ?_, ?_⟩⟩
    · simp [Reply.endsToken]
    · rcases htag with rfl | rfl <;> decide
    · simp [Reply.endsToken]
    · rcases htag with rfl | rfl <;> decide
  apply Server.honestOn_scripted
  intro sendings hsendings s hs
  refine .inr fun line hline tag htag => ?_
  have htag' : tag = "t1".toList ∨ tag = "t2".toList := by
    simpa [htag] using htags line hline
  obtain ⟨hbusy, hpong⟩ := hreply tag htag'
  simp only [List.mem_cons, Reaction.respond.injEq, List.not_mem_nil, or_false] at hsendings
  rcases hsendings with rfl | rfl
  · simp only [List.mem_cons, List.not_mem_nil, or_false] at hs
    rcases hs with rfl | rfl
    · exact hbusy
    · exact hbusy
  · obtain rfl := List.mem_singleton.1 hs
    exact hpong

theorem replies_attributed_of_secondPing :
    lateServer.HonestOn (lines .plain Settings.default.spacing.limits lateServer secondPing) ∧
      Origin .plain Settings.default.spacing.limits lateServer secondPing 0
        (.error (.timeout (.ofSecs 30))) ∧
      Origin .plain Settings.default.spacing.limits lateServer secondPing 1 (.ok (.pong none)) := by
  obtain ⟨_, _, hattributed⟩ := replies_attributed .plain Settings.default.spacing.limits lateServer
    secondPing
  obtain ⟨horigin, _⟩ := hattributed honestOn_lateServer
  refine ⟨honestOn_lateServer, ?_, ?_⟩
  · exact horigin 0 _ (by decide +kernel)
  · exact horigin 1 _ (by decide +kernel)

end Session

end AnidbClient
