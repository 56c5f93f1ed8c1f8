import AnidbClient.Proofs.Session.Outcome

/-!
# What a command leaves behind

A command that fails, or whose caller is called away, leaves the session as it was.  Only what the
server says can end it, or a silence that lasted too long, and then the error says so.

There are four groups.

* `Request.verdict` is what the reply to a command brings.  The errors among the verdicts that ask
  for a login are those that end the session (`requiresReauth_of_kept`).
* `Holds` relates the connection while a command is on its way to that of the moment before, and
  `Leaves` relates what is left of it to the result of the command.  `Holds.conclude` and
  `Holds.abandon` go from the one to the other, whichever way the command ends.
* `Course` follows the caller from the line to its end, while nobody else is at work.  It is the
  invariant of the run, and `Course.move` is the step.
* `session_after_send` is the law.  It is about a caller that comes while nobody is at work, and
  about everything that can happen until another one comes.
-/

namespace AnidbClient

/-! ## What a reply brings -/

/-- What the reply to a command brings, by its code. -/
def Request.verdict (today : Date) (r : Request) (reply : Reply) : Except Error Answer :=
  if reply.code ∈ r.accepted then
    (r.payload today reply.code reply.body).map fun payload => ⟨reply.code, payload⟩
  else
    match reply.code.category with
    | .sessionInvalid | .banned =>
      .error (.sessionInvalidated reply.code (Text.firstLine reply.body))
    | .retryable => .error (.serverBusy reply.code)
    | _ => .error (.unexpectedResponse r.command reply.code reply.body)

namespace Request

variable (today : Date) {r : Request} {reply : Reply}

/-- Judging a reply and reading it gives the verdict. -/
theorem bind_judge_answer (r : Request) (reply : Reply) :
    (r.judge reply).bind (r.answer today) = r.verdict today reply := by
  unfold judge verdict
  split
  · rename_i haccepted
    show r.answer today reply = _
    unfold answer
    rw [if_pos haccepted]
  · rename_i haccepted
    have hanswer : r.answer today reply =
        .error (.unexpectedResponse r.command reply.code reply.body) := by
      unfold answer
      rw [if_neg haccepted]
    cases reply.code.category with
    | sessionInvalid => rfl
    | banned => rfl
    | retryable => rfl
    | _ => exact hanswer

theorem verdict_of_losesSession (hlost : r.losesSession reply.code = true) :
    r.verdict today reply =
      .error (.sessionInvalidated reply.code (Text.firstLine reply.body)) := by
  rw [← bind_judge_answer, judge_of_losesSession hlost]
  rfl

/-- A reply that leaves the session brings no error that asks for a login. -/
theorem requiresReauth_of_kept (hkept : r.losesSession reply.code = false) {e : Error}
    (herror : r.verdict today reply = .error e) : e.requiresReauth = false := by
  unfold verdict at herror
  split at herror
  · unfold payload at herror
    cases hread : r.read today reply.code reply.body with
    | error field =>
      rw [hread] at herror
      obtain rfl := Except.error.inj herror
      rfl
    | ok payload =>
      rw [hread] at herror
      cases herror
  · rename_i haccepted
    unfold losesSession ReturnCode.endsSession ReturnCode.isSessionInvalid
      ReturnCode.isBanned at hkept
    cases hcategory : reply.code.category with
    | sessionInvalid => simp [haccepted, hcategory] at hkept
    | banned => simp [haccepted, hcategory] at hkept
    | _ =>
      rw [hcategory] at herror
      obtain rfl := Except.error.inj herror
      rfl

end Request

theorem Error.requiresReauth_of_isUnsent {e : Error} (he : e.isUnsent = true) :
    e.requiresReauth = false := by
  cases e with
  | transport => rfl
  | encoding => rfl
  | packetTooLarge => rfl
  | _ => cases he

/-- What cannot be read is no error that asks for a login. -/
theorem Delivery.requiresReauth_of_read {d : Delivery} {e : Error} (hread : d.read = .error e) :
    e.requiresReauth = false := by
  cases d with
  | data bytes =>
    change (Reply.ofDatagram (bytes.take Protocol.receiveLimit)).mapError Error.decoding =
      .error e at hread
    cases hreply : Reply.ofDatagram (bytes.take Protocol.receiveLimit) with
    | error fault =>
      rw [hreply] at hread
      obtain rfl := Except.error.inj hread
      rfl
    | ok reply =>
      rw [hreply] at hread
      cases hread
  | failure reason =>
    obtain rfl := Except.error.inj hread
    rfl

namespace Handler

/-- An error that decides in place of a reply does not ask for a login. -/
theorem requiresReauth_of_hear {c : Client} {now : Instant} {h : Handler} {p : Pending} {e : Error}
    (hhear : (h.hear c now p).2 = some (.error e)) : e.requiresReauth = false := by
  rcases eq_timeout_or_exists_of_hear hhear with rfl | ⟨a, _, hread⟩
  · rfl
  · exact Delivery.requiresReauth_of_read hread

/-! ## While a command is on its way, and afterwards -/

/-- The connection while the command is on its way, with the key that is held and the connection of
the moment before. -/
inductive Holds (r : Request) : Connection → Option Text → Connection → Prop where
  | free {conn : Connection} (hfree : r.requiresSession = false) (hconn : conn.isSettled = true) :
      Holds r conn none conn
  | bound {key : Text} (hbound : r.requiresSession = true) :
      Holds r (.authenticated key) (some key) (.sending key)

/-- The connection after a command with this result, where `before` was the connection. -/
structure Leaves (r : Request) (before : Connection) (result : Except Error Success)
    (conn : Connection) : Prop where
  kept : (∀ code reason, result ≠ .error (.sessionInvalidated code reason)) → conn = before
  lost : ∀ code reason, result = .error (.sessionInvalidated code reason) → conn = .disconnected
  /-- A command of the session fails with an error that asks for a login exactly if there is no
  session any more. -/
  reauth : r.requiresSession = true → ∀ e, result = .error e →
    (e.requiresReauth = true ↔ conn.isAuthenticated = false)

section Leaves

variable {c : Client} {now : Instant} {h h' : Handler} {r : Request} {before conn : Connection}
  {held key : Option Text} {answered : Except Error Reply}

theorem leaves_lost (r : Request) (before : Connection) (code : ReturnCode) (reason : Text) :
    Leaves r before (.error (.sessionInvalidated code reason)) .disconnected where
  kept hnot := absurd rfl (hnot code reason)
  lost _ _ _ := rfl
  reauth _ e he := by
    obtain rfl := Except.error.inj he
    simp [Error.requiresReauth, Connection.isAuthenticated]

/-- Nothing happens to the connection, and the result asks for no login. -/
theorem leaves_kept {result : Except Error Success}
    (hbound : r.requiresSession = true → conn.isAuthenticated = true)
    (hresult : ∀ e, result = .error e → e.requiresReauth = false) : Leaves r conn result conn where
  kept _ := rfl
  lost code reason he := by cases hresult _ he
  reauth hr e he := by simp [hresult e he, hbound hr]

/-- The command was never sent, for there is no session. -/
theorem leaves_notAuthenticated (r : Request) (hconn : conn.isAuthenticated = false) :
    Leaves r conn (.error .notAuthenticated) conn where
  kept _ := rfl
  lost code reason he := by cases he
  reauth _ e he := by
    obtain rfl := Except.error.inj he
    simp [Error.requiresReauth, hconn]

theorem Holds.suits (hholds : Holds r before held conn) : Suits (.send r) held conn := by
  cases hholds with
  | free hfree hconn => exact .free hfree hconn
  | bound hbound => exact .bound hbound

theorem Holds.isAuthenticated (hholds : Holds r before held conn)
    (hbound : r.requiresSession = true) : before.isAuthenticated = true := by
  cases hholds with
  | free hfree =>
    rw [hfree] at hbound
    cases hbound
  | bound => rfl

/-- A command gives the connection back, unless its reply ended the session. -/
theorem Holds.connection_conclude (c : Client) (now : Instant)
    (hholds : Holds r before held h.connection) (answered : Except Error Reply) :
    (Handler.conclude c now (.send r) held h answered).1.connection =
      match answered with
      | .ok reply => if r.losesSession reply.code then .disconnected else before
      | .error _ => before := by
  rw [conclude_send_fst]
  generalize hconn : h.connection = conn at hholds
  cases hholds with
  | free hfree hsettled =>
    have hstate := authenticated_or_disconnected hsettled
    rw [← hconn] at hstate ⊢
    cases answered with
    | error e => rfl
    | ok reply =>
      dsimp only
      split
      · rename_i hlost
        exact connection_release_of_loses hstate hlost
      · rename_i hkept
        unfold Handler.heed
        dsimp only
        rw [if_neg hkept]
        rfl
  | bound => exact connection_release_heed hconn r answered

/-- What the command leaves behind when it is decided, unless an error does that which asks for a
login. -/
theorem Holds.conclude (hholds : Holds r before held h.connection)
    (herror : ∀ e, answered = .error e → e.requiresReauth = false) :
    Leaves r before (Handler.conclude c now (.send r) held h answered).2
      (Handler.conclude c now (.send r) held h answered).1.connection := by
  rw [conclude_snd hholds.suits]
  cases answered with
  | error e =>
    rw [show _ = before from hholds.connection_conclude c now (.error e)]
    refine leaves_kept hholds.isAuthenticated ?_
    intro e' he'
    obtain rfl := Except.error.inj he'
    exact herror e rfl
  | ok reply =>
    have houtcome : (Call.send r).outcome c (.ok reply) =
        (r.verdict c.today reply).map .answered := by
      rw [← Request.bind_judge_answer]
      rfl
    have hconn := hholds.connection_conclude c now (.ok reply)
    rw [houtcome]
    cases hlost : r.losesSession reply.code with
    | true =>
      rw [Request.verdict_of_losesSession c.today hlost, hconn.trans (if_pos hlost)]
      exact leaves_lost r before reply.code _
    | false =>
      rw [hconn.trans (if_neg (Bool.eq_false_iff.1 hlost))]
      refine leaves_kept hholds.isAuthenticated ?_
      intro e he
      cases hverdict : r.verdict c.today reply with
      | ok answer =>
        rw [hverdict] at he
        cases he
      | error e' =>
        rw [hverdict] at he
        obtain rfl := Except.error.inj he
        exact Request.requiresReauth_of_kept c.today hlost hverdict

/-- A caller that is called away gives the connection back. -/
theorem Holds.abandon {p : Pending} (hcall : p.call = .send r)
    (hholds : Holds r before p.held h.connection) : (h.abandon p).connection = before := by
  have habandon : h.abandon p = h.release p.held := by
    unfold Handler.abandon
    rw [hcall]
  rw [habandon]
  generalize hconn : h.connection = conn, p.held = held at hholds
  cases hholds with
  | free => exact hconn
  | bound => exact connection_release_of_sending h hconn

theorem Admits.holds (hadmits : Admits c now h (.send r) key held h')
    (hsettled : h.connection.isSettled = true) :
    Holds r h.connection held h'.connection := by
  cases hadmits with
  | free hfree => exact .free hfree hsettled
  | bound hbound hconn =>
    rw [hconn]
    exact .bound hbound

theorem Refuses.leaves {e : Error} (hrefuse : Refuses c now h (.send r) e h')
    (hsettled : h.connection.isSettled = true) :
    Leaves r h.connection (.error e) h'.connection := by
  cases hrefuse with
  | unauthenticated hbound hconn => exact leaves_notAuthenticated r hconn
  | expired hbound hconn hidle => exact leaves_lost r h.connection _ _
  | busy hbound hconn =>
    rw [hconn] at hsettled
    cases hsettled

end Leaves

end Handler

/-! ## One caller at work -/

/-- The caller has come with a job, and has not left. -/
def Stage.isAtWork {Job Stay Result : Type} : Stage Job Stay Result → Bool
  | .waiting (.job _) | .pacing _ _ | .inside _ => true
  | _ => false

theorem Stage.isPresent_of_isAtWork {Job Stay Result : Type} {s : Stage Job Stay Result}
    (hs : s.isAtWork = true) : s.isPresent = true := by
  cases s with
  | left => cases hs
  | gone => cases hs
  | _ => rfl

/-- The job that the caller waits to be let in with. -/
def Stage.job? {Job Stay Result : Type} : Stage Job Stay Result → Option Job
  | .waiting (.job j) | .pacing j _ => some j
  | _ => none

namespace Turnstile

variable {State Job Stay Result : Type}

/-- Nobody is at work. -/
def Idle (w : Turnstile State Job Stay Result) : Prop :=
  ∀ k s, w.stage k = some s → s.isAtWork = false

/-- Nobody but this caller is at work. -/
def Alone (w : Turnstile State Job Stay Result) (id : Caller) : Prop :=
  ∀ k s, k ≠ id → w.stage k = some s → s.isAtWork = false

variable {sv : Service State Job Stay Result} {l : Limits} {w w' : Turnstile State Job Stay Result}
  {id : Caller} {e : Event Job}

theorem Alone.eq_of_stage (halone : w.Alone id) {k : Caller} {s : Stage Job Stay Result}
    (hstage : w.stage k = some s) (hs : s.isAtWork = true) : k = id := by
  by_contra hne
  rw [halone k s hne hstage] at hs
  cases hs

/-- Nobody is at work who was not, and did not come now. -/
theorem Move.isAtWork (hm : Move sv l w e w') (hnone : ∀ k j, e ≠ .call k (.job j)) {k : Caller}
    {s : Stage Job Stay Result} (hstage : w'.stage k = some s) (hs : s.isAtWork = true) :
    ∃ t, w.stage k = some t ∧ t.isAtWork = true := by
  have hset : ∀ {v : Turnstile State Job Stay Result} {j : Caller} {t : Stage Job Stay Result},
      v.stage k = some s → v.stage k = (if k = j then some t else w.stage k) →
        (t.isAtWork = true → ∃ u, w.stage j = some u ∧ u.isAtWork = true) →
          ∃ u, w.stage k = some u ∧ u.isAtWork = true := by
    intro v j t hk hmoved hwas
    rw [hmoved] at hk
    split at hk
    · rename_i hj
      obtain rfl := Option.some.inj hk
      exact hj ▸ hwas hs
    · exact ⟨s, hk, hs⟩
  cases hm with
  | rest => exact ⟨s, hstage, hs⟩
  | tick => exact ⟨s, hstage, hs⟩
  | ask => exact hset hstage rfl (fun h => by cases h)
  | refuse => exact absurd rfl (hnone _ _)
  | queue => exact absurd rfl (hnone _ _)
  | tell => exact hset hstage rfl (fun h => by cases h)
  | pace hwaits => exact hset hstage rfl (fun _ => ⟨_, hwaits, rfl⟩)
  | @enter j job p hin =>
    refine hset hstage (stage_settle { w with pace := p } j _ k) (fun _ => ?_)
    cases hin with
    | atOnce hwaits => exact ⟨_, hwaits, rfl⟩
    | paced hpaces => exact ⟨_, hpaces, rfl⟩
  | @resume j y hinside => exact hset hstage (stage_settle w j _ k) (fun _ => ⟨_, hinside, rfl⟩)
  | dropWaiting => exact hset hstage rfl (fun h => by cases h)
  | dropPacing => exact hset hstage rfl (fun h => by cases h)
  | dropInside => exact hset hstage rfl (fun h => by cases h)

theorem Alone.move (halone : w.Alone id) (hm : Move sv l w e w')
    (hnone : ∀ k j, e ≠ .call k (.job j)) : w'.Alone id := by
  intro k s hne hstage
  by_contra hs
  obtain ⟨t, ht, hwork⟩ := hm.isAtWork hnone hstage (Bool.not_eq_false _ ▸ hs)
  exact hne (halone.eq_of_stage ht hwork)

theorem Idle.inside?_eq_none (hidle : w.Idle) : w.inside? = none := by
  apply Turnstile.inside?_eq_none
  intro k y hstage
  cases hidle k _ hstage

theorem Orderly.idle_of_line (hw : w.Orderly) (hline : w.line = []) : w.Idle := by
  intro k s hstage
  by_contra hs
  have hmem : k ∈ w.line := by
    rw [hw.mem_line_iff, hstage]
    exact Stage.isPresent_of_isAtWork (Bool.not_eq_false _ ▸ hs)
  rw [hline] at hmem
  cases hmem

variable (sv)

theorem Idle.alone_call (hidle : w.Idle) (id : Caller) (j : Job) :
    (w.call sv id (.job j)).Alone id := by
  intro k s hne hstage
  refine hidle k s ?_
  rw [← hstage]
  unfold Turnstile.call
  split
  · rfl
  · dsimp only
    split <;> rw [stage_setStage_of_ne _ _ _ hne]

end Turnstile

/-! ## The course of a command -/

namespace Session

open Turnstile Handler

section Course

variable (r : Request) (before : Connection)

/-- How far the caller has come with its command, and the connection then. -/
inductive Course : Option (Stage Call Pending (Except Error Success)) → Connection → Prop where
  | ahead {s : Stage Call Pending (Except Error Success)} (hjob : s.job? = some (.send r)) :
      Course (some s) before
  | inside {p : Pending} {conn : Connection} (hcall : p.call = .send r)
      (hholds : Holds r before p.held conn) : Course (some (.inside p)) conn
  | left {result : Except Error Success} {conn : Connection}
      (hleaves : Leaves r before result conn) : Course (some (.left (.result result))) conn
  | gone : Course (some .gone) before

variable {r before} {c : Client} {l : Limits} {now : Instant} {h : Handler}

theorem course_of_heeds {p : Pending} {turn : Handler × Turn Pending (Except Error Success)}
    (hheed : Heeds c now h p turn) (hcall : p.call = .send r)
    (hholds : Holds r before p.held h.connection) :
    Course r before (some turn.2.stage) turn.1.connection := by
  have hheard := connection_hear c now h p
  cases hheed with
  | waits hhear =>
    rw [hhear] at hheard
    exact .inside hcall (hheard ▸ hholds)
  | @ends h' answered hhear =>
    rw [hhear] at hheard
    have herror : ∀ e, answered = .error e → e.requiresReauth = false := by
      rintro e rfl
      exact requiresReauth_of_hear (congrArg Prod.snd hhear)
    rw [hcall]
    exact .left ((hheard ▸ hholds : Holds r before p.held h'.connection).conclude herror)

/-- What becomes of a caller that is let in. -/
theorem course_of_enters {turn : Handler × Turn Pending (Except Error Success)}
    (henter : Enters c now h (.send r) turn) (hsettled : h.connection.isSettled = true) :
    Course r h.connection (some turn.2.stage) turn.1.connection := by
  cases henter with
  | refused hrefuse => exact .left (hrefuse.leaves hsettled)
  | @unsent key held h' h'' e hadmits hissue =>
    have hissued := connection_issue now h' r key
    rw [show h'.issue now r key = _ from hissue] at hissued
    have hholds : Holds r h.connection held h''.connection := hissued ▸ hadmits.holds hsettled
    refine .left (hholds.conclude ?_)
    intro e' he'
    obtain rfl := Except.error.inj he'
    exact Error.requiresReauth_of_isUnsent (isUnsent_of_issue (congrArg Prod.snd hissue))
  | @sent key held h' h'' t turn hadmits hissue hheed =>
    have hissued := connection_issue now h' r key
    rw [show h'.issue now r key = _ from hissue] at hissued
    exact course_of_heeds hheed rfl (hissued ▸ hadmits.holds hsettled)

variable {w w' : Session} {id : Caller} {e : Event Call}

/-- A caller that is still ahead comes with its command, and nothing has happened yet. -/
theorem Course.eq_of_job {s : Stage Call Pending (Except Error Success)} {call : Call}
    {conn : Connection} (hcourse : Course r before (w.stage id) conn)
    (hstage : w.stage id = some s) (hjob : s.job? = some call) :
    call = .send r ∧ conn = before := by
  rw [hstage] at hcourse
  cases hcourse with
  | ahead hsend => exact ⟨Option.some.inj (hjob.symm.trans hsend), rfl⟩
  | _ => cases hjob

theorem Course.exists_of_left {conn : Connection} {outcome : Outcome (Except Error Success)}
    (hcourse : Course r before (w.stage id) conn) (hstage : w.stage id = some (.left outcome)) :
    ∃ result, outcome = .result result ∧ Leaves r before result conn := by
  rw [hstage] at hcourse
  cases hcourse with
  | ahead hjob => cases hjob
  | left hleaves => exact ⟨_, rfl, hleaves⟩

theorem Course.eq_of_gone {conn : Connection} (hcourse : Course r before (w.stage id) conn)
    (hstage : w.stage id = some .gone) : conn = before := by
  rw [hstage] at hcourse
  cases hcourse with
  | ahead hjob => cases hjob
  | gone => rfl

/-- A caller that asks for the delay is another one. -/
theorem Course.ne_of_delay {conn : Connection} (hcourse : Course r before (w.stage id) conn)
    {k : Caller} {short : Bool} (hstage : w.stage k = some (.waiting (.delay short))) : id ≠ k := by
  rintro rfl
  rw [hstage] at hcourse
  cases hcourse with
  | ahead hjob => cases hjob

/-- Whatever happens while nobody else is at work keeps the caller on its course. -/
theorem Course.move (hsettled : before.isSettled = true)
    (hcourse : Course r before (w.stage id) w.state.connection) (halone : w.Alone id)
    (hm : Move (service c) l w e w') (hnone : ∀ k call, e ≠ .call k (.job call)) :
    Course r before (w'.stage id) w'.state.connection := by
  -- Whoever goes a stage further is this caller, or asks for the delay.
  have hother : ∀ {v : Session} {k : Caller} {s}, v.stage = w.stage → v.state = w.state →
      id ≠ k → Course r before ((v.setStage k s).stage id) (v.setStage k s).state.connection := by
    intro v k s hstage hstate hne
    rw [stage_setStage_of_ne _ _ _ hne, state_setStage, hstage, hstate]
    exact hcourse
  cases hm with
  | rest => exact hcourse
  | tick => exact hcourse
  | @ask k short hnew =>
    refine hother rfl rfl ?_
    rintro rfl
    rw [hnew] at hcourse
    cases hcourse
  | refuse => exact absurd rfl (hnone _ _)
  | queue => exact absurd rfl (hnone _ _)
  | tell hstage => exact hother rfl rfl (hcourse.ne_of_delay hstage)
  | @pace k call p wait hstage =>
    obtain rfl := halone.eq_of_stage hstage rfl
    obtain ⟨rfl, hconn⟩ := hcourse.eq_of_job hstage rfl
    rw [stage_setStage_self, state_setStage, hconn]
    exact .ahead rfl
  | @enter k call p hin =>
    obtain ⟨s, hstage, hjob, hwork⟩ :
        ∃ s, w.stage k = some s ∧ s.job? = some call ∧ s.isAtWork = true := by
      cases hin with
      | atOnce hstage => exact ⟨_, hstage, rfl, rfl⟩
      | paced hstage => exact ⟨_, hstage, rfl, rfl⟩
    obtain rfl := halone.eq_of_stage hstage hwork
    obtain ⟨rfl, hconn⟩ := hcourse.eq_of_job hstage hjob
    rw [stage_settle, if_pos rfl, state_settle, ← hconn]
    exact course_of_enters (enters_enter c w.now w.state (.send r)) (hconn ▸ hsettled)
  | @resume k p hstage =>
    obtain rfl := halone.eq_of_stage hstage rfl
    rw [hstage] at hcourse
    rw [stage_settle, if_pos rfl, state_settle]
    cases hcourse with
    | ahead hjob => cases hjob
    | inside hcall hholds => exact course_of_heeds (heeds_resume c w.now w.state p) hcall hholds
  | @dropWaiting k ticket hstage =>
    cases ticket with
    | job call =>
      obtain rfl := halone.eq_of_stage hstage rfl
      obtain ⟨_, hconn⟩ := hcourse.eq_of_job hstage rfl
      rw [stage_setStage_self, state_setStage, state_stepOut, hconn]
      exact .gone
    | delay short => exact hother rfl rfl (hcourse.ne_of_delay hstage)
  | @dropPacing k call ready hstage =>
    obtain rfl := halone.eq_of_stage hstage rfl
    obtain ⟨_, hconn⟩ := hcourse.eq_of_job hstage rfl
    rw [stage_setStage_self, state_setStage, state_passOut, hconn]
    exact .gone
  | @dropInside k p hstage =>
    obtain rfl := halone.eq_of_stage hstage rfl
    rw [hstage] at hcourse
    rw [stage_setStage_self]
    cases hcourse with
    | ahead hjob => cases hjob
    | inside hcall hholds =>
      show Course r before _ (w.state.abandon p).connection
      rw [hholds.abandon hcall]
      exact .gone

/-- A newcomer with a command starts on its course. -/
theorem course_call (hnew : w.stage id = none) :
    Course r w.state.connection ((w.call (service c) id (.job (.send r))).stage id)
      (w.call (service c) id (.job (.send r))).state.connection := by
  rw [call_job_of_none (service c) hnew]
  have hcases : (service c).arrive w.now (.send r) w.state = (w.state, none) ∨ _ ∨ _ :=
    arrive_send_cases c w.now w.state r
  rcases hcases with hqueue | ⟨hauth, hrefuse⟩ | hexpired
  · rw [hqueue]
    dsimp only
    rw [stage_setStage_self]
    exact .ahead rfl
  · rw [show (service c).arrive w.now (.send r) w.state = _ from hrefuse]
    dsimp only
    rw [stage_setStage_self]
    exact .left (leaves_notAuthenticated r hauth)
  · rw [show (service c).arrive w.now (.send r) w.state = _ from hexpired]
    dsimp only
    rw [stage_setStage_self]
    exact .left (leaves_lost r w.state.connection _ _)

end Course

/-! ## The law -/

/-- The caller is on its course, and alone, until another job comes. -/
theorem course_after (c : Client) (l : Limits) (server : Server) {before : List (Event Call)}
    {id : Caller} {r : Request} (hidle : (after c l server before).Idle)
    (hnew : (after c l server before).stage id = none) {later : List (Event Call)}
    (hlater : ∀ k call, .call k (.job call) ∉ later) :
    let w := after c l server (before ++ .call id (.job (.send r)) :: later)
    Course r (after c l server before).state.connection (w.stage id) w.state.connection ∧
      w.Alone id := by
  induction later using List.reverseRecOn with
  | nil =>
    rw [after_concat]
    exact ⟨course_call hnew, hidle.alone_call (service c) id (.send r)⟩
  | append_singleton later e ih =>
    have hrest : ∀ k call, .call k (.job call) ∉ later :=
      fun k call hmem => hlater k call (List.mem_append_left _ hmem)
    have he : ∀ k call, e ≠ .call k (.job call) := by
      rintro k call rfl
      exact hlater k call (List.mem_append_right _ List.mem_cons_self)
    obtain ⟨hcourse, halone⟩ := ih hrest
    have hsettled : (after c l server before).state.connection.isSettled = true := by
      have hsuits := suits_after c l server before
      rw [hidle.inside?_eq_none] at hsuits
      exact hsuits
    have hm := move_step (service c) l
      (after c l server (before ++ .call id (.job (.send r)) :: later)) e
    rw [← after_concat, List.append_assoc, List.cons_append] at hm
    exact ⟨hcourse.move hsettled halone hm he, halone.move hm he⟩

/-- A command whose caller came while nobody was at work, at any moment before the next one comes.
When a reply to it is there, the command ends with what the reply means.  Once it has ended, the
connection is as it was when the caller came, unless the result says that the session is gone;
then it is gone.  A command of the session fails with an error that asks for a login exactly if
there is no session.  And if the caller was called away, the connection is as it was. -/
theorem session_after_send {c : Client} {l : Limits} {server : Server}
    (before later : List (Event Call)) {id : Caller} {r : Request}
    (hidle : (after c l server before).Idle) (hnew : (after c l server before).stage id = none)
    (hlater : ∀ k call, .call k (.job call) ∉ later) :
    let start := after c l server before
    let w := after c l server (before ++ .call id (.job (.send r)) :: later)
    (∀ held h reply, Decides c l w id (.send r) held h (.ok reply) →
        (w.step (service c) l (.poll id)).stage id =
          some (.left (.result ((r.verdict c.today reply).map .answered)))) ∧
      (∀ outcome, w.stage id = some (.left outcome) → ∃ result, outcome = .result result ∧
        ((∀ code reason, result ≠ .error (.sessionInvalidated code reason)) →
          w.state.connection = start.state.connection) ∧
        (∀ code reason, result = .error (.sessionInvalidated code reason) →
          w.state.connection = .disconnected) ∧
        (r.requiresSession = true → ∀ e, result = .error e →
          (e.requiresReauth = true ↔ w.state.connection.isAuthenticated = false))) ∧
      (w.stage id = some .gone → w.state.connection = start.state.connection) := by
  intro start w
  obtain ⟨hcourse, -⟩ := course_after c l server (r := r) hidle hnew hlater
  refine ⟨?_, ?_, ?_⟩
  · intro held h reply hdecides
    rw [hdecides.stage_eq, conclude_snd hdecides.suits, ← Request.bind_judge_answer]
    rfl
  · intro outcome hleft
    obtain ⟨result, hresult, hleaves⟩ := hcourse.exists_of_left hleft
    exact ⟨result, hresult, hleaves.kept, hleaves.lost, hleaves.reauth⟩
  · intro hgone
    exact hcourse.eq_of_gone hgone

/-- A server that takes the login and says nothing more. -/
def silentServer : Server :=
  .scripted [.respond [⟨0, .reply .own "200 abc12 LOGIN ACCEPTED"⟩]]

/-- A login, and then nobody is at work. -/
def loggedIn : List (Event Call) :=
  [.call 0 (.job .login), .poll 0, .tick (.ofSecs 3)]

theorem idle_loggedIn :
    (after .plain Settings.default.spacing.limits silentServer loggedIn).Idle :=
  (orderly_after _ _ _ _).idle_of_line (by decide +kernel)

/-- The calendar never comes, and the session is still there. -/
theorem session_after_silence :
    (after .plain Settings.default.spacing.limits silentServer
        (loggedIn ++ [.call 1 (.job (.send .calendar)), .poll 1, .tick (.ofSecs 30),
          .poll 1])).stage 1 =
        some (.left (.result (.error (.timeout (.ofSecs 30))))) ∧
      (after .plain Settings.default.spacing.limits silentServer
        (loggedIn ++ [.call 1 (.job (.send .calendar)), .poll 1, .tick (.ofSecs 30),
          .poll 1])).state.connection = .authenticated "abc12".toList := by
  have hleft : (after .plain Settings.default.spacing.limits silentServer
      (loggedIn ++ [.call 1 (.job (.send .calendar)), .poll 1, .tick (.ofSecs 30),
        .poll 1])).stage 1 =
      some (.left (.result (.error (.timeout (.ofSecs 30))))) := by
    decide +kernel
  have hstart : (after .plain Settings.default.spacing.limits silentServer
      loggedIn).state.connection = .authenticated "abc12".toList := by
    decide +kernel
  have hlater : ∀ k call, .call k (.job call) ∉
      ([.poll 1, .tick (.ofSecs 30), .poll 1] : List (Event Call)) := by
    simp
  have hnew : (after .plain Settings.default.spacing.limits silentServer loggedIn).stage 1 =
      none := by
    decide +kernel
  obtain ⟨-, hended, -⟩ := session_after_send (r := .calendar) loggedIn
    [.poll 1, .tick (.ofSecs 30), .poll 1] idle_loggedIn hnew hlater
  obtain ⟨result, hresult, hkept, -⟩ := hended _ hleft
  cases hresult
  refine ⟨hleft, (hkept ?_).trans hstart⟩
  intro code reason herror
  cases herror

end Session

end AnidbClient
