import AnidbClient.Proofs.Session.Actions
import AnidbClient.Proofs.Session.Aftermath
import AnidbClient.Proofs.Session.Attribution
import AnidbClient.Proofs.Session.Trails

/-!
# Steps that are refused

A caller asks the connection for a step after it has waited: for its turn, for its delay or for a
reply.  Meanwhile others may have logged in or out, been called away, or found the session expired.
Still, as long as all callers take turns on one thread, only one step is ever refused, that of a
login which finds a session.

* No reply and no failure looks like a refused step (`unrefused_outcome`), and neither does being
  turned away, a login apart (`Refuses.unrefused_or`).
* A caller is let in with the job that it came for (`job_eq_of_run`), so the result of a call can be
  told by the call.
* `AsksFor` lists the steps that callers ask for, and `AsksFor.become_eq` says which are taken.

`refused_iff_session_met` puts them together.
-/

namespace AnidbClient

/-- The error says that the connection could not take a step. -/
def Error.isInvalidState : Error → Bool
  | .invalidState .. => true
  | _ => false

theorem Error.isInvalidState_of_isReplyless {e : Error} (he : e.isReplyless = true) :
    e.isInvalidState = false := by
  cases e with
  | invalidState => cases he
  | _ => rfl

/-! ## Results without a refused step -/

/-- If something failed, it was not for a step of the connection. -/
def Unrefused {α : Type} (x : Except Error α) : Prop :=
  ∀ e, x = .error e → e.isInvalidState = false

section Unrefused

variable {α β : Type} {x : Except Error α}

theorem Unrefused.bind {f : α → Except Error β} (hx : Unrefused x) (hf : ∀ a, Unrefused (f a)) :
    Unrefused (x.bind f) := by
  intro e he
  cases x with
  | error e' =>
    obtain rfl := Except.error.inj he
    exact hx e' rfl
  | ok a => exact hf a e he

theorem Unrefused.map (hx : Unrefused x) (f : α → β) : Unrefused (x.map f) := by
  intro e he
  cases x with
  | error e' =>
    obtain rfl := Except.error.inj he
    exact hx e' rfl
  | ok a => cases he

theorem unrefused_judge (r : Request) (reply : Reply) : Unrefused (r.judge reply) := by
  intro e he
  unfold Request.judge at he
  split at he
  · cases he
  · split at he
    · cases he
      rfl
    · cases he
      rfl
    · cases he
      rfl
    · cases he

theorem unrefused_answer (today : Date) (r : Request) (reply : Reply) :
    Unrefused (r.answer today reply) := by
  have hpayload : Unrefused (r.payload today reply.code reply.body) := by
    intro e he
    unfold Request.payload at he
    cases hread : r.read today reply.code reply.body with
    | error field =>
      rw [hread] at he
      cases he
      rfl
    | ok payload =>
      rw [hread] at he
      cases he
  unfold Request.answer
  split
  · exact hpayload.map _
  · intro e he
    cases he
    rfl

theorem unrefused_loginResult (c : Client) (reply : Reply) :
    Unrefused (Handler.loginResult c reply) := by
  refine (unrefused_answer c.today _ reply).bind fun a e he => ?_
  split at he
  · cases he
  · cases he
    rfl

theorem isInvalidState_refusal (e : Error) :
    (Handler.refusal e).isInvalidState = e.isInvalidState := by
  cases e with
  | unexpectedResponse command code body =>
    unfold Handler.refusal
    dsimp only
    split <;> rfl
  | _ => rfl

/-- Whatever decides a call, it does not fail for a step of the connection. -/
theorem unrefused_outcome (c : Client) (call : Call) {answered : Except Error Reply}
    (hanswered : Unrefused answered) : Unrefused (call.outcome c answered) := by
  have hjudged : Unrefused (answered.bind (call.request c).judge) :=
    hanswered.bind (unrefused_judge _)
  unfold Call.outcome
  generalize answered.bind (call.request c).judge = judged at hjudged
  cases call with
  | login =>
    have hresult := hjudged.bind (unrefused_loginResult c)
    intro e he
    dsimp only at he
    generalize judged.bind (Handler.loginResult c) = result at hresult he
    cases result with
    | ok granted => cases he
    | error cause =>
      cases he
      rw [isInvalidState_refusal]
      exact hresult cause rfl
  | logout =>
    have hresult := hjudged.bind (unrefused_answer c.today .logout)
    intro e he
    dsimp only at he
    generalize judged.bind (Request.logout.answer c.today) = result at hresult he
    cases result with
    | ok a => cases he
    | error cause =>
      -- An error of a logout is the cause itself, or no error at all.
      have hcause : e = cause := by
        dsimp only at he
        split at he
        · split at he
          · exact (Except.error.inj he).symm
          · cases he
        · exact (Except.error.inj he).symm
      rw [hcause]
      exact hresult cause rfl
  | ping => exact (hjudged.bind (unrefused_answer c.today _)).map _
  | send r => exact (hjudged.bind (unrefused_answer c.today _)).map _

/-- Whoever is turned away when it is let in is not refused a step, but for a login that finds a
session. -/
theorem Handler.Refuses.unrefused_or {c : Client} {now : Instant} {h h' : Handler} {call : Call}
    {e : Error} (hrefuse : Refuses c now h call e h') (hsettled : h.connection.isSettled = true) :
    e.isInvalidState = false ∨
      call = .login ∧ e = .invalidState "Authenticated" "Connecting" ∧
        ∃ key, h.connection = .authenticated key := by
  cases hrefuse with
  | login hconn =>
    cases hkey : h.connection with
    | authenticated key => exact .inr ⟨rfl, rfl, key, rfl⟩
    | disconnected => exact absurd hkey hconn
    | _ =>
      rw [hkey] at hsettled
      cases hsettled
  | logoutBusy hconn =>
    rw [hconn] at hsettled
    cases hsettled
  | _ => exact .inl rfl

end Unrefused

/-! ## The job of a caller -/

namespace Turnstile

variable {State Job Stay Result : Type} {sv : Service State Job Stay Result} {l : Limits}
  {w w' : Turnstile State Job Stay Result} {id : Caller} {e : Event Job} {j : Job}

/-- A caller that waits to be let in with a job has just come with it, or waited with it before. -/
theorem Move.job?_cases {s : Stage Job Stay Result} (hm : Move sv l w e w')
    (hstage : w'.stage id = some s) (hjob : s.job? = some j) :
    (w.stage id = none ∧ e = .call id (.job j)) ∨
      ∃ t, w.stage id = some t ∧ t.job? = some j := by
  -- Somebody goes to a stage where no job is waited with.
  have hput : ∀ {v : Turnstile State Job Stay Result} {k : Caller} {t : Stage Job Stay Result},
      v.stage = w.stage → t.job? = none → (v.setStage k t).stage id = some s →
        w.stage id = some s := by
    intro v k t hv ht hs
    rw [stage_setStage, hv] at hs
    split at hs
    · obtain rfl := Option.some.inj hs
      rw [ht] at hjob
      cases hjob
    · exact hs
  have hsettle : ∀ {p : Pace} {k : Caller} {turn : State × Turn Stay Result},
      ({ w with pace := p }.settle k turn).stage id = some s → w.stage id = some s := by
    intro p k turn hs
    obtain ⟨t, y | r⟩ := turn
    · exact hput rfl rfl hs
    · exact hput rfl rfl hs
  cases hm with
  | rest => exact .inr ⟨s, hstage, hjob⟩
  | tick => exact .inr ⟨s, hstage, hjob⟩
  | queue hnew =>
    rw [stage_setStage] at hstage
    split at hstage
    · rename_i heq
      cases heq
      obtain rfl := Option.some.inj hstage
      cases hjob
      exact .inl ⟨hnew, rfl⟩
    · exact .inr ⟨s, hstage, hjob⟩
  | pace hwaits =>
    rw [stage_setStage] at hstage
    split at hstage
    · rename_i heq
      cases heq
      obtain rfl := Option.some.inj hstage
      cases hjob
      exact .inr ⟨_, hwaits, rfl⟩
    · exact .inr ⟨s, hstage, hjob⟩
  | enter => exact .inr ⟨s, hsettle hstage, hjob⟩
  | resume => exact .inr ⟨s, hsettle (p := w.pace) hstage, hjob⟩
  | _ => exact .inr ⟨s, hput rfl rfl hstage, hjob⟩

theorem stage_call_ne_none (sv : Service State Job Stay Result) (hnew : w.stage id = none)
    (j : Job) : (w.call sv id (.job j)).stage id ≠ none := by
  rw [call_job_of_none sv hnew]
  split
  · rw [stage_setStage_self]
    exact Option.some_ne_none _
  · rw [stage_setStage_self]
    exact Option.some_ne_none _

/-- A caller that waits to be let in waits with the job that it came for. -/
theorem job_eq_of_run {j' : Job} {s : Stage Job Stay Result} (hnew : w.stage id = none)
    (later : List (Event Job))
    (hstage : (w.run sv l (.call id (.job j) :: later)).stage id = some s)
    (hjob : s.job? = some j') : j' = j := by
  have hcame : ∀ later, (w.run sv l (.call id (.job j) :: later)).stage id ≠ none := by
    intro later
    exact run_induction sv l (P := fun v => v.stage id ≠ none)
      (stage_call_ne_none sv hnew j) (fun hv hm => hm.stage_ne_none hv) later
  induction later using List.reverseRecOn generalizing s with
  | nil =>
    have hm := move_step sv l w (.call id (.job j))
    rcases hm.job?_cases hstage hjob with ⟨_, he⟩ | ⟨t, ht, _⟩
    · cases he
      rfl
    · rw [hnew] at ht
      cases ht
  | append_singleton later e ih =>
    rw [← List.cons_append, run_concat] at hstage
    rcases (move_step sv l _ e).job?_cases hstage hjob with ⟨hnone, _⟩ | ⟨t, ht, hbefore⟩
    · exact absurd hnone (hcame later)
    · exact ih ht hbefore

theorem GoesIn.exists_job? {p : Pace} (hin : GoesIn sv l w id j p) :
    ∃ s, w.stage id = some s ∧ s.job? = some j := by
  cases hin with
  | atOnce hstage _ _ => exact ⟨_, hstage, rfl⟩
  | paced hstage _ => exact ⟨_, hstage, rfl⟩

end Turnstile

/-! ## The law -/

namespace Session

open Turnstile Handler

/-- What a caller that looks whether it can go on asks of the connection: a step from the state in
which it finds it. -/
inductive AsksFor (c : Client) (l : Limits) (w : Session) (id : Caller) :
    Connection → Connection → Prop where
  /-- A login is let in. -/
  | login {pace : Pace} (hin : GoesIn (service c) l w id .login pace) :
      AsksFor c l w id w.state.connection .connecting
  /-- A logout is let in, and there is a session. -/
  | logout {pace : Pace} {key : Text} (hin : GoesIn (service c) l w id .logout pace)
      (hkey : w.state.connection.session? = some key) :
      AsksFor c l w id w.state.connection .loggingOut
  /-- A command of the session is let in, and the session has not expired. -/
  | send {r : Request} {pace : Pace} {key : Text} (hin : GoesIn (service c) l w id (.send r) pace)
      (hbound : r.requiresSession = true) (hlive : w.state.checkSession c w.now = (w.state, .ok ()))
      (hkey : w.state.connection.session? = some key) :
      AsksFor c l w id w.state.connection (.sending key)
  /-- The reply to a login grants a session. -/
  | granted {held : Option Text} {h : Handler} {reply : Reply} {result : AuthResult}
      (hdecides : Decides c l w id .login held h (.ok reply))
      (hgranted : ((Request.auth c.auth).judge reply).bind (loginResult c) = .ok result) :
      AsksFor c l w id (screened c .login h (.ok reply)).connection
        (.authenticated result.session)

section Refused

variable {c : Client} {l : Limits} {server : Server} {events before later : List (Event Call)}
  {id : Caller}

/-- Every step that is asked for is taken, but that of a login which finds a session. -/
theorem AsksFor.become_eq {source target : Connection}
    (hasks : AsksFor c l (after c l server events) id source target) :
    source.become target = .ok target ∨
      target = .connecting ∧ (∃ key, source = .authenticated key) ∧
        ∃ pace, GoesIn (service c) l (after c l server events) id .login pace := by
  cases hasks with
  | login hin =>
    rcases disconnected_or_authenticated hin with hnone | hkey
    · rw [hnone]
      exact .inl rfl
    · exact .inr ⟨rfl, hkey, _, hin⟩
  | logout hin hkey =>
    rcases disconnected_or_authenticated hin with hnone | ⟨key', hkey'⟩
    · rw [hnone] at hkey
      cases hkey
    · rw [hkey']
      exact .inl rfl
  | send hin _ _ hkey =>
    rcases disconnected_or_authenticated hin with hnone | ⟨key', hkey'⟩
    · rw [hnone] at hkey
      cases hkey
    · rw [hkey']
      exact .inl rfl
  | @granted held h reply result hdecides _ =>
    have hconn : (h.heed (Call.login.request c) (.ok reply)).connection = .connecting :=
      (hdecides.suits.heed _ _).eq_connecting
    rw [← screened_eq_heed] at hconn
    rw [hconn]
    exact .inl rfl

/-- The result of a call that is decided is no refused step. -/
theorem Decides.unrefused {call : Call} {held : Option Text} {h : Handler}
    {answered : Except Error Reply}
    (hdecides : Decides c l (after c l server events) id call held h answered) :
    Unrefused (conclude c (after c l server events).now call held h answered).2 := by
  rw [conclude_snd hdecides.suits]
  apply unrefused_outcome
  rintro e rfl
  exact Error.isInvalidState_of_isReplyless hdecides.isReplyless

/-- The caller was let in with a login while there was a session. -/
def MetSession (c : Client) (l : Limits) (server : Server) (before later : List (Event Call))
    (id : Caller) : Prop :=
  ∃ mid rest pace key, later = mid ++ .poll id :: rest ∧
    GoesIn (service c) l (after c l server (before ++ mid)) id .login pace ∧
    (after c l server (before ++ mid)).state.connection = .authenticated key

/-- A login that finds a session ends with the refusal of its step. -/
theorem MetSession.stage_eq (hmet : MetSession c l server before later id) :
    (after c l server (before ++ later)).stage id =
      some (.left (.result (.error (.invalidState "Authenticated" "Connecting")))) := by
  obtain ⟨mid, rest, pace, key, rfl, hin, hkey⟩ := hmet
  have hne : (after c l server (before ++ mid)).state.connection ≠ .disconnected := by
    rw [hkey]
    exact Connection.noConfusion
  have hrefused := (step_of_refuses hin (.login hne)).1
  rw [hkey, ← after_concat] at hrefused
  rw [← List.append_assoc, List.append_cons, after_append]
  exact run_induction _ _ (P := fun v : Session => v.stage id = _) hrefused
    (fun hv hm => hm.stage_left hv) rest

/-- No caller ends with a refused step but a login that found a session. -/
theorem metSession_of_stage_eq {source target : Text}
    (hbefore : (after c l server before).stage id = none)
    (hleft : (after c l server (before ++ later)).stage id =
      some (.left (.result (.error (.invalidState source target))))) :
    source = "Authenticated" ∧ target = "Connecting" ∧ MetSession c l server before later id := by
  -- From the last event back: the result was there before, or the last event brought it.
  induction later using List.reverseRecOn with
  | nil =>
    rw [List.append_nil, hbefore] at hleft
    cases hleft
  | append_singleton later e ih =>
    rw [← List.append_assoc] at hleft
    have hfate := fate_step c l (after c l server (before ++ later)) id e
    rw [← after_concat] at hfate
    generalize (after c l server (before ++ later ++ [e])).stage id = s at hleft hfate
    cases hfate with
    | same =>
      obtain ⟨hsource, htarget, mid, rest, pace, key, rfl, hmet⟩ := ih hleft
      exact ⟨hsource, htarget, mid, rest ++ [e], pace, key, by simp, hmet⟩
    | aside _ hresult => exact absurd (Option.some.inj hleft) (hresult _)
    | turnedAway _ harrive =>
      cases hleft
      rcases eq_of_arrive (congrArg Prod.snd harrive) with herror | herror
      · cases herror
      · cases herror
    | refused hin hrefuse =>
      cases hleft
      have hsettled := suits_after c l server (before ++ later)
      rw [hin.inside? (orderly_after c l server (before ++ later))] at hsettled
      rcases hrefuse.unrefused_or hsettled with hno | ⟨rfl, herror, key, hkey⟩
      · cases hno
      · cases herror
        exact ⟨rfl, rfl, later, [], _, key, rfl, hin, hkey⟩
    | waits => cases hleft
    | decided hdecides =>
      have hno := hdecides.unrefused _ (Outcome.result.inj (Stage.left.inj (Option.some.inj hleft)))
      cases hno

/-- Of all calls on one thread only a login is ever refused a step, and it is refused exactly if it
found a session when it was let in.  Every other step that a caller asks for is taken. -/
theorem refused_iff_session_met {call : Call} (hnew : (after c l server before).stage id = none)
    (later : List (Event Call)) :
    let events := before ++ .call id (.job call) :: later
    (∀ source target, (after c l server events).stage id =
          some (.left (.result (.error (.invalidState source target)))) ↔
        call = .login ∧ source = "Authenticated" ∧ target = "Connecting" ∧
          MetSession c l server before (.call id (.job call) :: later) id) ∧
      ∀ source target, AsksFor c l (after c l server events) id source target →
        source.become target = .ok target ∨
          call = .login ∧ target = .connecting ∧ ∃ key, source = .authenticated key := by
  intro events
  have hcall : ∀ mid call' pace,
      GoesIn (service c) l (after c l server (before ++ .call id (.job call) :: mid)) id call'
        pace → call' = call := by
    intro mid call' pace hin
    obtain ⟨s, hstage, hjob⟩ := hin.exists_job?
    rw [after_append] at hstage
    exact job_eq_of_run hnew mid hstage hjob
  refine ⟨fun source target => ⟨fun hleft => ?_, ?_⟩, fun source target hasks => ?_⟩
  · obtain ⟨hsource, htarget, mid, rest, pace, key, hcut, hin, hkey⟩ :=
      metSession_of_stage_eq hnew hleft
    cases mid with
    | nil => cases hcut
    | cons first mid =>
      obtain ⟨rfl, rfl⟩ := List.cons.inj hcut
      exact ⟨(hcall mid .login pace hin).symm, hsource, htarget, _, rest, pace, key, rfl, hin, hkey⟩
  · rintro ⟨_, rfl, rfl, hmet⟩
    exact hmet.stage_eq
  · rcases hasks.become_eq with htaken | ⟨htarget, hkey, pace, hin⟩
    · exact .inl htaken
    · exact .inr ⟨(hcall later .login pace hin).symm, htarget, hkey⟩

/-- Someone is logged in, and someone else wants to log in as well. -/
example : (after .plain Settings.default.spacing.limits silentServer
      (loggedIn ++ [.call 1 (.job .login), .poll 1])).stage 1 =
    some (.left (.result (.error (.invalidState "Authenticated" "Connecting")))) := by
  decide +kernel

end Refused

end Session

end AnidbClient
