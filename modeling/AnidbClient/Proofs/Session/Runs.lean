import AnidbClient.Proofs.Session.Calls
import AnidbClient.Proofs.Turnstile.Order
import AnidbClient.Session.Host

/-!
# Runs of a session

A `Session` is the turnstile with a handler behind it, and `Session.after` is the session of a
fresh handler after some events.  A call that is told to look whether it can go on may be decided
then, by a reply or by an error: `Session.Decides` tells the call, the handler at that moment and
what decided, and `Decides.step_eq` says that the call ends with just that.
-/

namespace AnidbClient

/-- A client with the default settings, for runs that are played to the end. -/
def Client.plain : Client :=
  Settings.default.client .standard ⟨2000, 1, 1⟩

/-- A handler, and the callers before, in and behind the turnstile. -/
abbrev Session := Turnstile Handler Call Pending (Except Error Success)

namespace Session

open Turnstile

/-- The session of a fresh handler after some events. -/
def after (c : Client) (l : Limits) (server : Server) (events : List (Event Call)) : Session :=
  (opened (Handler.opened server)).run (Handler.service c) l events

section After

variable (c : Client) (l : Limits) (server : Server)

theorem after_concat (events : List (Event Call)) (e : Event Call) :
    after c l server (events ++ [e]) = (after c l server events).step (Handler.service c) l e :=
  run_concat _ _ _ _ _

theorem after_append (events later : List (Event Call)) :
    after c l server (events ++ later) =
      (after c l server events).run (Handler.service c) l later :=
  run_append _ _ _ _ _

theorem orderly_after (events : List (Event Call)) : (after c l server events).Orderly :=
  orderly_run _ _ (orderly_opened _) events

end After

/-! ## What decides a call -/

section Decides

open Handler

variable (c : Client) (l : Limits) (w : Session) (id : Caller)

/-- When the caller looks whether it can go on, its call is decided: by the reply to its command,
or by an error that came instead.  The handler is that of the moment before the call ends. -/
inductive Decides : Call → Option Text → Handler → Except Error Reply → Prop where
  /-- Its command was on its way. -/
  | waiting {p : Pending} {h : Handler} {answered : Except Error Reply}
      (hstage : w.stage id = some (.inside p))
      (hhear : w.state.hear c w.now p = (h, some answered)) : Decides p.call p.held h answered
  /-- It is let in, and its command cannot be sent. -/
  | unsent {call : Call} {pace : Pace} {key held : Option Text} {h' h : Handler} {e : Error}
      (hin : GoesIn (service c) l w id call pace)
      (hadmits : Admits c w.now w.state call key held h')
      (hissue : h'.issue w.now (call.request c) key = (h, .error e)) :
      Decides call held h (.error e)
  /-- It is let in, and what decides is there as soon as its command is sent. -/
  | atOnce {call : Call} {pace : Pace} {key held : Option Text} {h' h'' h : Handler} {t : Text}
      {answered : Except Error Reply} (hin : GoesIn (service c) l w id call pace)
      (hadmits : Admits c w.now w.state call key held h')
      (hissue : h'.issue w.now (call.request c) key = (h'', .ok t))
      (hhear : h''.hear c w.now ⟨call, held, t, w.now + c.requestTimeout⟩ = (h, some answered)) :
      Decides call held h answered

variable {c l w id} {call : Call} {held : Option Text} {h : Handler}
  {answered : Except Error Reply}

/-- A call that is decided ends. -/
theorem Decides.step_eq (hdecides : Decides c l w id call held h answered) :
    ∃ pace, w.step (service c) l (.poll id) =
      { w with pace := pace }.settle id ((conclude c w.now call held h answered).1,
        .leaving (conclude c w.now call held h answered).2) := by
  show ∃ pace, w.poll (service c) l id = _
  cases hdecides with
  | @waiting p h answered hstage hhear =>
    refine ⟨w.pace, ?_⟩
    have hresume : (service c).resume w.now p w.state =
        ((conclude c w.now p.call p.held h answered).1,
          .leaving (conclude c w.now p.call p.held h answered).2) := by
      show resume c w.now p w.state = _
      simp only [resume, hhear]
    rw [poll_of_inside (service c) l hstage, hresume]
  | @unsent call pace key held h' h e hin hadmits hissue =>
    refine ⟨pace, ?_⟩
    have henter : (service c).enter w.now call w.state =
        ((conclude c w.now call held h (.error e)).1,
          .leaving (conclude c w.now call held h (.error e)).2) := by
      show enter c w.now call w.state = _
      rw [hadmits.enter_eq]
      simp only [engage, hissue]
    rw [hin.poll_eq, henter]
  | @atOnce call pace key held h' h'' h t answered hin hadmits hissue hhear =>
    refine ⟨pace, ?_⟩
    have henter : (service c).enter w.now call w.state =
        ((conclude c w.now call held h answered).1,
          .leaving (conclude c w.now call held h answered).2) := by
      show enter c w.now call w.state = _
      rw [hadmits.enter_eq]
      simp only [engage, hissue, resume, hhear]
    rw [hin.poll_eq, henter]

theorem Decides.state_eq (hdecides : Decides c l w id call held h answered) :
    (w.step (service c) l (.poll id)).state = (conclude c w.now call held h answered).1 := by
  obtain ⟨pace, hstep⟩ := hdecides.step_eq
  rw [hstep, state_settle]

theorem Decides.stage_eq (hdecides : Decides c l w id call held h answered) :
    (w.step (service c) l (.poll id)).stage id =
      some (.left (.result (conclude c w.now call held h answered).2)) := by
  obtain ⟨pace, hstep⟩ := hdecides.step_eq
  rw [hstep, settle_leaving, stage_setStage_self]

/-- Nobody is inside once a call is decided. -/
theorem Decides.inside?_eq (hdecides : Decides c l w id call held h answered)
    (hw : w.Orderly) : (w.step (service c) l (.poll id)).inside? = none := by
  obtain ⟨pace, hstep⟩ := hdecides.step_eq
  have hhead : w.line.head? = some id := by
    cases hdecides with
    | waiting hstage _ => exact hw.head?_of_inside hstage
    | unsent hin _ _ => exact hin.head? hw
    | atOnce hin _ _ _ => exact hin.head? hw
  have hpaced : ({ w with pace := pace } : Session).Orderly := hw.congr rfl rfl
  rw [hstep, hpaced.inside?_settle hhead]
  rfl

/-- A caller that is refused when it is let in leaves with the error. -/
theorem step_of_refuses {pace : Pace} {e : Error} (hin : GoesIn (service c) l w id call pace)
    (hrefuse : Refuses c w.now w.state call e h) :
    (w.step (service c) l (.poll id)).stage id = some (.left (.result (.error e))) ∧
      (w.step (service c) l (.poll id)).state = h := by
  have henter : (service c).enter w.now call w.state = (h, .leaving (.error e)) :=
    hrefuse.enter_eq
  show (w.poll (service c) l id).stage id = _ ∧ (w.poll (service c) l id).state = _
  rw [hin.poll_eq, henter, settle_leaving]
  exact ⟨stage_setStage_self _ _ _, rfl⟩

end Decides

end Session

end AnidbClient
