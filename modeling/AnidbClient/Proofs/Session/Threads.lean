import AnidbClient.Proofs.Session.InFlight
import AnidbClient.Proofs.Session.Refusals
import AnidbClient.Proofs.Turnstile.Splitting
import AnidbClient.Session.Threads

/-!
# Steps that are refused on several threads

Where all callers take turns on one thread only one step is ever refused, that of a login that
finds a session (`refused_iff_session_met`).  On several threads there is one more: a logout has
found a session that is silent for too long, and before it begins a newcomer with a command of the
session finds it expired.

* `take_cases` says what a caller meets that takes its step from a settled state: only a login and a
  logout are barred from it (`Bars`).
* The caller inside keeps the connection in the states that suit it (`SuitsWithin`), and whoever
  has looked finds it settled (`isSettled_of_looked`).
* Between the look and the step of a caller nothing changes the connection but a newcomer that finds
  the session expired (`looked_of_run`).

`refused_iff_barred` puts them together, and `logout_overtaken` is a run with the second refusal.
Nothing of one thread is lost (`exists_threaded_eq`).
-/

namespace AnidbClient

namespace Handler

/-! ## Looking and taking the step -/

section Steps

variable {c : Client} {now : Instant} {h : Handler} {call : Call} {key held : Option Text}

theorem unrefused_checkSession (c : Client) (now : Instant) (h : Handler) :
    Unrefused (h.checkSession c now).2 := by
  intro e he
  unfold checkSession at he
  split at he
  · cases he
    rfl
  · split at he
    · cases he
      rfl
    · cases he

theorem unrefused_look (c : Client) (now : Instant) (h : Handler) (call : Call) :
    Unrefused (h.look c now call).2 := by
  have hcheck := unrefused_checkSession c now h
  intro e he
  unfold look at he
  cases call with
  | login => cases he
  | logout =>
    dsimp only at he
    split at he
    · cases he
      rfl
    · cases he
  | _ =>
    dsimp only at he
    split at he
    · generalize h.checkSession c now = checked at hcheck he
      obtain ⟨h', e' | u⟩ := checked
      · cases he
        exact hcheck _ rfl
      · cases he
    · cases he

/-- Looking changes nothing, or ends a session that has expired. -/
theorem look_fst (c : Client) (now : Instant) (h : Handler) (call : Call) :
    (h.look c now call).1 = h ∨ (h.look c now call).1 = h.disconnect := by
  have hcheck : (h.checkSession c now).1 = h ∨ (h.checkSession c now).1 = h.disconnect := by
    unfold checkSession
    split
    · exact .inl rfl
    · split
      · exact .inr rfl
      · exact .inl rfl
  unfold look
  cases call with
  | login => exact .inl rfl
  | logout =>
    dsimp only
    split <;> exact .inl rfl
  | _ =>
    dsimp only
    split
    · generalize h.checkSession c now = checked at hcheck
      obtain ⟨h', e' | u⟩ := checked <;> exact hcheck
    · exact .inl rfl

theorem isSettled_look (hsettled : h.connection.isSettled = true) (call : Call) :
    (h.look c now call).1.connection.isSettled = true := by
  rcases look_fst c now h call with hsame | hended
  · rw [hsame]
    exact hsettled
  · rw [hended]
    rfl

/-- The connection does not take the step of the call, and the error says so. -/
inductive Bars : Call → Connection → Error → Prop where
  | login {session : Text} :
      Bars .login (.authenticated session) (.invalidState "Authenticated" "Connecting")
  | logout : Bars .logout .disconnected (.invalidState "Disconnected" "LoggingOut")

theorem Bars.take_eq {e : Error} (hbars : Bars call h.connection e) (c : Client)
    (key : Option Text) : h.take c call key = (h, .error e) := by
  generalize hconn : h.connection = conn at hbars
  cases hbars with
  | login =>
    unfold take
    rw [hconn]
    rfl
  | logout =>
    unfold take
    rw [hconn]
    rfl

/-- A caller that has looked takes its step, or fails: its step is barred, or the session is
gone. -/
theorem take_cases (hsettled : h.connection.isSettled = true) (c : Client) (call : Call)
    (key : Option Text) :
    (∃ sent held h', h.take c call key = (h', .ok (sent, held)) ∧
        Suits call held h'.connection) ∨
      ∃ e, h.take c call key = (h, .error e) ∧
        (Bars call h.connection e ∨ e.isInvalidState = false) := by
  cases call with
  | login =>
    rcases eq_of_isSettled hsettled with hconn | ⟨session, hconn⟩
    · refine .inl ⟨none, none, { h with connection := .connecting }, ?_, .login⟩
      unfold take
      rw [hconn]
      rfl
    · have hbars : Bars .login h.connection (.invalidState "Authenticated" "Connecting") := by
        rw [hconn]
        exact .login
      exact .inr ⟨_, hbars.take_eq c key, .inl hbars⟩
  | logout =>
    rcases eq_of_isSettled hsettled with hconn | ⟨session, hconn⟩
    · have hbars : Bars .logout h.connection (.invalidState "Disconnected" "LoggingOut") := by
        rw [hconn]
        exact .logout
      exact .inr ⟨_, hbars.take_eq c key, .inl hbars⟩
    · refine .inl ⟨key, none, { h with connection := .loggingOut }, ?_, .logout⟩
      unfold take
      rw [hconn]
      rfl
  | ping => exact .inl ⟨none, none, h, rfl, .ping hsettled⟩
  | send r =>
    by_cases hbound : r.requiresSession = true
    · rcases eq_of_isSettled hsettled with hconn | ⟨session, hconn⟩
      · exact .inr ⟨.notAuthenticated, by simp [take, Call.request, hbound, hold, hconn],
          .inr rfl⟩
      · refine .inl ⟨some session, some session, { h with connection := .sending session }, ?_,
          .bound hbound⟩
        simp [take, Call.request, hbound, hold_of_authenticated hconn]
    · have hfree : r.requiresSession = false := Bool.eq_false_iff.2 hbound
      exact .inl ⟨none, none, h, by simp [take, Call.request, hfree], .free hfree hsettled⟩

/-! ## Sending and reading -/

theorem unrefused_conclude (hsuits : Suits call held h.connection) {answered : Except Error Reply}
    (hanswered : Unrefused answered) : Unrefused (conclude c now call held h answered).2 := by
  rw [conclude_snd hsuits]
  exact unrefused_outcome c call hanswered

theorem unrefused_hear {p : Pending} {answered : Except Error Reply}
    (hhear : (h.hear c now p).2 = some answered) : Unrefused answered := by
  rintro e rfl
  exact Error.isInvalidState_of_isReplyless (isReplyless_of_hear hhear)

/-- Whoever leaves after reading was not refused a step. -/
theorem unrefused_resume {p : Pending} (hsuits : Suits p.call p.held h.connection)
    {r : Except Error Success} (hleaves : (h.resume c now p).2 = .leaving r) : Unrefused r := by
  have hheed := heeds_resume c now h p
  generalize h.resume c now p = turn at hheed hleaves
  cases hheed with
  | waits => cases hleaves
  | @ends h' answered hhear =>
    cases hleaves
    have hsame := connection_hear c now h p
    rw [hhear] at hsame
    exact unrefused_conclude (hsame ▸ hsuits) (unrefused_hear (congrArg Prod.snd hhear))

/-- Whoever leaves after sending was not refused a step. -/
theorem unrefused_engage (hsuits : Suits call held h.connection) {r : Except Error Success}
    (hleaves : (engage c now call key held h).2 = .leaving r) : Unrefused r := by
  have hsame := connection_issue now h (call.request c) key
  unfold engage at hleaves
  cases hissue : h.issue now (call.request c) key with
  | mk h' issued =>
    rw [hissue] at hsame hleaves
    cases issued with
    | error e =>
      have hresult : (conclude c now call held h' (.error e)).2 = r := Turn.leaving.inj hleaves
      have hunsent : e.isUnsent = true := isUnsent_of_issue (congrArg Prod.snd hissue)
      have hanswered : Unrefused (.error e : Except Error Reply) := by
        rintro _ ⟨⟩
        exact Error.isInvalidState_of_isReplyless (Error.isReplyless_of_isUnsent hunsent)
      rw [← hresult]
      exact unrefused_conclude (hsame ▸ hsuits) hanswered
    | ok t => exact unrefused_resume (p := ⟨call, held, t, _⟩) (hsame ▸ hsuits) hleaves

theorem suitsInside_engage (hsuits : Suits call held h.connection) :
    SuitsInside (engage c now call key held h).2.stay?
      (engage c now call key held h).1.connection := by
  have hsame := connection_issue now h (call.request c) key
  unfold engage
  cases hissue : h.issue now (call.request c) key with
  | mk h' issued =>
    rw [hissue] at hsame
    cases issued with
    | error e => exact (show Suits call held h'.connection from hsame ▸ hsuits).conclude (.error e)
    | ok t =>
      exact (heeds_resume c now h' ⟨call, held, t, _⟩).suits (hsame ▸ hsuits)

end Steps

/-! ## The caller inside -/

/-- The connection can be in this state with this caller inside, or with nobody. -/
def SuitsWithin : Option Within → Connection → Prop
  | some (.waiting p), conn => Suits p.call p.held conn
  | _, conn => conn.isSettled = true

theorem suitsWithin_rename {turn : Handler × Turn Pending (Except Error Success)}
    (hsuits : SuitsInside turn.2.stay? turn.1.connection) :
    SuitsWithin (Turn.rename Within.waiting turn).2.stay?
      (Turn.rename Within.waiting turn).1.connection := by
  obtain ⟨h, p | r⟩ := turn
  · exact hsuits
  · exact hsuits

theorem keeps_suitsWithin (c : Client) :
    (threads c).Keeps fun _ o h => SuitsWithin o h.connection where
  later _ hsuits := hsuits
  arrive {now o h} call hsuits := by
    show SuitsWithin o (arrive c now call h).1.connection
    rw [arrive_fst]
    split
    · rename_i hexpires
      rcases o with _ | (_ | p)
      · rfl
      · rfl
      · exact Suits.disconnect hsuits hexpires.2.1
    · exact hsuits
  enter {now h} call hsettled := by
    have hlook : (h.look c now call).1.connection.isSettled = true :=
      isSettled_look hsettled call
    unfold threads
    dsimp only
    generalize h.look c now call = looked at hlook
    obtain ⟨h', e | key⟩ := looked <;> exact hlook
  resume {now y h} hsuits := by
    cases y with
    | waiting p => exact suitsWithin_rename ((heeds_resume c now h p).suits hsuits)
    | looked call key =>
      refine suitsWithin_rename ?_
      rcases take_cases hsuits c call key with ⟨sent, held, h', htake, hsuits'⟩ | ⟨e, htake, -⟩
      · rw [htake]
        exact suitsInside_engage hsuits'
      · rw [htake]
        exact hsuits
  abandon {now y h} hsuits := by
    cases y with
    | waiting p => exact Suits.abandon hsuits
    | looked call key => exact hsuits

end Handler

namespace Session

open Turnstile Handler

/-! ## Runs -/

/-- A handler, and callers on several threads before, in and behind the turnstile. -/
abbrev Threaded := Turnstile Handler Call Within (Except Error Success)

/-- The callers on several threads after some events, with a fresh handler. -/
def threaded (c : Client) (l : Limits) (server : Server) (events : List (Event Call)) : Threaded :=
  (opened (Handler.opened server)).run (threads c) l events

section Runs

variable (c : Client) (l : Limits) (server : Server) (events : List (Event Call))

theorem threaded_concat (e : Event Call) :
    threaded c l server (events ++ [e]) =
      (threaded c l server events).step (threads c) l e :=
  run_concat _ _ _ _ _

theorem threaded_append (later : List (Event Call)) :
    threaded c l server (events ++ later) =
      (threaded c l server events).run (threads c) l later :=
  run_append _ _ _ _ _

theorem orderly_threaded : (threaded c l server events).Orderly :=
  orderly_run _ _ (orderly_opened _) events

theorem suitsWithin_threaded :
    SuitsWithin (threaded c l server events).inside?
      (threaded c l server events).state.connection := by
  have hopened : SuitsWithin (threaded c l server []).inside?
      (threaded c l server []).state.connection := rfl
  exact (keeps_suitsWithin c).run (orderly_opened _) hopened events

/-- The service with looks and steps apart does what the service does, and more. -/
theorem splits_threads : (service c).Splits (threads c) .waiting where
  clock := rfl
  keepsShort := rfl
  arrive := rfl
  enter now call h := by
    show _ = Turn.rename _ (Handler.enter c now call h) ∨
      ∃ t' z, _ ∧ _ = Turn.rename _ (Handler.enter c now call h)
    unfold Handler.enter meet threads
    dsimp only
    generalize h.look c now call = looked
    obtain ⟨h', e | key⟩ := looked
    · exact .inl rfl
    · exact .inr ⟨h', .looked call key, rfl, rfl⟩
  resume _ _ _ := rfl
  abandon _ _ _ := rfl

/-- Whatever happens where all callers take turns on one thread can happen on several threads. -/
theorem exists_threaded_eq :
    ∃ events', threaded c l server events' = (after c l server events).map .waiting :=
  (splits_threads c).exists_run (opened (Handler.opened server)) events

end Runs

/-! ## Who is refused a step -/

section Refused

variable {c : Client} {l : Limits} {server : Server} {events before later : List (Event Call)}
  {id : Caller} {call : Call} {key : Option Text} {w : Threaded} {source target : Text}
  {conn wanted : Connection}

theorem isSettled_of_looked
    (hlooked : (threaded c l server events).stage id = some (.inside (.looked call key))) :
    (threaded c l server events).state.connection.isSettled = true := by
  have hsuits := suitsWithin_threaded c l server events
  rw [(orderly_threaded c l server events).inside?_of_inside hlooked] at hsuits
  exact hsuits

/-- A caller that is refused a step leaves with the error. -/
theorem stage_poll_of_bars {e : Error} (hlooked : w.stage id = some (.inside (.looked call key)))
    (hbars : Bars call w.state.connection e) :
    (w.step (threads c) l (.poll id)).stage id = some (.left (.result (.error e))) := by
  have hresume : (threads c).resume w.now (.looked call key) w.state =
      (w.state, .leaving (.error e)) := by
    show Turn.rename _ (setOut c w.now call (w.state.take c call key)) = _
    rw [hbars.take_eq]
    rfl
  show (w.poll (threads c) l id).stage id = _
  rw [poll_of_inside (threads c) l hlooked, hresume, settle_leaving, stage_setStage_self]

/-- Whoever leaves when it is let in was not refused a step. -/
theorem unrefused_enter (c : Client) (now : Instant) (call : Call) (h : Handler)
    {r : Except Error Success} (hleaves : ((threads c).enter now call h).2 = .leaving r) :
    Unrefused r := by
  have hlook := unrefused_look c now h call
  unfold threads at hleaves
  dsimp only at hleaves
  generalize h.look c now call = looked at hlook hleaves
  obtain ⟨h', e | key⟩ := looked
  · cases hleaves
    rintro _ ⟨⟩
    exact hlook e rfl
  · cases hleaves

theorem leaving_of_stage {turn : Turn Within (Except Error Success)} {r : Except Error Success}
    (hleft : (turn.stage : Stage Call Within (Except Error Success)) = .left (.result r)) :
    turn = .leaving r := by
  cases turn with
  | staying y => cases hleft
  | leaving r' =>
    cases hleft
    rfl

theorem leaving_of_rename {turn : Handler × Turn Pending (Except Error Success)}
    {r : Except Error Success} (hleaves : (Turn.rename Within.waiting turn).2 = .leaving r) :
    turn.2 = .leaving r := by
  obtain ⟨h, p | r'⟩ := turn
  · cases hleaves
  · cases hleaves
    rfl

/-- Whoever leaves when it goes on was refused a step only if that step is barred. -/
theorem barred_or_unrefused {now : Instant} {y : Within} {h : Handler}
    (hsuits : SuitsWithin (some y) h.connection) {e : Error}
    (hleaves : ((threads c).resume now y h).2 = .leaving (.error e)) :
    (∃ call key, y = .looked call key ∧ Bars call h.connection e) ∨ e.isInvalidState = false := by
  cases y with
  | waiting p => exact .inr (unrefused_resume hsuits (leaving_of_rename hleaves) e rfl)
  | looked call key =>
    have hset : (setOut c now call (h.take c call key)).2 = .leaving (.error e) :=
      leaving_of_rename hleaves
    rcases take_cases hsuits c call key with ⟨sent, held, h', htake, hsuits'⟩ | ⟨e', htake, he'⟩
    · rw [htake] at hset
      exact .inr (unrefused_engage hsuits' hset e rfl)
    · rw [htake] at hset
      obtain rfl := Except.error.inj (Turn.leaving.inj hset)
      exact he'.imp_left fun hbars => ⟨call, key, rfl, hbars⟩

/-- A caller that ends with a refused step did so before, or had looked, and its step is barred
when it wants to take it. -/
theorem barred_of_step {e : Event Call}
    (hleft : (threaded c l server (events ++ [e])).stage id =
      some (.left (.result (.error (.invalidState source target))))) :
    (threaded c l server events).stage id =
        some (.left (.result (.error (.invalidState source target)))) ∨
      ∃ call key, e = .poll id ∧
        (threaded c l server events).stage id = some (.inside (.looked call key)) ∧
        Bars call (threaded c l server events).state.connection (.invalidState source target) := by
  rw [threaded_concat] at hleft
  have hw := orderly_threaded c l server events
  have hsuits := suitsWithin_threaded c l server events
  generalize threaded c l server events = w at hleft hw hsuits ⊢
  have hm := move_step (threads c) l w e
  generalize w.step (threads c) l e = w' at hleft hm
  cases hm with
  | rest => exact .inl hleft
  | tick => exact .inl hleft
  | @refuse k j t r _ harrive =>
    refine .inl (stage_of_setStage rfl ?_ hleft)
    rintro ⟨⟩
    rcases eq_of_arrive (congrArg Prod.snd harrive) with herror | herror
    · cases herror
    · cases herror
  | @enter k j p hin =>
    rw [stage_settle] at hleft
    split at hleft
    · cases unrefused_enter c _ _ _ (leaving_of_stage (Option.some.inj hleft)) _ rfl
    · exact .inl hleft
  | @resume k y hstage =>
    rw [stage_settle] at hleft
    split at hleft
    · rename_i hid
      rw [hw.inside?_of_inside hstage] at hsuits
      rcases barred_or_unrefused hsuits (leaving_of_stage (Option.some.inj hleft)) with
        ⟨call, key, rfl, hbars⟩ | hno
      · exact .inr ⟨call, key, by rw [hid], by rw [hid]; exact hstage, hbars⟩
      · cases hno
    · exact .inl hleft
  | _ => exact .inl (stage_of_setStage rfl (by simp) hleft)

/-! ## Between the look and the step -/

/-- Whoever goes on inside takes its step, if it has not. -/
theorem stage_resume_ne_looked (c : Client) (now : Instant) (y : Within) (h : Handler) :
    ((threads c).resume now y h).2.stage ≠
      (.inside (.looked call key) : Stage Call Within (Except Error Success)) := by
  have hrename : ∀ turn : Handler × Turn Pending (Except Error Success),
      (Turn.rename Within.waiting turn).2.stage ≠
        (.inside (.looked call key) : Stage Call Within (Except Error Success)) := by
    rintro ⟨h', p | r⟩ hstage
    · cases hstage
    · cases hstage
  cases y with
  | looked call' key' => exact hrename _
  | waiting p => exact hrename _

/-- Whoever is let in and has looked may go on. -/
theorem look_of_enter {now : Instant} {call' : Call} {h : Handler}
    (hlooked : ((threads c).enter now call' h).2.stage =
      (.inside (.looked call key) : Stage Call Within (Except Error Success))) :
    call' = call ∧ h.look c now call' = (((threads c).enter now call' h).1, .ok key) := by
  unfold threads at hlooked ⊢
  dsimp only at hlooked ⊢
  generalize h.look c now call' = looked at hlooked ⊢
  obtain ⟨h', e | found⟩ := looked
  · cases hlooked
  · cases hlooked
    exact ⟨rfl, rfl⟩

/-- A newcomer leaves the connection alone, unless it finds that the session has expired. -/
theorem expires_of_arrive {k : Caller} {j : Call} {h : Handler} {o : Option (Except Error Success)}
    (hnew : w.stage k = none) (harrive : (threads c).arrive w.now j w.state = (h, o)) :
    h.connection = w.state.connection ∨
      Expires c w (.call k (.job j)) ∧ h.connection = .disconnected := by
  have hfst : (arrive c w.now j w.state).1 = h := congrArg Prod.fst harrive
  rw [arrive_fst] at hfst
  split at hfst
  · rename_i hexpires
    cases j with
    | send r =>
      exact .inr ⟨⟨k, r, rfl, hnew, hexpires.1, hexpires.2.2⟩, by rw [← hfst]; rfl⟩
    | _ => cases hexpires.1
  · exact .inl (by rw [hfst])

/-- Whoever has looked and not gone on looked just now, or before; and meanwhile only a newcomer
that finds the session expired changes the connection. -/
theorem looked_of_step {e : Event Call} (hw : w.Orderly)
    (hlooked : (w.step (threads c) l e).stage id = some (.inside (.looked call key))) :
    (∃ pace, e = .poll id ∧ GoesIn (threads c) l w id call pace ∧
        w.state.look c w.now call = ((w.step (threads c) l e).state, .ok key)) ∨
      w.stage id = some (.inside (.looked call key)) ∧
        ((w.step (threads c) l e).state.connection = w.state.connection ∨
          Expires c w e ∧ (w.step (threads c) l e).state.connection = .disconnected) := by
  have hm := move_step (threads c) l w e
  generalize w.step (threads c) l e = w' at hlooked hm ⊢
  cases hm with
  | rest => exact .inr ⟨hlooked, .inl rfl⟩
  | tick => exact .inr ⟨hlooked, .inl rfl⟩
  | refuse hnew harrive =>
    exact .inr ⟨stage_of_setStage rfl (by simp) hlooked, expires_of_arrive hnew harrive⟩
  | queue hnew harrive =>
    exact .inr ⟨stage_of_setStage rfl (by simp) hlooked, expires_of_arrive hnew harrive⟩
  | @enter k j pace hin =>
    rw [stage_settle] at hlooked
    split at hlooked
    · rename_i hid
      obtain ⟨rfl, hlook⟩ := look_of_enter (Option.some.inj hlooked)
      rw [state_settle]
      exact .inl ⟨pace, by rw [hid], hid ▸ hin, hlook⟩
    · have hnobody := hin.inside? hw
      rw [hw.inside?_of_inside hlooked] at hnobody
      cases hnobody
  | @resume k y hstage =>
    rw [stage_settle] at hlooked
    split at hlooked
    · have hstays := Option.some.inj hlooked
      exact absurd hstays (stage_resume_ne_looked c w.now y w.state)
    · rename_i hne
      exact absurd (hw.eq_of_inside hstage hlooked) hne
  | @dropInside k y hstage =>
    rw [stage_setStage] at hlooked
    split at hlooked
    · cases hlooked
    · rename_i hne
      exact absurd (hw.eq_of_inside hstage hlooked) hne
  | _ => exact .inr ⟨stage_of_setStage rfl (by simp) hlooked, .inl rfl⟩

/-- Whoever has looked by the end of a run, and was let in before it, has looked all along. -/
theorem looked_of_run (hw : w.Orderly) (hpast : ¬ w.IsAhead id) (gap : List (Event Call))
    (hlooked : (w.run (threads c) l gap).stage id = some (.inside (.looked call key))) :
    w.stage id = some (.inside (.looked call key)) ∧
      ((w.run (threads c) l gap).state.connection = w.state.connection ∨
        (w.run (threads c) l gap).state.connection = .disconnected ∧
          ∃ first e rest, gap = first ++ e :: rest ∧ Expires c (w.run (threads c) l first) e) := by
  induction gap using List.reverseRecOn with
  | nil => exact ⟨hlooked, .inl rfl⟩
  | append_singleton gap e ih =>
    rw [run_concat] at hlooked ⊢
    have hpast' : ¬ (w.run (threads c) l gap).IsAhead id :=
      run_induction (threads c) l (P := fun v => ¬ v.IsAhead id) hpast
        (fun hv hm hahead => hv (hm.isAhead hahead)) gap
    rcases looked_of_step (orderly_run _ l hw gap) hlooked with
      ⟨pace, -, hin, -⟩ | ⟨hbefore, hsame | ⟨hexpires, hended⟩⟩
    · exact absurd hin.isAhead hpast'
    · obtain ⟨hstart, hkept | ⟨hended, first, e', rest, rfl, hexpires⟩⟩ := ih hbefore
      · exact ⟨hstart, .inl (hsame.trans hkept)⟩
      · exact ⟨hstart, .inr ⟨hsame.trans hended, first, e', rest ++ [e], by simp, hexpires⟩⟩
    · exact ⟨(ih hbefore).1, .inr ⟨hended, gap, e, [], rfl, hexpires⟩⟩

theorem disconnected_of_expires {e : Event Call} (hsettled : w.state.connection.isSettled = true)
    (hexpires : Expires c w e) :
    (w.step (threads c) l e).state.connection = .disconnected := by
  obtain ⟨k, r, rfl, hnew, hbound, hidle⟩ := hexpires
  have hstate : (w.step (threads c) l (.call k (.job (.send r)))).state =
      (arrive c w.now (.send r) w.state).1 := by
    show (w.call (threads c) k (.job (.send r))).state = _
    rw [state_call_job, if_pos hnew]
    rfl
  rw [hstate, arrive_fst]
  rcases eq_of_isSettled hsettled with hconn | ⟨session, hconn⟩
  · split
    · rfl
    · exact hconn
  · rw [if_pos ⟨hbound, by rw [hconn]; rfl, hidle⟩]
    rfl

/-! ## The law -/

variable (c l server) in
/-- When the caller takes the step of its login, there is a session. -/
def MeetsSession (before later : List (Event Call)) (id : Caller) : Prop :=
  ∃ mid rest found session, later = mid ++ .poll id :: rest ∧
    (threaded c l server (before ++ mid)).stage id = some (.inside (.looked .login found)) ∧
    (threaded c l server (before ++ mid)).state.connection = .authenticated session

variable (c l server) in
/-- The caller is let in with a logout and finds a session.  Before it takes its step a newcomer
finds that the session has expired. -/
def LosesSession (before later : List (Event Call)) (id : Caller) : Prop :=
  ∃ mid gap e more rest pace session,
    later = mid ++ .poll id :: (gap ++ e :: more) ++ .poll id :: rest ∧
    GoesIn (threads c) l (threaded c l server (before ++ mid)) id .logout pace ∧
    (threaded c l server (before ++ mid)).state.connection = .authenticated session ∧
    Expires c (threaded c l server (before ++ mid ++ .poll id :: gap)) e ∧
    (threaded c l server (before ++ mid ++ .poll id :: (gap ++ e :: more))).stage id =
      some (.inside (.looked .logout (some session)))

/-- Whoever is refused a step was barred from it when it wanted to take it. -/
theorem exists_barred (hnew : (threaded c l server before).stage id = none)
    (hleft : (threaded c l server (before ++ later)).stage id =
      some (.left (.result (.error (.invalidState source target))))) :
    ∃ mid rest call key, later = mid ++ .poll id :: rest ∧
      (threaded c l server (before ++ mid)).stage id = some (.inside (.looked call key)) ∧
      Bars call (threaded c l server (before ++ mid)).state.connection
        (.invalidState source target) := by
  induction later using List.reverseRecOn with
  | nil =>
    rw [List.append_nil, hnew] at hleft
    cases hleft
  | append_singleton later e ih =>
    rw [← List.append_assoc] at hleft
    rcases barred_of_step hleft with hbefore | ⟨call, key, rfl, hlooked, hbars⟩
    · obtain ⟨mid, rest, call, key, rfl, hlooked, hbars⟩ := ih hbefore
      exact ⟨mid, rest ++ [e], call, key, by simp, hlooked, hbars⟩
    · exact ⟨later, [], call, key, rfl, hlooked, hbars⟩

/-- Whoever has looked was let in before, with the job that it came for. -/
theorem exists_goesIn_of_looked (hnew : (threaded c l server before).stage id = none)
    (hlooked : (threaded c l server (before ++ later)).stage id =
      some (.inside (.looked call key))) :
    ∃ mid gap pace, later = mid ++ .poll id :: gap ∧
      GoesIn (threads c) l (threaded c l server (before ++ mid)) id call pace ∧
      (threaded c l server (before ++ mid)).state.look c
          (threaded c l server (before ++ mid)).now call =
        ((threaded c l server (before ++ mid ++ [.poll id])).state, .ok key) := by
  induction later using List.reverseRecOn with
  | nil =>
    rw [List.append_nil, hnew] at hlooked
    cases hlooked
  | append_singleton later e ih =>
    rw [← List.append_assoc, threaded_concat] at hlooked
    rcases looked_of_step (orderly_threaded c l server (before ++ later)) hlooked with
      ⟨pace, rfl, hin, hlook⟩ | ⟨hbefore, -⟩
    · exact ⟨later, [], pace, rfl, hin, by rw [threaded_concat]; exact hlook⟩
    · obtain ⟨mid, gap, pace, rfl, hin, hlook⟩ := ih hbefore
      exact ⟨mid, gap ++ [e], pace, by simp, hin, hlook⟩

/-- Whoever is barred from its step when it wants to take it leaves with the error. -/
theorem stage_eq_of_bars {e : Error}
    (hlooked : (threaded c l server events).stage id = some (.inside (.looked call key)))
    (hbars : Bars call (threaded c l server events).state.connection e)
    (rest : List (Event Call)) :
    (threaded c l server (events ++ .poll id :: rest)).stage id =
      some (.left (.result (.error e))) := by
  have hleft := stage_poll_of_bars (c := c) (l := l) hlooked hbars
  rw [← threaded_concat] at hleft
  rw [List.append_cons, threaded_append]
  exact run_induction _ _ (P := fun v : Threaded => v.stage id = _) hleft
    (fun hv hm => hm.stage_left hv) rest

/-- A login that meets a session is refused its step. -/
theorem MeetsSession.stage_eq (hmeets : MeetsSession c l server before later id) :
    (threaded c l server (before ++ later)).stage id =
      some (.left (.result (.error (.invalidState "Authenticated" "Connecting")))) := by
  obtain ⟨mid, rest, found, session, rfl, hlooked, hconn⟩ := hmeets
  have hbars : Bars .login (threaded c l server (before ++ mid)).state.connection
      (.invalidState "Authenticated" "Connecting") := by
    rw [hconn]
    exact .login
  rw [← List.append_assoc]
  exact stage_eq_of_bars hlooked hbars rest

/-- Whoever was let in stays past the line. -/
theorem not_isAhead_of_goesIn {pace : Pace}
    (hin : GoesIn (threads c) l (threaded c l server events) id call pace)
    (since : List (Event Call)) :
    ¬ (threaded c l server (events ++ .poll id :: since)).IsAhead id := by
  rw [List.append_cons, threaded_append, threaded_concat]
  refine run_induction _ _ (P := fun v : Threaded => ¬ v.IsAhead id) ?_
    (fun hv hm hahead => hv (hm.isAhead hahead)) since
  show ¬ ((threaded c l server events).poll (threads c) l id).IsAhead id
  rw [hin.poll_eq]
  exact not_isAhead_settle _

/-- A session that a newcomer has found expired is gone when a caller that had looked before takes
its step. -/
theorem disconnected_of_expires_before {e : Event Call} (hw : w.Orderly) (hpast : ¬ w.IsAhead id)
    (hsettled : ∀ call key, w.stage id = some (.inside (.looked call key)) →
      w.state.connection.isSettled = true)
    (hexpires : Expires c w e) (more : List (Event Call))
    (hlooked : (w.run (threads c) l (e :: more)).stage id = some (.inside (.looked call key))) :
    (w.run (threads c) l (e :: more)).state.connection = .disconnected := by
  have hstart := (looked_of_run hw hpast (e :: more) hlooked).1
  have hended := disconnected_of_expires (l := l) (hsettled call key hstart) hexpires
  have hm := move_step (threads c) l w e
  have hpast' : ¬ (w.step (threads c) l e).IsAhead id := fun hahead => hpast (hm.isAhead hahead)
  rcases (looked_of_run (hw.move hm) hpast' more hlooked).2 with hkept | ⟨hended', -⟩
  · exact hkept.trans hended
  · exact hended'

/-- A logout that loses the session it has found is refused its step. -/
theorem LosesSession.stage_eq (hloses : LosesSession c l server before later id) :
    (threaded c l server (before ++ later)).stage id =
      some (.left (.result (.error (.invalidState "Disconnected" "LoggingOut")))) := by
  obtain ⟨mid, gap, e, more, rest, pace, session, rfl, hin, -, hexpires, hlooked⟩ := hloses
  have hconn : (threaded c l server
      (before ++ mid ++ .poll id :: (gap ++ e :: more))).state.connection = .disconnected := by
    have hcut : before ++ mid ++ .poll id :: (gap ++ e :: more) =
        before ++ mid ++ .poll id :: gap ++ e :: more := by simp
    rw [hcut, threaded_append] at hlooked ⊢
    exact disconnected_of_expires_before (orderly_threaded c l server _)
      (not_isAhead_of_goesIn hin gap) (fun _ _ hstage => isSettled_of_looked hstage) hexpires more
      hlooked
  have hbars : Bars .logout
      (threaded c l server (before ++ mid ++ .poll id :: (gap ++ e :: more))).state.connection
      (.invalidState "Disconnected" "LoggingOut") := by
    rw [hconn]
    exact .logout
  have hleft := stage_eq_of_bars hlooked hbars rest
  simpa using hleft

/-- A logout that may go on has found the key of the session. -/
theorem of_look_logout {now : Instant} {h h' : Handler} (hsettled : h.connection.isSettled = true)
    (hlook : h.look c now .logout = (h', .ok key)) :
    ∃ session, h.connection = .authenticated session ∧ key = some session ∧ h' = h := by
  unfold look at hlook
  rcases eq_of_isSettled hsettled with hconn | ⟨session, hconn⟩
  · rw [hconn] at hlook
    cases hlook
  · rw [hconn] at hlook
    cases hlook
    exact ⟨session, hconn, rfl, rfl⟩

/-- A logout that is barred from its step had found a session, which has expired since. -/
theorem losesSession_of_barred {mid : List (Event Call)} (rest : List (Event Call))
    (hnew : (threaded c l server before).stage id = none)
    (hlooked : (threaded c l server (before ++ mid)).stage id =
      some (.inside (.looked .logout key)))
    (hconn : (threaded c l server (before ++ mid)).state.connection = .disconnected) :
    LosesSession c l server before (mid ++ .poll id :: rest) id := by
  obtain ⟨first, since, pace, rfl, hin, hlook⟩ := exists_goesIn_of_looked hnew hlooked
  have hsettled := suitsWithin_threaded c l server (before ++ first)
  rw [hin.inside? (orderly_threaded c l server _)] at hsettled
  obtain ⟨session, hfound, rfl, hsame⟩ := of_look_logout hsettled hlook
  have hcut : before ++ (first ++ .poll id :: since) =
      before ++ first ++ [.poll id] ++ since := by simp
  have hstill := hlooked
  rw [hcut, threaded_append] at hstill hconn
  rcases (looked_of_run (orderly_threaded c l server _) (not_isAhead_of_goesIn hin []) since
    hstill).2 with hkept | ⟨-, gap, e, more, rfl, hexpires⟩
  · rw [hconn, hsame, hfound] at hkept
    cases hkept
  · refine ⟨first, gap, e, more, rest, pace, session, rfl, hin, hfound, ?_, ?_⟩
    · rw [← threaded_append] at hexpires
      simpa using hexpires
    · simpa using hlooked

/-! ## The steps that are asked for -/

/-- The caller reads, and its command is on its way with this handler: it waits for the reply, or
it takes its step just now. -/
inductive Reads (c : Client) (w : Threaded) (id : Caller) : Pending → Handler → Prop where
  | again {p : Pending} (hstage : w.stage id = some (.inside (.waiting p))) : Reads c w id p w.state
  | first {call : Call} {key sent held : Option Text} {h' h : Handler} {t : Text}
      (hlooked : w.stage id = some (.inside (.looked call key)))
      (htake : w.state.take c call key = (h', .ok (sent, held)))
      (hissue : h'.issue w.now (call.request c) sent = (h, .ok t)) :
      Reads c w id ⟨call, held, t, w.now + c.requestTimeout⟩ h

/-- What a caller that goes on asks of the connection: a step from the state in which it is. -/
inductive Wants (c : Client) (w : Threaded) (id : Caller) : Connection → Connection → Prop where
  | login {key : Option Text} (hlooked : w.stage id = some (.inside (.looked .login key))) :
      Wants c w id w.state.connection .connecting
  | logout {key : Option Text} (hlooked : w.stage id = some (.inside (.looked .logout key))) :
      Wants c w id w.state.connection .loggingOut
  /-- A command of the session, where there still is one. -/
  | send {r : Request} {key : Option Text} {session : Text}
      (hlooked : w.stage id = some (.inside (.looked (.send r) key)))
      (hbound : r.requiresSession = true) (hfound : w.state.connection.session? = some session) :
      Wants c w id w.state.connection (.sending session)
  /-- The reply to a login grants a session. -/
  | granted {p : Pending} {h h' : Handler} {reply : Reply} {result : AuthResult}
      (hreads : Reads c w id p h) (hcall : p.call = .login)
      (hhear : h.hear c w.now p = (h', some (.ok reply)))
      (hgranted : ((Request.auth c.auth).judge reply).bind (loginResult c) = .ok result) :
      Wants c w id (screened c .login h' (.ok reply)).connection (.authenticated result.session)

theorem Reads.suits {p : Pending} {h : Handler}
    (hreads : Reads c (threaded c l server events) id p h) :
    Suits p.call p.held h.connection := by
  cases hreads with
  | again hstage =>
    have hsuits := suitsWithin_threaded c l server events
    rw [(orderly_threaded c l server events).inside?_of_inside hstage] at hsuits
    exact hsuits
  | @first call key sent held h' h t hlooked htake hissue =>
    have hsame := connection_issue (threaded c l server events).now h' (call.request c) sent
    rw [hissue] at hsame
    rcases take_cases (isSettled_of_looked hlooked) c call key with
      ⟨sent', held', h'', htake', hsuits⟩ | ⟨e, htake', -⟩
    · rw [htake] at htake'
      cases htake'
      exact hsame ▸ hsuits
    · rw [htake] at htake'
      cases htake'

/-- Every step that is asked for is taken, but for that of a login that meets a session, and that of
a logout that has lost its one. -/
theorem Wants.become_eq
    (hwants : Wants c (threaded c l server events) id conn wanted) :
    conn.become wanted = .ok wanted ∨
      (∃ key, (threaded c l server events).stage id = some (.inside (.looked .login key))) ∧
        wanted = .connecting ∧ (∃ session, conn = .authenticated session) ∨
      (∃ key, (threaded c l server events).stage id = some (.inside (.looked .logout key))) ∧
        wanted = .loggingOut ∧ conn = .disconnected := by
  cases hwants with
  | login hlooked =>
    rcases eq_of_isSettled (isSettled_of_looked hlooked) with hconn | hconn
    · rw [hconn]
      exact .inl rfl
    · exact .inr (.inl ⟨⟨_, hlooked⟩, rfl, hconn⟩)
  | logout hlooked =>
    rcases eq_of_isSettled (isSettled_of_looked hlooked) with hconn | ⟨session, hconn⟩
    · exact .inr (.inr ⟨⟨_, hlooked⟩, rfl, hconn⟩)
    · rw [hconn]
      exact .inl rfl
  | send hlooked _ hfound =>
    rcases eq_of_isSettled (isSettled_of_looked hlooked) with hconn | ⟨session, hconn⟩
    · rw [hconn] at hfound
      cases hfound
    · rw [hconn]
      exact .inl rfl
  | @granted p h h' reply result hreads hcall hhear _ =>
    have hsame := connection_hear c (threaded c l server events).now h p
    rw [hhear] at hsame
    have hsuits : Suits .login p.held h'.connection := by
      rw [hsame, ← hcall]
      exact hreads.suits
    have hconn : (h'.heed (Call.login.request c) (.ok reply)).connection = .connecting :=
      (hsuits.heed _ _).eq_connecting
    rw [← screened_eq_heed] at hconn
    rw [hconn]
    exact .inl rfl

/-- A caller looks for what the job needs with which it came. -/
theorem call_eq_of_looked {call' : Call} (hnew : (threaded c l server before).stage id = none)
    (hlooked : (threaded c l server (before ++ .call id (.job call) :: later)).stage id =
      some (.inside (.looked call' key))) : call' = call := by
  obtain ⟨mid, gap, pace, hcut, hin, -⟩ := exists_goesIn_of_looked hnew hlooked
  cases mid with
  | nil => cases hcut
  | cons first mid =>
    obtain ⟨rfl, rfl⟩ := List.cons.inj hcut
    obtain ⟨s, hstage, hjob⟩ := hin.exists_job?
    rw [threaded_append] at hstage
    exact job_eq_of_run hnew mid hstage hjob

/-- On several threads two calls are refused a step, and no other.  A login is refused exactly if
there is a session when it wants to begin, and a logout exactly if the session that it has found
expires before it begins.  Every other step that a caller wants is taken. -/
theorem refused_iff_barred {call : Call} (hnew : (threaded c l server before).stage id = none)
    (later : List (Event Call)) :
    let since := .call id (.job call) :: later
    (∀ source target, (threaded c l server (before ++ since)).stage id =
          some (.left (.result (.error (.invalidState source target)))) ↔
        call = .login ∧ source = "Authenticated" ∧ target = "Connecting" ∧
            MeetsSession c l server before since id ∨
          call = .logout ∧ source = "Disconnected" ∧ target = "LoggingOut" ∧
            LosesSession c l server before since id) ∧
      ∀ conn wanted, Wants c (threaded c l server (before ++ since)) id conn wanted →
        conn.become wanted = .ok wanted ∨
          call = .login ∧ wanted = .connecting ∧ (∃ session, conn = .authenticated session) ∨
            call = .logout ∧ wanted = .loggingOut ∧ conn = .disconnected := by
  dsimp only
  refine ⟨fun source target => ⟨fun hleft => ?_, ?_⟩, fun conn wanted hwants => ?_⟩
  · obtain ⟨mid, rest, call', key, hcut, hlooked, hbars⟩ := exists_barred hnew hleft
    cases mid with
    | nil => cases hcut
    | cons first mid =>
      obtain ⟨rfl, rfl⟩ := List.cons.inj hcut
      obtain rfl := call_eq_of_looked hnew hlooked
      generalize hconn : (threaded c l server
        (before ++ .call id (.job call') :: mid)).state.connection = conn at hbars
      cases hbars with
      | @login session =>
        exact .inl ⟨rfl, rfl, rfl, _, rest, key, session, rfl, hlooked, hconn⟩
      | logout => exact .inr ⟨rfl, rfl, rfl, losesSession_of_barred rest hnew hlooked hconn⟩
  · rintro (⟨-, rfl, rfl, hmeets⟩ | ⟨-, rfl, rfl, hloses⟩)
    · exact hmeets.stage_eq
    · exact hloses.stage_eq
  · rcases hwants.become_eq with htaken | ⟨⟨key, hlooked⟩, hwanted, hconn⟩ |
      ⟨⟨key, hlooked⟩, hwanted, hconn⟩
    · exact .inl htaken
    · exact .inr (.inl ⟨(call_eq_of_looked hnew hlooked).symm, hwanted, hconn⟩)
    · exact .inr (.inr ⟨(call_eq_of_looked hnew hlooked).symm, hwanted, hconn⟩)

/-- Nobody has done anything for longer than a session lasts. -/
def idleSession : List (Event Call) :=
  [.call 0 (.job .login), .poll 0, .poll 0, .tick (.ofSecs 1801)]

/-- A logout has found the session, and before it begins someone asks for a calendar. -/
def overtakenLogout : List (Event Call) :=
  [.call 1 (.job .logout), .poll 1, .call 2 (.job (.send .calendar)), .poll 1]

/-- The logout has lost its session. -/
theorem refused_iff_barred_of_overtakenLogout :
    (threaded .plain Settings.default.spacing.limits silentServer
        (idleSession ++ overtakenLogout)).stage 1 =
      some (.left (.result (.error (.invalidState "Disconnected" "LoggingOut")))) ∧
    LosesSession .plain Settings.default.spacing.limits silentServer idleSession
      overtakenLogout 1 := by
  have hnew : (threaded .plain Settings.default.spacing.limits silentServer
      idleSession).stage 1 = none := by
    decide +kernel
  have hleft : (threaded .plain Settings.default.spacing.limits silentServer
      (idleSession ++ overtakenLogout)).stage 1 =
      some (.left (.result (.error (.invalidState "Disconnected" "LoggingOut")))) := by
    decide +kernel
  obtain ⟨hrefused, -⟩ := @refused_iff_barred _ _ _ _ _ .logout hnew
    [.poll 1, .call 2 (.job (.send .calendar)), .poll 1]
  rcases (hrefused _ _).1 hleft with ⟨hno, -⟩ | ⟨-, -, -, hloses⟩
  · cases hno
  · exact ⟨hleft, hloses⟩

/-- Of a logout and a calendar on two threads the logout ends with a refused step, though it had
found a session. -/
theorem logout_overtaken :
    (threaded .plain Settings.default.spacing.limits silentServer
        (idleSession ++ [.call 1 (.job .logout)])).state.connection =
      .authenticated "abc12".toList ∧
    (threaded .plain Settings.default.spacing.limits silentServer
        (idleSession ++ overtakenLogout)).stage 1 =
      some (.left (.result (.error (.invalidState "Disconnected" "LoggingOut")))) := by
  decide +kernel

end Refused

end Session

end AnidbClient
