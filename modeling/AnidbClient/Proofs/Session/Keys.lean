import AnidbClient.Proofs.Session.States

/-!
# Where the keys of sessions come from

A key is told to the handler by a login that succeeds, and it is held by the connection, by the
caller inside and by the commands that were sent with it.  `KeysSince` says of two moments of a
run that whatever is held at the later one was granted in between.  It holds from any moment on
at which there is no session and nobody inside (`keysSince_run`), so a key that was let go of does
not come back unless a login brings it.
-/

namespace AnidbClient

/-! ## What a part of a call does with keys -/

namespace Handler

variable {c : Client} {now : Instant} {h h' : Handler} {call : Call} {key : Text}
  {sent held : Option Text} {answered : Except Error Reply}

theorem session?_loseSession (hkey : h.loseSession.connection.session? = some key) :
    h.connection.session? = some key := by
  unfold loseSession at hkey
  split at hkey
  · cases hkey
  · exact hkey

theorem session?_heed {r : Request} (hkey : (h.heed r answered).connection.session? = some key) :
    h.connection.session? = some key := by
  unfold heed at hkey
  split at hkey
  · split at hkey
    · exact session?_loseSession hkey
    · exact hkey
  · exact hkey

theorem session?_unsettle (hkey : h.unsettle.connection.session? = some key) :
    h.connection.session? = some key := by
  unfold unsettle at hkey
  split at hkey
  · cases hkey
  · cases hkey
  · exact hkey

theorem session?_release (hkey : (h.release held).connection.session? = some key) :
    h.connection.session? = some key ∨ held = some key := by
  unfold release at hkey
  split at hkey
  · exact .inr hkey
  · exact .inl hkey

theorem session?_screen {r : Request} {reply : Reply}
    (hkey : (h.screen r reply).1.connection.session? = some key) :
    h.connection.session? = some key := by
  rw [screen_fst] at hkey
  split at hkey
  · exact session?_loseSession hkey
  · exact hkey

theorem eq_of_become {source target next : Connection}
    (hbecome : source.become target = .ok next) : next = target := by
  unfold Connection.become at hbecome
  split at hbecome
  · exact (Except.ok.inj hbecome).symm
  · cases hbecome

/-- A login brings the key that it tells. -/
theorem session?_finishLogin
    (hkey : (finishLogin c now h answered).1.connection.session? = some key) :
    h.connection.session? = some key ∨
      ∃ result, (finishLogin c now h answered).2 = .ok (.loggedIn result) ∧
        result.session = key := by
  unfold finishLogin at hkey ⊢
  generalize answered.bind (loginResult c) = read at hkey ⊢
  cases read with
  | error e => cases hkey
  | ok result =>
    cases hbecome : h.connection.become (.authenticated result.session) with
    | error e =>
      simp only [hbecome] at hkey
      exact .inl (session?_unsettle hkey)
    | ok next =>
      simp only [hbecome] at hkey ⊢
      rw [eq_of_become hbecome] at hkey
      exact .inr ⟨result, rfl, Option.some.inj hkey⟩

/-- A call that ends leaves a key that was there, or tells it. -/
theorem session?_conclude
    (hkey : (conclude c now call held h answered).1.connection.session? = some key) :
    (h.connection.session? = some key ∨ held = some key) ∨
      ∃ result, (conclude c now call held h answered).2 = .ok (.loggedIn result) ∧
        result.session = key := by
  cases call with
  | login =>
    cases answered with
    | error e =>
      rcases session?_finishLogin hkey with hold | hnew
      · exact .inl (.inl hold)
      · exact .inr hnew
    | ok reply =>
      rcases session?_finishLogin hkey with hold | hnew
      · exact .inl (.inl (session?_screen hold))
      · exact .inr hnew
  | logout =>
    rw [connection_conclude_logout] at hkey
    cases hkey
  | ping =>
    rw [conclude_ping_fst] at hkey
    exact .inl ((session?_release hkey).imp_left session?_heed)
  | send r =>
    rw [conclude_send_fst] at hkey
    exact .inl ((session?_release hkey).imp_left session?_heed)

theorem session?_abandon {p : Pending} (hkey : (h.abandon p).connection.session? = some key) :
    h.connection.session? = some key ∨ p.held = some key := by
  unfold abandon at hkey
  split at hkey
  · exact .inl (session?_unsettle hkey)
  · exact .inl (session?_unsettle hkey)
  · exact session?_release hkey
  · exact session?_release hkey

theorem session?_arrive (hkey : (arrive c now call h).1.connection.session? = some key) :
    h.connection.session? = some key := by
  rw [arrive_fst] at hkey
  split at hkey
  · cases hkey
  · exact hkey

theorem Refuses.session? {e : Error} (hrefuse : Refuses c now h call e h')
    (hkey : h'.connection.session? = some key) : h.connection.session? = some key := by
  cases hrefuse with
  | expired => cases hkey
  | _ => exact hkey

/-- A caller is admitted with the key of the session, if with any. -/
theorem Admits.session? (hadmits : Admits c now h call sent held h')
    (hkey : h'.connection.session? = some key ∨ sent = some key ∨ held = some key) :
    h.connection.session? = some key := by
  cases hadmits with
  | login => simp [Connection.session?] at hkey
  | logout hconn =>
    rw [hconn]
    simpa [Connection.session?] using hkey
  | ping => simpa using hkey
  | free => simpa using hkey
  | bound _ hconn _ =>
    rw [hconn]
    simpa [Connection.session?] using hkey

/-- What a caller that goes on leaves behind. -/
theorem Heeds.session? {p : Pending} {turn : Handler × Turn Pending (Except Error Success)}
    (hheed : Heeds c now h p turn) (hkey : turn.1.connection.session? = some key) :
    (h.connection.session? = some key ∨ p.held = some key) ∨
      ∃ result, turn.2 = .leaving (.ok (.loggedIn result)) ∧ result.session = key := by
  have hheard := connection_hear c now h p
  cases hheed with
  | waits hhear =>
    rw [hhear] at hheard
    exact .inl (.inl (hheard ▸ hkey))
  | ends hhear =>
    rw [hhear] at hheard
    rcases session?_conclude hkey with hold | ⟨result, hresult, hsession⟩
    · exact .inl (hheard ▸ hold)
    · exact .inr ⟨result, by rw [hresult], hsession⟩

theorem Heeds.stay_eq {p p' : Pending} {turn : Handler × Turn Pending (Except Error Success)}
    (hheed : Heeds c now h p turn) (hstay : turn.2 = .staying p') : p' = p := by
  cases hheed with
  | waits _ => exact (Turn.staying.inj hstay).symm
  | ends _ => cases hstay

/-- What a caller that is let in leaves behind: no key that was not there, but one that it tells. -/
theorem Enters.session? {turn : Handler × Turn Pending (Except Error Success)}
    (henter : Enters c now h call turn) (hkey : turn.1.connection.session? = some key) :
    h.connection.session? = some key ∨
      ∃ result, turn.2 = .leaving (.ok (.loggedIn result)) ∧ result.session = key := by
  cases henter with
  | refused hrefuse => exact .inl (hrefuse.session? hkey)
  | @unsent sent held h' h'' e hadmits hissue =>
    have hissued := connection_issue now h' (call.request c) sent
    rw [hissue] at hissued
    rcases session?_conclude hkey with hold | ⟨result, hresult, hsession⟩
    · rw [hissued] at hold
      exact .inl (hadmits.session? (hold.imp_right .inr))
    · exact .inr ⟨result, by rw [hresult], hsession⟩
  | @sent sent held h' h'' t turn hadmits hissue hheed =>
    have hissued := connection_issue now h' (call.request c) sent
    rw [hissue] at hissued
    rcases hheed.session? hkey with hold | hnew
    · rw [hissued] at hold
      exact .inl (hadmits.session? (hold.imp_right .inr))
    · exact .inr hnew

/-- A caller that stays inside holds no key but that of the session. -/
theorem Enters.held_session? {p : Pending} {turn : Handler × Turn Pending (Except Error Success)}
    (henter : Enters c now h call turn) (hstay : turn.2 = .staying p)
    (hheld : p.held = some key) : h.connection.session? = some key := by
  cases henter with
  | refused _ => cases hstay
  | unsent _ _ => cases hstay
  | sent hadmits _ hheed =>
    rw [hheed.stay_eq hstay] at hheld
    exact hadmits.session? (.inr (.inr hheld))

end Handler

/-! ## Keys that were granted since -/

namespace Session

open Turnstile Handler

variable {c : Client} {l : Limits} {w w' w'' : Session} {key : Text}

/-- Between the two moments a login succeeded and brought this key. -/
def Granted (w w' : Session) (key : Text) : Prop :=
  ∃ id result, w.stage id ≠ some (.left (.result (.ok (.loggedIn result)))) ∧
    w'.stage id = some (.left (.result (.ok (.loggedIn result)))) ∧ result.session = key

/-- A grant is not taken back. -/
theorem Granted.move {e : Event Call} (hgranted : Granted w w' key)
    (hm : Move (service c) l w' e w'') : Granted w w'' key := by
  obtain ⟨id, result, hnew, hleft, hsession⟩ := hgranted
  exact ⟨id, result, hnew, hm.stage_left hleft, hsession⟩

/-- A line that carries no key but one that was granted in between. -/
def CarriesGranted (w w' : Session) (line : Text) : Prop :=
  ∃ (r : Request) (key : Option Text) (t : Text), line = r.line key (some t) ∧
    ∀ k, key = some k → Granted w w' k

/-- Whatever is held at the later moment was granted in between. -/
structure KeysSince (w w' : Session) : Prop where
  /-- What a caller had left with, it still has. -/
  left : ∀ id o, w.stage id = some (.left o) → w'.stage id = some (.left o)
  connection : ∀ key, w'.state.connection.session? = some key → Granted w w' key
  held : ∀ id p key, w'.stage id = some (.inside p) → p.held = some key → Granted w w' key
  carried : ∃ more, w'.state.network.sent = w.state.network.sent ++ more ∧
    ∀ entry ∈ more, CarriesGranted w w' entry.2

theorem keysSince_self (hnone : ∀ id p, w.stage id ≠ some (.inside p))
    (hconn : w.state.connection.session? = none) : KeysSince w w where
  left _ _ hleft := hleft
  connection key hkey := by
    rw [hconn] at hkey
    cases hkey
  held id p _ hid := absurd hid (hnone id p)
  carried := ⟨[], (List.append_nil _).symm, by simp⟩

/-- What was granted before a move, and what the move itself brings. -/
theorem KeysSince.of_move {e : Event Call} (h : KeysSince w w')
    (hm : Move (service c) l w' e w'')
    (hconn : ∀ key, w''.state.connection.session? = some key → Granted w w'' key)
    (hheld : ∀ id p key, w''.stage id = some (.inside p) → p.held = some key → Granted w w'' key)
    {sent : List (Instant × Text)}
    (hsent : w''.state.network.sent = w'.state.network.sent ++ sent)
    (hcarried : ∀ entry ∈ sent, CarriesGranted w w'' entry.2) : KeysSince w w'' where
  left id o hleft := hm.stage_left (h.left id o hleft)
  connection := hconn
  held := hheld
  carried := by
    obtain ⟨more, hmore, hbefore⟩ := h.carried
    refine ⟨more ++ sent, by rw [hsent, hmore, List.append_assoc], ?_⟩
    intro entry hentry
    rw [List.mem_append] at hentry
    rcases hentry with hentry | hentry
    · obtain ⟨r, key, t, hline, hkey⟩ := hbefore entry hentry
      exact ⟨r, key, t, hline, fun k hk => (hkey k hk).move hm⟩
    · exact hcarried entry hentry

/-- Moves that send nothing and let nobody in. -/
theorem KeysSince.of_same_sent {e : Event Call} (h : KeysSince w w')
    (hm : Move (service c) l w' e w'')
    (hsent : w''.state.network.sent = w'.state.network.sent)
    (hconn : ∀ key, w''.state.connection.session? = some key → Granted w w'' key)
    (hheld : ∀ id p, w''.stage id = some (.inside p) → w'.stage id = some (.inside p)) :
    KeysSince w w'' :=
  h.of_move hm hconn (fun id p key hid hkey => (h.held id p key (hheld id p hid) hkey).move hm)
    (hsent.trans (List.append_nil _).symm) (by simp)

/-- A caller that was let in settles: what it holds was there, and what it tells is granted. -/
private theorem KeysSince.enter (h : KeysSince w w') {id : Caller} {call : Call} {pace : Pace}
    (hin : GoesIn (service c) l w' id call pace) :
    KeysSince w ({ w' with pace := pace }.settle id ((service c).enter w'.now call w'.state)) := by
  have hm := Move.enter hin
  have henter : Enters c w'.now w'.state call ((service c).enter w'.now call w'.state) :=
    enters_enter c w'.now w'.state call
  generalize (service c).enter w'.now call w'.state = turn at hm henter ⊢
  have hbefore : ∀ o, w'.stage id ≠ some (.left o) := by
    cases hin with
    | atOnce hstage _ _ => simp [hstage]
    | paced hstage _ => simp [hstage]
  have hconn : ∀ key, turn.1.connection.session? = some key →
      Granted w ({ w' with pace := pace }.settle id turn) key := by
    intro key hkey
    rcases henter.session? hkey with hold | ⟨result, hresult, hsession⟩
    · exact (h.connection key hold).move hm
    · obtain ⟨t, y⟩ := turn
      obtain rfl : y = .leaving (.ok (.loggedIn result)) := hresult
      exact ⟨id, result, fun hleft => hbefore _ (h.left _ _ hleft),
        stage_setStage_self _ _ _, hsession⟩
  have hheld : ∀ k p key, ({ w' with pace := pace }.settle id turn).stage k = some (.inside p) →
      p.held = some key → Granted w ({ w' with pace := pace }.settle id turn) key := by
    intro k p key hk hkey
    rcases inside_settle hk with ⟨_, hstay⟩ | ⟨_, hother⟩
    · exact (h.connection key (henter.held_session? hstay hkey)).move hm
    · exact (h.held k p key hother hkey).move hm
  have hstate : ({ w' with pace := pace }.settle id turn).state = turn.1 := state_settle _ _ _
  rcases henter.sent_cases with hsame | ⟨key, held, h', hadmits, hgrown⟩
  · have hnothing : ({ w' with pace := pace }.settle id turn).state.network.sent =
        w'.state.network.sent ++ [] := by
      rw [hstate, hsame, List.append_nil]
    exact h.of_move hm (hstate ▸ hconn) hheld hnothing (by simp)
  · refine h.of_move hm (hstate ▸ hconn) hheld (hstate ▸ hgrown) ?_
    intro entry hentry
    obtain rfl := List.mem_singleton.1 hentry
    exact ⟨_, key, _, rfl,
      fun k hk => (h.connection k (hadmits.session? (.inr (.inl hk)))).move hm⟩

/-- A caller that goes on inside holds what it held, and may be granted a key. -/
private theorem KeysSince.resume (h : KeysSince w w') (l : Limits) {id : Caller} {p : Pending}
    (hstage : w'.stage id = some (.inside p)) :
    KeysSince w (w'.settle id ((service c).resume w'.now p w'.state)) := by
  have hm : Move (service c) l w' (.poll id) _ := .resume hstage
  have hheed : Heeds c w'.now w'.state p ((service c).resume w'.now p w'.state) :=
    heeds_resume c w'.now w'.state p
  generalize (service c).resume w'.now p w'.state = turn at hm hheed ⊢
  refine h.of_same_sent hm (by rw [state_settle, hheed.sent_eq]) ?_ ?_
  · intro key hkey
    rw [state_settle] at hkey
    rcases hheed.session? hkey with (hold | hheld) | ⟨result, hresult, hsession⟩
    · exact (h.connection key hold).move hm
    · exact (h.held id p key hstage hheld).move hm
    · obtain ⟨t, y⟩ := turn
      obtain rfl : y = .leaving (.ok (.loggedIn result)) := hresult
      refine ⟨id, result, fun hleft => ?_, stage_setStage_self _ _ _, hsession⟩
      have hleft' := h.left id _ hleft
      rw [hstage] at hleft'
      cases hleft'
  · intro k p' hk
    rcases inside_settle hk with ⟨rfl, hstay⟩ | ⟨_, hother⟩
    · rw [hstage, hheed.stay_eq hstay]
    · exact hother

theorem KeysSince.move {e : Event Call} (h : KeysSince w w') (hm : Move (service c) l w' e w'') :
    KeysSince w w'' := by
  have hm' := hm
  have hkept : ∀ key, w'.state.connection.session? = some key → Granted w w'' key :=
    fun key hkey => (h.connection key hkey).move hm
  cases hm with
  | rest => exact h
  | tick => exact h.of_same_sent hm' rfl hkept (fun _ _ hid => hid)
  | ask hnew =>
    exact h.of_same_sent hm' rfl hkept (fun _ _ => stage_of_setStage rfl (by simp))
  | @refuse k j t r hnew harrive =>
    obtain rfl : (arrive c w'.now j w'.state).1 = t := congrArg Prod.fst harrive
    refine h.of_same_sent hm' ?_ (fun key hkey => hkept key (session?_arrive hkey))
      (fun _ _ => stage_of_setStage rfl (by simp))
    exact congrArg Network.sent (sameWire_arrive c w'.now w'.state j).network
  | @queue k j t hnew harrive =>
    obtain rfl : (arrive c w'.now j w'.state).1 = t := congrArg Prod.fst harrive
    refine h.of_same_sent hm' ?_ (fun key hkey => hkept key (session?_arrive hkey))
      (fun _ _ => stage_of_setStage rfl (by simp))
    exact congrArg Network.sent (sameWire_arrive c w'.now w'.state j).network
  | tell => exact h.of_same_sent hm' rfl hkept (fun _ _ => stage_of_setStage rfl (by simp))
  | pace => exact h.of_same_sent hm' rfl hkept (fun _ _ => stage_of_setStage rfl (by simp))
  | enter hin => exact h.enter hin
  | resume hstage => exact h.resume l hstage
  | dropWaiting => exact h.of_same_sent hm' rfl hkept (fun _ _ => stage_of_setStage rfl (by simp))
  | dropPacing => exact h.of_same_sent hm' rfl hkept (fun _ _ => stage_of_setStage rfl (by simp))
  | @dropInside k p hstage =>
    refine h.of_same_sent hm' ?_ ?_ (fun _ _ => stage_of_setStage rfl (by simp))
    · exact congrArg Network.sent (sameWire_abandon w'.state p).network
    · intro key hkey
      rcases session?_abandon hkey with hold | hheld
      · exact hkept key hold
      · exact (h.held k p key hstage hheld).move hm'

/-- A key that was let go of does not come back unless a login brings it. -/
theorem keysSince_run (hw : w.Orderly) (hnone : w.inside? = none)
    (hconn : w.state.connection.session? = none) (later : List (Event Call)) :
    KeysSince w (w.run (service c) l later) := by
  have hempty : ∀ id p, w.stage id ≠ some (.inside p) := by
    intro id p hid
    rw [hw.inside?_of_inside hid] at hnone
    cases hnone
  exact run_induction (service c) l (P := KeysSince w) (keysSince_self hempty hconn)
    (fun hv hm => hv.move hm) later

end Session

end AnidbClient
