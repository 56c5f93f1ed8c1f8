import AnidbClient.Proofs.Session.Trails

/-!
# The discipline of the connection

Whatever callers do, whenever they are called away and whatever is read, the connection takes no
step but those of `Connection.canBecome`, though half of its writes ask nobody.  Its state tells
what is going on inside: `connecting` means a login, `loggingOut` a logout, `sending` a command of
the session, and with nobody inside there is a session or there is none.  And a session has always
given a sign of life.

`Disciplined` is what holds of a handler at any moment.  `connection_disciplined` shows it between
events and after each single change within one.
-/

namespace AnidbClient

namespace Handler

/-- The state of the connection tells which call is running, and a session is alive. -/
structure Disciplined (runs : Call → Prop) (now : Instant) (h : Handler) : Prop where
  settled : (∀ call, ¬ runs call) → h.connection.isSettled = true
  connecting : h.connection = .connecting → runs .login
  loggingOut : h.connection = .loggingOut → runs .logout
  sending : ∀ key, h.connection = .sending key → ∃ r, r.requiresSession = true ∧ runs (.send r)
  alive : h.Alive now

section Trail

variable {c : Client} {now : Instant} {h : Handler} {call : Call} {held : Option Text}
  {answered : Except Error Reply}

/-- A settled connection has no more to tell. -/
theorem Disciplined.of_settled {runs : Call → Prop} (hsettled : h.connection.isSettled = true)
    (halive : h.Alive now) : h.Disciplined runs now where
  settled _ := hsettled
  connecting hconn := by
    rw [hconn] at hsettled
    cases hsettled
  loggingOut hconn := by
    rw [hconn] at hsettled
    cases hsettled
  sending key hconn := by
    rw [hconn] at hsettled
    cases hsettled
  alive := halive

/-- A connection that suits a call tells of that call. -/
theorem Disciplined.of_suits {runs : Call → Prop} (hsuits : Suits call held h.connection)
    (hruns : runs call) (halive : h.Alive now) : h.Disciplined runs now where
  settled hnone := absurd hruns (hnone call)
  connecting hconn := by
    rw [hconn] at hsuits
    cases hsuits with
    | login => exact hruns
    | ping hsettled => cases hsettled
    | free _ hsettled => cases hsettled
  loggingOut hconn := by
    rw [hconn] at hsuits
    cases hsuits with
    | logout => exact hruns
    | ping hsettled => cases hsettled
    | free _ hsettled => cases hsettled
  sending key hconn := by
    rw [hconn] at hsuits
    cases hsuits with
    | ping hsettled => cases hsettled
    | free _ hsettled => cases hsettled
    | @bound r _ hbound => exact ⟨r, hbound, hruns⟩
  alive := halive

/-- Until a call has ended, the connection suits it. -/
theorem suits_of_mem_concludeTrail (hsuits : Suits call held h.connection) {h' : Handler}
    (hmem : h' ∈ concludeTrail c now call held h answered) :
    Suits call held h'.connection ∨ h'.connection.isSettled = true := by
  have hjudged : Suits call held (screened c call h answered).connection := by
    rw [screened_eq_heed]
    exact hsuits.heed _ answered
  have hended : (conclude c now call held h answered).1.connection.isSettled = true :=
    hsuits.conclude answered
  unfold concludeTrail at hmem
  dsimp only at hmem
  split at hmem
  · simp only [List.mem_cons, List.not_mem_nil, or_false] at hmem
    rcases hmem with rfl | rfl | rfl
    · exact .inl hjudged
    · exact .inr rfl
    · exact .inr hended
  · simp only [List.mem_cons, List.not_mem_nil, or_false] at hmem
    rcases hmem with rfl | rfl
    · exact .inl hjudged
    · exact .inr hended

theorem suits_of_mem_resumeTrail {p : Pending} (hsuits : Suits p.call p.held h.connection)
    {h' : Handler} (hmem : h' ∈ resumeTrail c now p h) :
    Suits p.call p.held h'.connection ∨ h'.connection.isSettled = true := by
  have hconn := connection_hear c now h p
  unfold resumeTrail at hmem
  generalize h.hear c now p = read at hconn hmem
  obtain ⟨heard, _ | answered⟩ := read
  · obtain rfl := List.mem_singleton.1 hmem
    exact .inl (hconn ▸ hsuits)
  · rcases List.mem_cons.1 hmem with rfl | hmem
    · exact .inl (hconn ▸ hsuits)
    · exact suits_of_mem_concludeTrail (hconn ▸ hsuits) hmem

theorem suits_of_mem_engageTrail {key : Option Text} (hsuits : Suits call held h.connection)
    {h' : Handler} (hmem : h' ∈ engageTrail c now call key held h) :
    Suits call held h'.connection ∨ h'.connection.isSettled = true := by
  have hconn := connection_issue now h (call.request c) key
  unfold engageTrail at hmem
  generalize h.issue now (call.request c) key = posted at hconn hmem
  obtain ⟨issued, e | tag⟩ := posted
  · rcases List.mem_cons.1 hmem with rfl | hmem
    · exact .inl (hconn ▸ hsuits)
    · exact suits_of_mem_concludeTrail (hconn ▸ hsuits) hmem
  · rcases List.mem_cons.1 hmem with rfl | hmem
    · exact .inl (hconn ▸ hsuits)
    · exact suits_of_mem_resumeTrail (p := ⟨call, held, tag, now + c.requestTimeout⟩)
        (hconn ▸ hsuits) hmem

/-- After each change the connection is settled, or suits the call of the caller inside, or that of
the caller that is let in. -/
theorem suits_of_mem_trail {a : Act Call Pending} {inside? : Option Pending}
    (hfinds : a.Finds inside?) (hsuits : SuitsInside inside? h.connection) {h' : Handler}
    (hmem : h' ∈ trail c now h a) :
    h'.connection.isSettled = true ∨
      (∃ p, inside? = some p ∧ Suits p.call p.held h'.connection) ∨
      ∃ call key held met, a = .enter call ∧ Admits c now h call key held met ∧
        Suits call held h'.connection := by
  cases a with
  | arrive call =>
    obtain rfl := List.mem_singleton.1 hmem
    have hsuits' : SuitsInside inside? (arrive c now call h).1.connection :=
      suitsInside_arrive hsuits call
    cases inside? with
    | none => exact .inl hsuits'
    | some p => exact .inr (.inl ⟨p, rfl, hsuits'⟩)
  | enter call =>
    obtain rfl : inside? = none := hfinds
    unfold trail at hmem
    dsimp only at hmem
    rcases admits_or_refuses c now h call with ⟨key, held, met, hadmits⟩ | ⟨e, met, hrefuse⟩
    · rw [hadmits.meet_eq] at hmem
      have hmet : Suits call held met.connection := hadmits.suits hsuits
      rcases List.mem_cons.1 hmem with rfl | hmem
      · exact .inr (.inr ⟨call, key, held, h', rfl, hadmits, hmet⟩)
      · rcases suits_of_mem_engageTrail hmet hmem with hsuits' | hsettled
        · exact .inr (.inr ⟨call, key, held, met, rfl, hadmits, hsuits'⟩)
        · exact .inl hsettled
    · rw [hrefuse.meet_eq] at hmem
      obtain rfl := List.mem_singleton.1 hmem
      exact .inl (hrefuse.isSettled hsuits)
  | resume p =>
    obtain rfl : inside? = some p := hfinds
    rcases suits_of_mem_resumeTrail hsuits hmem with hsuits' | hsettled
    · exact .inr (.inl ⟨p, rfl, hsuits'⟩)
    · exact .inl hsettled
  | abandon p =>
    obtain rfl : inside? = some p := hfinds
    obtain rfl := List.mem_singleton.1 hmem
    exact .inl (Suits.abandon hsuits)

/-- A chain of proper changes keeps a session alive. -/
theorem alive_of_isChain {changes : List Handler} (hchain : (h :: changes).IsChain (Proper now))
    (halive : h.Alive now) : ∀ h' ∈ h :: changes, h'.Alive now := by
  induction changes generalizing h with
  | nil =>
    intro h' hmem
    obtain rfl := List.mem_singleton.1 hmem
    exact halive
  | cons next rest ih =>
    obtain ⟨hproper, hrest⟩ := List.isChain_cons_cons.1 hchain
    intro h' hmem
    rcases List.mem_cons.1 hmem with rfl | hmem
    · exact halive
    · exact ih hrest (hproper.alive halive) h' hmem

theorem alive_perform {a : Act Call Pending} {inside? : Option Pending}
    (hfinds : a.Finds inside?) (hsuits : SuitsInside inside? h.connection)
    (halive : h.Alive now) : ((service c).perform now h a).Alive now := by
  have hlast := getLastD_trail c now h h a
  rw [← hlast]
  exact alive_of_isChain (isChain_trail hfinds hsuits) halive _ List.getLastD_mem_cons

/-- No call takes the last sign of life from a session. -/
theorem keeps_alive (c : Client) :
    (service c).Keeps fun now o h => SuitsInside o h.connection ∧ h.Alive now where
  later hle h := ⟨h.1, h.2.later hle⟩
  arrive call h := ⟨(keeps_suitsInside c).arrive call h.1,
    alive_perform (c := c) (a := .arrive call) trivial h.1 h.2⟩
  enter call h := ⟨(keeps_suitsInside c).enter call h.1,
    alive_perform (c := c) (a := .enter call) rfl h.1 h.2⟩
  resume {_ p _} h := ⟨(keeps_suitsInside c).resume h.1,
    alive_perform (c := c) (a := .resume p) rfl h.1 h.2⟩
  abandon {now p _} h := ⟨@(keeps_suitsInside c).abandon now _ _ h.1,
    alive_perform (c := c) (a := .abandon p) rfl h.1 h.2⟩

end Trail

end Handler

namespace Session

open Turnstile Handler

section Discipline

variable (c : Client) (l : Limits) (server : Server)

/-- The call of the caller inside, whose action is running. -/
def Runs (w : Session) (call : Call) : Prop :=
  ∃ id p, w.stage id = some (.inside p) ∧ p.call = call

/-- The action of the call is running while the event takes place. -/
def RunsDuring (w : Session) (e : Event Call) (call : Call) : Prop :=
  Runs w call ∨ w.act? (service c) l e = some (.enter call)

/-- The handler after each change that an event makes. -/
def trail (w : Session) (e : Event Call) : List Handler :=
  (w.act? (service c) l e).elim [] (Handler.trail c w.now w.state)

theorem getLastD_trail (w : Session) (e : Event Call) :
    (trail c l w e).getLastD w.state = (w.step (service c) l e).state := by
  rw [state_step]
  unfold trail
  cases w.act? (service c) l e with
  | none => rfl
  | some a => exact Handler.getLastD_trail c w.now w.state w.state a

theorem alive_after (events : List (Event Call)) :
    (after c l server events).state.Alive (after c l server events).now := by
  have hopened : SuitsInside (after c l server []).inside?
      (after c l server []).state.connection ∧
        (after c l server []).state.Alive (after c l server []).now :=
    ⟨rfl, fun hauth => by cases hauth⟩
  exact ((keeps_alive c).run (orderly_opened _) hopened events).2

theorem disciplined_after (events : List (Event Call)) :
    (after c l server events).state.Disciplined (Runs (after c l server events))
      (after c l server events).now := by
  have hw := orderly_after c l server events
  have hsuits := suits_after c l server events
  have halive := alive_after c l server events
  generalize after c l server events = w at hw hsuits halive ⊢
  cases hinside : w.inside? with
  | none =>
    rw [hinside] at hsuits
    exact .of_settled hsuits halive
  | some p =>
    rw [hinside] at hsuits
    obtain ⟨id, hid⟩ := hw.exists_inside hinside
    exact .of_suits hsuits ⟨id, p, hid, rfl⟩ halive

/-- At every moment the state of the connection tells what is going on inside and a session is
alive, and each single change that an event makes is a step that connections may take and leaves
it so. -/
theorem connection_disciplined (events : List (Event Call)) :
    let w := after c l server events
    w.state.Disciplined (Runs w) w.now ∧
      ∀ e, (trail c l w e).getLastD w.state = (after c l server (events ++ [e])).state ∧
        ((w.state :: trail c l w e).map Handler.connection).IsChain Connection.Steps ∧
        ∀ h ∈ trail c l w e, h.Disciplined (RunsDuring c l w e) w.now := by
  intro w
  have hw : w.Orderly := orderly_after c l server events
  have hsuits : SuitsInside w.inside? w.state.connection := suits_after c l server events
  have halive : w.state.Alive w.now := alive_after c l server events
  refine ⟨disciplined_after c l server events, fun e => ⟨?_, ?_⟩⟩
  · rw [after_concat]
    exact getLastD_trail c l w e
  · unfold trail
    cases hact : w.act? (service c) l e with
    | none => exact ⟨List.isChain_singleton _, by simp⟩
    | some a =>
      have hfinds : a.Finds w.inside? := (act?_eq_some_iff.1 hact).finds hw
      have hchain : (w.state :: Handler.trail c w.now w.state a).IsChain (Proper w.now) :=
        isChain_trail hfinds hsuits
      refine ⟨(List.isChain_map Handler.connection).2 (hchain.imp fun _ _ h => h.connection), ?_⟩
      intro h hmem
      have hhalive : h.Alive w.now :=
        alive_of_isChain hchain halive h (List.mem_cons_of_mem _ hmem)
      rcases suits_of_mem_trail hfinds hsuits hmem with
        hsettled | ⟨p, hinside, hsuits'⟩ | ⟨call, _, held, _, rfl, _, hsuits'⟩
      · exact .of_settled hsettled hhalive
      · obtain ⟨id, hid⟩ := hw.exists_inside hinside
        exact .of_suits hsuits' (.inl ⟨id, p, hid, rfl⟩) hhalive
      · exact .of_suits hsuits' (.inr hact) hhalive

end Discipline

end Session

end AnidbClient
