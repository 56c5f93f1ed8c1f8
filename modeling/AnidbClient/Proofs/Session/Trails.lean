import AnidbClient.Proofs.Session.Outcome
import AnidbClient.Proofs.Turnstile.Acts
import Mathlib.Data.List.Chain

/-!
# The changes within a call

One act of a caller changes the handler several times: a caller that is let in may take the
connection, send, read, lose the session to the reply and let go of the connection, all at one
moment.  `Handler.trail` is the handler after each of these changes, in order, and
`getLastD_trail` says that the last one is what the act leaves.

`Proper` is what each single change has to be: the connection stays or takes a step that it may
take, a session does not lose its last sign of life, and nothing but a login brings a key.  The
writes that ask nobody are proper like those that are checked, and `isChain_trail` puts them
together.
-/

namespace AnidbClient

/-- The connection stays as it is, or takes a step that it may take. -/
def Connection.Steps (source target : Connection) : Prop :=
  target = source ∨ source.canBecome target = true

namespace Handler

/-! ## Trails -/

section Trail

variable (c : Client) (now : Instant)

/-- The handler when a reply to the command of a call has been screened. -/
def screened (call : Call) (h : Handler) : Except Error Reply → Handler
  | .ok reply => (h.screen (call.request c) reply).1
  | .error _ => h

/-- The handler after each change at the end of a call.  A login that succeeds takes its session
first, and notes the sign of life then. -/
def concludeTrail (call : Call) (held : Option Text) (h : Handler)
    (answered : Except Error Reply) : List Handler :=
  let judged := screened c call h answered
  let ended := conclude c now call held h answered
  match ended.2 with
  | .ok (.loggedIn result) =>
    [judged, { judged with connection := .authenticated result.session }, ended.1]
  | _ => [judged, ended.1]

/-- The handler after each change while a caller reads. -/
def resumeTrail (p : Pending) (h : Handler) : List Handler :=
  match h.hear c now p with
  | (h', none) => [h']
  | (h', some answered) => h' :: concludeTrail c now p.call p.held h' answered

/-- The handler after each change while a caller sends its command and reads for the first
time. -/
def engageTrail (call : Call) (key held : Option Text) (h : Handler) : List Handler :=
  match h.issue now (call.request c) key with
  | (h', .error e) => h' :: concludeTrail c now call held h' (.error e)
  | (h', .ok tag) => h' :: resumeTrail c now ⟨call, held, tag, now + c.requestTimeout⟩ h'

/-- The handler after each change that an act makes. -/
def trail (h : Handler) : Act Call Pending → List Handler
  | .arrive call => [(arrive c now call h).1]
  | .enter call =>
    match h.meet c now call with
    | (h', .error _) => [h']
    | (h', .ok (key, held)) => h' :: engageTrail c now call key held h'
  | .resume p => resumeTrail c now p h
  | .abandon p => [h.abandon p]

theorem getLastD_concludeTrail (call : Call) (held : Option Text) (h h' : Handler)
    (answered : Except Error Reply) :
    (concludeTrail c now call held h answered).getLastD h' =
      (conclude c now call held h answered).1 := by
  unfold concludeTrail
  dsimp only
  split <;> rfl

theorem getLastD_resumeTrail (p : Pending) (h h' : Handler) :
    (resumeTrail c now p h).getLastD h' = (h.resume c now p).1 := by
  unfold resumeTrail resume
  obtain ⟨heard, _ | answered⟩ := h.hear c now p
  · rfl
  · rw [List.getLastD_cons]
    exact getLastD_concludeTrail c now p.call p.held heard heard answered

theorem getLastD_engageTrail (call : Call) (key held : Option Text) (h h' : Handler) :
    (engageTrail c now call key held h).getLastD h' = (engage c now call key held h).1 := by
  unfold engageTrail engage
  obtain ⟨issued, e | tag⟩ := h.issue now (call.request c) key
  · rw [List.getLastD_cons]
    exact getLastD_concludeTrail c now call held issued issued (.error e)
  · rw [List.getLastD_cons]
    exact getLastD_resumeTrail c now _ issued issued

/-- The trail of an act ends with what the act leaves. -/
theorem getLastD_trail (h h' : Handler) (a : Act Call Pending) :
    (trail c now h a).getLastD h' = (service c).perform now h a := by
  cases a with
  | arrive call => rfl
  | enter call =>
    show _ = (enter c now call h).1
    unfold trail enter
    dsimp only
    obtain ⟨met, e | ⟨key, held⟩⟩ := h.meet c now call
    · rfl
    · rw [List.getLastD_cons]
      exact getLastD_engageTrail c now call key held met met
  | resume p => exact getLastD_resumeTrail c now p h h'
  | abandon p => rfl

end Trail

/-! ## Proper changes -/

section Proper

/-- A session has given a sign of life, and not in the future. -/
def Alive (now : Instant) (h : Handler) : Prop :=
  h.connection.isAuthenticated = true → ∃ last, h.lastActivity = some last ∧ last ≤ now

/-- The later handler has no key that the earlier one does not have. -/
def Fades (h h' : Handler) : Prop :=
  ∀ key, h'.connection.session? = some key → h.connection.session? = some key

/-- One change of the handler, as it has to be. -/
structure Proper (now : Instant) (h h' : Handler) : Prop where
  connection : h.connection.Steps h'.connection
  alive : h.Alive now → h'.Alive now
  /-- Only a login that is on its way brings a key. -/
  fades : h.connection ≠ .connecting → Fades h h'

variable {c : Client} {now : Instant} {h h' : Handler}

theorem Alive.later (halive : h.Alive now) {later : Instant} (hle : now ≤ later) :
    h.Alive later := by
  intro hauth
  obtain ⟨last, hlast, hpast⟩ := halive hauth
  exact ⟨last, hlast, Nat.le_trans hpast hle⟩

/-- What touches neither the connection nor the last sign of life is proper. -/
theorem Proper.of_same (hconn : h'.connection = h.connection)
    (hactive : h'.lastActivity = h.lastActivity) : Proper now h h' where
  connection := .inl hconn
  alive halive := by
    unfold Alive
    rw [hconn, hactive]
    exact halive
  fades _ key hkey := by
    rw [hconn] at hkey
    exact hkey

theorem Proper.refl (now : Instant) (h : Handler) : Proper now h h :=
  .of_same rfl rfl

/-- A session may end at any moment. -/
theorem proper_disconnect (now : Instant) (h : Handler) : Proper now h h.disconnect where
  connection := by
    unfold Connection.Steps
    cases h.connection <;> simp [Connection.canBecome]
  alive _ hauth := by cases hauth
  fades _ key hkey := by cases hkey

theorem proper_loseSession (now : Instant) (h : Handler) : Proper now h h.loseSession := by
  unfold loseSession
  split
  · exact proper_disconnect now h
  · exact .refl now h

theorem proper_unsettle (now : Instant) (h : Handler) : Proper now h h.unsettle := by
  unfold unsettle
  split
  · exact proper_disconnect now h
  · exact proper_disconnect now h
  · exact .refl now h

/-- A command that lets go of the connection leaves the session that was there before. -/
theorem proper_release (now : Instant) {call : Call} {held : Option Text}
    (hsuits : Suits call held h.connection) : Proper now h (h.release held) := by
  unfold release
  split
  · rename_i key key' hsending
    obtain rfl : key = key' := by
      rw [hsending] at hsuits
      cases hsuits
      rfl
    refine ⟨.inr ?_, fun halive _ => halive ?_, fun _ k hk => ?_⟩
    · rw [hsending]
      rfl
    · rw [hsending]
      rfl
    · rw [hsending]
      exact hk
  · exact .refl now h

theorem proper_screened (c : Client) (now : Instant) (call : Call) (h : Handler)
    (answered : Except Error Reply) : Proper now h (screened c call h answered) := by
  cases answered with
  | error e => exact .refl now h
  | ok reply =>
    unfold screened
    dsimp only
    rw [screen_fst]
    split
    · exact proper_loseSession now h
    · exact .refl now h

theorem proper_arrive (c : Client) (now : Instant) (h : Handler) (call : Call) :
    Proper now h (arrive c now call h).1 := by
  rw [arrive_fst]
  split
  · exact proper_disconnect now h
  · exact .refl now h

theorem proper_abandon (now : Instant) {p : Pending}
    (hsuits : Suits p.call p.held h.connection) : Proper now h (h.abandon p) := by
  unfold abandon
  split
  · exact proper_unsettle now h
  · exact proper_unsettle now h
  · exact proper_release now hsuits
  · exact proper_release now hsuits

theorem Refuses.proper {call : Call} {e : Error} (hrefuse : Refuses c now h call e h') :
    Proper now h h' := by
  cases hrefuse with
  | expired => exact proper_disconnect now h
  | _ => exact .refl now h

/-- Whoever takes the connection takes a step that it may take, and only a session that was there
goes on. -/
theorem Admits.proper {call : Call} {key held : Option Text}
    (hadmits : Admits c now h call key held h') : Proper now h h' := by
  cases hadmits with
  | login hconn =>
    exact ⟨.inr (by rw [hconn]; rfl), fun _ hauth => (by cases hauth), fun _ _ hk => by cases hk⟩
  | logout hconn =>
    exact ⟨.inr (by rw [hconn]; rfl), fun _ hauth => (by cases hauth), fun _ _ hk => by cases hk⟩
  | ping => exact .refl now h
  | free => exact .refl now h
  | bound _ hconn _ =>
    refine ⟨.inr (by rw [hconn]; rfl), fun halive _ => halive ?_, fun _ k hk => ?_⟩
    · rw [hconn]
      rfl
    · rw [hconn]
      exact hk

theorem proper_issue (now : Instant) (h : Handler) (r : Request) (key : Option Text) :
    Proper now h (h.issue now r key).1 := by
  refine .of_same (connection_issue now h r key) ?_
  unfold issue
  dsimp only
  split <;> rfl

theorem lastActivity_hear (c : Client) (now : Instant) (h : Handler) (p : Pending) :
    (h.hear c now p).1.lastActivity = some now ∨
      (h.hear c now p).1.lastActivity = h.lastActivity := by
  unfold hear
  dsimp only
  split
  · exact .inl rfl
  · exact .inr rfl

/-- Whatever is read is a sign of life of this moment. -/
theorem proper_hear (c : Client) (now : Instant) (h : Handler) (p : Pending) :
    Proper now h (h.hear c now p).1 := by
  refine ⟨.inl (connection_hear c now h p), fun halive hauth => ?_, fun _ _ hk => hk⟩
  rw [connection_hear] at hauth
  rcases lastActivity_hear c now h p with hnow | hsame
  · exact ⟨now, hnow, Nat.le_refl now⟩
  · rw [hsame]
    exact halive hauth

/-- A reply that decides was read. -/
theorem spoken_of_listen {tag : Text} {inbox : List Arrival} {reply : Reply}
    (hverdict : (listen tag now inbox).verdict = some (.ok reply)) :
    (listen tag now inbox).spoken = true := by
  fun_induction listen tag now inbox with
  | case1 => cases hverdict
  | case2 => cases hverdict
  | case3 => cases hverdict
  | case4 => rfl
  | case5 => rfl

/-- A reply that was read is a sign of life of this moment. -/
theorem lastActivity_hear_of_ok {p : Pending} {reply : Reply}
    (hhear : (h.hear c now p).2 = some (.ok reply)) :
    (h.hear c now p).1.lastActivity = some now := by
  rw [hear_snd] at hhear
  split at hhear
  · rename_i hverdict
    rw [Option.some.inj hhear] at hverdict
    unfold hear
    dsimp only
    rw [if_pos (spoken_of_listen hverdict)]
  · split at hhear
    · cases Option.some.inj hhear
    · cases hhear

end Proper

/-! ## The end of a call -/

section Conclude

variable {c : Client} {now : Instant} {h h' : Handler} {call : Call} {held : Option Text}
  {answered : Except Error Reply}

theorem screened_eq_heed (c : Client) (call : Call) (h : Handler)
    (answered : Except Error Reply) :
    screened c call h answered = h.heed (call.request c) answered := by
  cases answered with
  | error e => rfl
  | ok reply => exact screen_fst h (call.request c) reply

/-- A login that ends is without a session, or takes one that a reply brought. -/
theorem finishLogin_cases (c : Client) (now : Instant) (h : Handler) (r : Except Error Reply) :
    (∃ e, finishLogin c now h r = (h.disconnect, .error e)) ∨
      (∃ e, finishLogin c now h r = (h.unsettle, .error e)) ∨
      ∃ reply result, r = .ok reply ∧
        h.connection.canBecome (.authenticated result.session) = true ∧
        finishLogin c now h r =
          ({ h with connection := .authenticated result.session, lastActivity := some now },
            .ok (.loggedIn result)) := by
  unfold finishLogin Connection.become
  cases r with
  | error e => exact .inl ⟨refusal e, rfl⟩
  | ok reply =>
    simp only [Except.bind]
    cases loginResult c reply with
    | error e => exact .inl ⟨refusal e, rfl⟩
    | ok result =>
      dsimp only
      by_cases hstep : h.connection.canBecome (.authenticated result.session) = true
      · rw [if_pos hstep]
        exact .inr (.inr ⟨reply, result, rfl, hstep, rfl⟩)
      · rw [if_neg hstep]
        exact .inr (.inl ⟨_, rfl⟩)

theorem conclude_login (c : Client) (now : Instant) (held : Option Text) (h : Handler)
    (answered : Except Error Reply) :
    conclude c now .login held h answered =
      finishLogin c now (screened c .login h answered)
        (answered.bind fun reply => (h.screen (.auth c.auth) reply).2) := by
  cases answered <;> rfl

theorem conclude_logout_fst (c : Client) (now : Instant) (held : Option Text) (h : Handler)
    (answered : Except Error Reply) :
    (conclude c now .logout held h answered).1 = (screened c .logout h answered).disconnect := by
  cases answered <;> rfl

/-- Only a login logs in. -/
theorem eq_login_of_loggedIn {result : AuthResult}
    (hok : (conclude c now call held h answered).2 = .ok (.loggedIn result)) : call = .login := by
  have hanswer : ∀ (call : Call) (x : Except Error Answer),
      x.map (success call) ≠ .ok (.loggedIn result) := by
    intro call x hx
    cases x with
    | error e => cases hx
    | ok a => cases call <;> cases hx
  cases call with
  | login => rfl
  | logout =>
    have hlogout : ∀ r, (finishLogout c h r).2 ≠ .ok (.loggedIn result) := by
      intro r hr
      unfold finishLogout at hr
      dsimp only at hr
      split at hr
      · cases hr
      · split at hr
        · split at hr <;> cases hr
        · cases hr
    cases answered with
    | error e => exact absurd hok (hlogout _)
    | ok reply => exact absurd hok (hlogout _)
  | ping => exact absurd hok (hanswer _ _)
  | send r => exact absurd hok (hanswer _ _)

/-- Where nobody is logged in, the last change of a call lets go of the connection. -/
private theorem proper_conclude (hsuits : Suits call held h.connection) (hnot : ∀ result,
      (conclude c now call held h answered).2 ≠ .ok (.loggedIn result)) :
    Proper now (screened c call h answered) (conclude c now call held h answered).1 := by
  cases call with
  | login =>
    rw [conclude_login] at hnot ⊢
    rcases finishLogin_cases c now (screened c .login h answered)
      (answered.bind fun reply => (h.screen (.auth c.auth) reply).2) with
      ⟨e, hend⟩ | ⟨e, hend⟩ | ⟨reply, result, _, _, hend⟩
    · rw [hend]
      exact proper_disconnect now _
    · rw [hend]
      exact proper_unsettle now _
    · rw [hend] at hnot
      exact absurd rfl (hnot result)
  | logout =>
    rw [conclude_logout_fst]
    exact proper_disconnect now _
  | ping =>
    rw [conclude_ping_fst, screened_eq_heed]
    exact proper_release now (hsuits.heed _ answered)
  | send r =>
    rw [conclude_send_fst, screened_eq_heed]
    exact proper_release now (hsuits.heed r answered)

/-- Every change at the end of a call is proper, if a reply that ends it is a sign of life. -/
theorem isChain_concludeTrail (hsuits : Suits call held h.connection)
    (hread : ∀ reply, answered = .ok reply → ∃ last, h.lastActivity = some last ∧ last ≤ now) :
    (h :: concludeTrail c now call held h answered).IsChain (Proper now) := by
  have hscreened := proper_screened c now call h answered
  unfold concludeTrail
  dsimp only
  split
  · rename_i result hok
    obtain rfl := eq_login_of_loggedIn hok
    have hconn : h.connection = .connecting := hsuits.eq_connecting
    rw [conclude_login] at hok ⊢
    rcases finishLogin_cases c now (screened c .login h answered)
      (answered.bind fun reply => (h.screen (.auth c.auth) reply).2) with
      ⟨e, hend⟩ | ⟨e, hend⟩ | ⟨reply, result', hreply, hstep, hend⟩
    · rw [hend] at hok
      cases hok
    · rw [hend] at hok
      cases hok
    · rw [hend] at hok ⊢
      cases hok
      have htaken : Proper now (screened c .login h answered)
          { screened c .login h answered with connection := .authenticated result.session } := by
        cases answered with
        | error e => cases hreply
        | ok reply' =>
          have hsame : screened c .login h (.ok reply') = h := by
            rw [screened_eq_heed]
            show (if _ then h.loseSession else h) = h
            rw [loseSession_of_connecting h hconn, ite_self]
          rw [hsame] at hstep ⊢
          exact ⟨.inr hstep, fun _ _ => hread reply' rfl, fun hnot => absurd hconn hnot⟩
      have hnoted : Proper now
          { screened c .login h answered with connection := .authenticated result.session }
          { screened c .login h answered with
            connection := .authenticated result.session, lastActivity := some now } :=
        ⟨.inl rfl, fun _ _ => ⟨now, rfl, Nat.le_refl now⟩, fun _ _ hk => hk⟩
      simp only [List.isChain_cons_cons, List.isChain_singleton, and_true]
      exact ⟨hscreened, htaken, hnoted⟩
  · rename_i hnot
    simp only [List.isChain_cons_cons, List.isChain_singleton, and_true]
    exact ⟨hscreened, proper_conclude hsuits hnot⟩

theorem isChain_resumeTrail {p : Pending} (hsuits : Suits p.call p.held h.connection) :
    (h :: resumeTrail c now p h).IsChain (Proper now) := by
  have hheard := proper_hear c now h p
  have hconn := connection_hear c now h p
  have hlast : ∀ reply, (h.hear c now p).2 = some (.ok reply) →
      (h.hear c now p).1.lastActivity = some now := fun _ => lastActivity_hear_of_ok
  unfold resumeTrail
  generalize h.hear c now p = read at hheard hconn hlast
  obtain ⟨heard, _ | answered⟩ := read
  · exact List.isChain_cons_cons.2 ⟨hheard, List.isChain_singleton heard⟩
  · refine List.isChain_cons_cons.2 ⟨hheard, ?_⟩
    apply isChain_concludeTrail
    · rw [show heard.connection = h.connection from hconn]
      exact hsuits
    · rintro reply rfl
      exact ⟨now, hlast reply rfl, Nat.le_refl now⟩

theorem isChain_engageTrail {key : Option Text} (hsuits : Suits call held h.connection) :
    (h :: engageTrail c now call key held h).IsChain (Proper now) := by
  have hissued := proper_issue now h (call.request c) key
  have hconn := connection_issue now h (call.request c) key
  unfold engageTrail
  generalize h.issue now (call.request c) key = posted at hissued hconn
  obtain ⟨issued, e | tag⟩ := posted
  · refine List.isChain_cons_cons.2 ⟨hissued, ?_⟩
    apply isChain_concludeTrail
    · rw [show issued.connection = h.connection from hconn]
      exact hsuits
    · rintro reply heq
      cases heq
  · refine List.isChain_cons_cons.2 ⟨hissued, ?_⟩
    apply isChain_resumeTrail
    rw [show issued.connection = h.connection from hconn]
    exact hsuits

/-- Every change that an act makes is proper. -/
theorem isChain_trail {a : Act Call Pending} {inside? : Option Pending} (hfinds : a.Finds inside?)
    (hsuits : SuitsInside inside? h.connection) : (h :: trail c now h a).IsChain (Proper now) := by
  cases a with
  | arrive call =>
    exact List.isChain_cons_cons.2 ⟨proper_arrive c now h call, List.isChain_singleton _⟩
  | enter call =>
    obtain rfl : inside? = none := hfinds
    unfold trail
    dsimp only
    rcases admits_or_refuses c now h call with ⟨key, held, met, hadmits⟩ | ⟨e, met, hrefuse⟩
    · rw [hadmits.meet_eq]
      exact List.isChain_cons_cons.2 ⟨hadmits.proper, isChain_engageTrail (hadmits.suits hsuits)⟩
    · rw [hrefuse.meet_eq]
      exact List.isChain_cons_cons.2 ⟨hrefuse.proper, List.isChain_singleton _⟩
  | resume p =>
    obtain rfl : inside? = some p := hfinds
    exact isChain_resumeTrail hsuits
  | abandon p =>
    obtain rfl : inside? = some p := hfinds
    exact List.isChain_cons_cons.2 ⟨proper_abandon now hsuits, List.isChain_singleton _⟩

end Conclude

end Handler

end AnidbClient
