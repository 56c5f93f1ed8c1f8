import AnidbClient.Proofs.Session.Runs

/-!
# The connection and the caller inside

Who is inside decides which state the connection can be in.  `Suits` is the relation, and
`suits_after` says that it holds after every run: with nobody inside the connection is settled,
and whoever is inside finds it as its own call left it, except that the session may have ended
under a command that is on its way.

How a call ends comes first.  `conclude` mixes the end of the session with the result, and the
lemmas here are about the connection alone.
-/

namespace AnidbClient

/-- No command of the session is on its way, and no login or logout. -/
def Connection.isSettled : Connection → Bool
  | .disconnected | .authenticated _ => true
  | _ => false

namespace Handler

section Conclude

variable (c : Client) (now : Instant) (h : Handler)

/-- The session ends if the command takes the reply for its end. -/
def heed (r : Request) (answered : Except Error Reply) (h : Handler) : Handler :=
  match answered with
  | .ok reply => if r.losesSession reply.code then h.loseSession else h
  | .error _ => h

theorem conclude_send_fst (r : Request) (held : Option Text) (answered : Except Error Reply) :
    (conclude c now (.send r) held h answered).1 = (h.heed r answered).release held := by
  cases answered with
  | error e => rfl
  | ok reply =>
    show (h.screen r reply).1.release held = _
    rw [screen_fst]
    rfl

theorem conclude_ping_fst (held : Option Text) (answered : Except Error Reply) :
    (conclude c now .ping held h answered).1 =
      (h.heed (.ping c.auth.nat) answered).release held := by
  cases answered with
  | error e => rfl
  | ok reply =>
    show (h.screen (.ping c.auth.nat) reply).1.release held = _
    rw [screen_fst]
    rfl

theorem connection_conclude_logout (held : Option Text) (answered : Except Error Reply) :
    (conclude c now .logout held h answered).1.connection = .disconnected := by
  cases answered <;> rfl

/-- A login ends with its session or with none. -/
theorem connection_finishLogin (hconn : h.connection = .connecting)
    (answered : Except Error Reply) :
    (finishLogin c now h answered).1.connection =
      match answered.bind (loginResult c) with
      | .ok result => .authenticated result.session
      | .error _ => .disconnected := by
  unfold finishLogin
  cases answered.bind (loginResult c) with
  | error e => rfl
  | ok result =>
    rw [hconn]
    rfl

theorem loseSession_of_connecting (hconn : h.connection = .connecting) : h.loseSession = h := by
  unfold loseSession
  rw [hconn]
  rfl

theorem connection_conclude_login (hconn : h.connection = .connecting) (held : Option Text)
    (answered : Except Error Reply) :
    (conclude c now .login held h answered).1.connection =
      match (answered.bind fun reply => (h.screen (.auth c.auth) reply).2).bind
        (loginResult c) with
      | .ok result => .authenticated result.session
      | .error _ => .disconnected := by
  cases answered with
  | error e => exact connection_finishLogin c now h hconn (.error e)
  | ok reply =>
    have hsame : (h.screen (.auth c.auth) reply).1 = h := by
      rw [screen_fst, loseSession_of_connecting h hconn, ite_self]
    have hscreen : (h.screen (.auth c.auth) reply).1.connection = .connecting := by
      rw [hsame]
      exact hconn
    exact connection_finishLogin c now _ hscreen (h.screen (.auth c.auth) reply).2

end Conclude

/-! ## Who is inside -/

/-- The connection can be in this state while the call is inside, holding it with the given
key. -/
inductive Suits : Call → Option Text → Connection → Prop where
  | login : Suits .login none .connecting
  | logout : Suits .logout none .loggingOut
  | ping {conn : Connection} (hconn : conn.isSettled = true) : Suits .ping none conn
  | free {r : Request} {conn : Connection} (hfree : r.requiresSession = false)
      (hconn : conn.isSettled = true) : Suits (.send r) none conn
  | bound {r : Request} {key : Text} (hbound : r.requiresSession = true) :
      Suits (.send r) (some key) (.sending key)
  /-- The session ended while the command was on its way. -/
  | lost {r : Request} {key : Text} (hbound : r.requiresSession = true) :
      Suits (.send r) (some key) .disconnected

/-- The connection can be in this state with this caller inside, or with nobody. -/
def SuitsInside : Option Pending → Connection → Prop
  | none, conn => conn.isSettled = true
  | some p, conn => Suits p.call p.held conn

section Suits

variable {c : Client} {now : Instant} {h h' : Handler} {call : Call} {key held : Option Text}
  {key' : Text} {conn : Connection}

theorem Suits.eq_connecting (hsuits : Suits .login held conn) : conn = .connecting := by
  cases hsuits
  rfl

theorem Suits.eq_loggingOut (hsuits : Suits .logout held conn) : conn = .loggingOut := by
  cases hsuits
  rfl

theorem Suits.isSettled_of_ping (hsuits : Suits .ping held conn) :
    held = none ∧ conn.isSettled = true := by
  cases hsuits with
  | ping hconn => exact ⟨rfl, hconn⟩

theorem Admits.suits (hadmits : Admits c now h call key held h')
    (hsettled : h.connection.isSettled = true) : Suits call held h'.connection := by
  cases hadmits with
  | login => exact .login
  | logout => exact .logout
  | ping => exact .ping hsettled
  | free hfree => exact .free hfree hsettled
  | bound hbound => exact .bound hbound

theorem Refuses.isSettled {e : Error} (hrefuse : Refuses c now h call e h')
    (hsettled : h.connection.isSettled = true) : h'.connection.isSettled = true := by
  cases hrefuse with
  | expired => rfl
  | _ => exact hsettled

/-- A session that ends leaves the connection such as the caller inside may find it. -/
theorem Suits.disconnect (hsuits : Suits call held conn) (hauth : conn.isAuthenticated = true) :
    Suits call held .disconnected := by
  cases hsuits with
  | login => cases hauth
  | logout => cases hauth
  | ping => exact .ping rfl
  | free hfree => exact .free hfree rfl
  | bound hbound => exact .lost hbound
  | lost hbound => exact .lost hbound

theorem Suits.heed (hsuits : Suits call held h.connection) (r : Request)
    (answered : Except Error Reply) : Suits call held (h.heed r answered).connection := by
  unfold Handler.heed loseSession
  split
  · split
    · split
      · rename_i hauth
        exact hsuits.disconnect hauth
      · exact hsuits
    · exact hsuits
  · exact hsuits

/-- The connection is settled when a command lets go of it. -/
theorem Suits.release {r : Request} (hsuits : Suits (.send r) held h.connection) :
    (h.release held).connection.isSettled = true := by
  generalize hconn : h.connection = conn at hsuits
  cases hsuits with
  | free _ hsettled =>
    rw [connection_release_none, hconn]
    exact hsettled
  | bound => rw [connection_release_of_sending h hconn]; rfl
  | lost => rw [connection_release_of_disconnected h hconn]; rfl

/-- A command that held the connection with a key leaves the session, unless its reply ended it. -/
theorem connection_release_heed (hconn : h.connection = .sending key') (r : Request)
    (answered : Except Error Reply) :
    ((h.heed r answered).release (some key')).connection =
      match answered with
      | .ok reply =>
        if r.losesSession reply.code then .disconnected else .authenticated key'
      | .error _ => .authenticated key' := by
  cases answered with
  | error e => exact connection_release_of_sending h hconn
  | ok reply =>
    unfold Handler.heed
    dsimp only
    split
    · have hlost : h.loseSession.connection = .disconnected := by
        rw [connection_loseSession, hconn]
        rfl
      exact connection_release_of_disconnected _ hlost
    · exact connection_release_of_sending h hconn

theorem eq_of_isSettled (hsettled : conn.isSettled = true) :
    conn = .disconnected ∨ ∃ session, conn = .authenticated session := by
  cases conn with
  | disconnected => exact .inl rfl
  | authenticated session => exact .inr ⟨session, rfl⟩
  | _ => cases hsettled

theorem authenticated_or_disconnected (hsettled : conn.isSettled = true) :
    conn.isAuthenticated = true ∨ conn = .disconnected := by
  rcases eq_of_isSettled hsettled with hnone | ⟨session, rfl⟩
  · exact .inr hnone
  · exact .inl rfl

theorem Suits.send_authenticated {r : Request} (hsuits : Suits (.send r) held conn) :
    conn.isAuthenticated = true ∨ conn = .disconnected := by
  cases hsuits with
  | free _ hsettled => exact authenticated_or_disconnected hsettled
  | bound => exact .inl rfl
  | lost => exact .inr rfl

/-- A connection that is `disconnected` or has a session has none after a reply that ends it. -/
theorem connection_release_of_loses {r : Request} {reply : Reply}
    (hconn : h.connection.isAuthenticated = true ∨ h.connection = .disconnected)
    (hlost : r.losesSession reply.code = true) :
    ((h.heed r (.ok reply)).release held).connection = .disconnected := by
  apply connection_release_of_disconnected
  unfold Handler.heed
  dsimp only
  rw [if_pos hlost, connection_loseSession]
  split
  · rfl
  · rename_i hauth
    exact hconn.resolve_left hauth

theorem Suits.release_ping (hsuits : Suits .ping held h.connection) :
    (h.release held).connection.isSettled = true := by
  obtain ⟨rfl, hsettled⟩ := hsuits.isSettled_of_ping
  exact hsettled

/-- The connection is settled when a call ends. -/
theorem Suits.conclude (hsuits : Suits call held h.connection) (answered : Except Error Reply) :
    (Handler.conclude c now call held h answered).1.connection.isSettled = true := by
  cases call with
  | login =>
    rw [connection_conclude_login c now h hsuits.eq_connecting]
    split <;> rfl
  | logout =>
    rw [connection_conclude_logout]
    rfl
  | ping =>
    rw [conclude_ping_fst]
    exact (hsuits.heed _ answered).release_ping
  | send r =>
    rw [conclude_send_fst]
    exact (hsuits.heed r answered).release

theorem Suits.abandon {p : Pending} (hsuits : Suits p.call p.held h.connection) :
    (h.abandon p).connection.isSettled = true := by
  unfold Handler.abandon
  generalize p.call = call, p.held = held at hsuits
  cases call with
  | login =>
    rw [connection_unsettle h (.inl hsuits.eq_connecting)]
    rfl
  | logout =>
    rw [connection_unsettle h (.inr hsuits.eq_loggingOut)]
    rfl
  | ping => exact hsuits.release_ping
  | send r => exact hsuits.release

theorem Heeds.suits {p : Pending} {turn : Handler × Turn Pending (Except Error Success)}
    (hheed : Heeds c now h p turn) (hsuits : Suits p.call p.held h.connection) :
    SuitsInside turn.2.stay? turn.1.connection := by
  have hsame : (h.hear c now p).1.connection = h.connection := rfl
  cases hheed with
  | waits hhear =>
    rw [hhear] at hsame
    show Suits p.call p.held _
    rw [hsame]
    exact hsuits
  | @ends h' r hhear =>
    rw [hhear] at hsame
    have hsuits' : Suits p.call p.held h'.connection := hsame ▸ hsuits
    exact hsuits'.conclude r

theorem Enters.suits {turn : Handler × Turn Pending (Except Error Success)}
    (henter : Enters c now h call turn) (hsettled : h.connection.isSettled = true) :
    SuitsInside turn.2.stay? turn.1.connection := by
  cases henter with
  | refused hrefuse => exact hrefuse.isSettled hsettled
  | @unsent key held h' h'' e hadmits hissue =>
    have hsame := connection_issue now h' (call.request c) key
    rw [hissue] at hsame
    have hsuits : Suits call held h''.connection := hsame ▸ hadmits.suits hsettled
    exact hsuits.conclude (.error e)
  | @sent key held h' h'' t turn hadmits hissue hheed =>
    have hsame := connection_issue now h' (call.request c) key
    rw [hissue] at hsame
    have hsuits : Suits call held h''.connection := hsame ▸ hadmits.suits hsettled
    exact hheed.suits hsuits

/-- A newcomer changes nothing, or ends a session that was silent for too long. -/
theorem suitsInside_arrive {o : Option Pending} (hsuits : SuitsInside o h.connection)
    (call : Call) : SuitsInside o (arrive c now call h).1.connection := by
  rw [arrive_fst]
  split
  · rename_i hexpires
    cases o with
    | none => rfl
    | some p => exact Suits.disconnect hsuits hexpires.2.1
  · exact hsuits

/-- No call breaks the relation. -/
theorem keeps_suitsInside (c : Client) :
    (service c).Keeps fun _ o h => SuitsInside o h.connection where
  later _ hsuits := hsuits
  arrive call hsuits := suitsInside_arrive hsuits call
  enter call hsettled := (enters_enter c _ _ call).suits hsettled
  resume hsuits := (heeds_resume c _ _ _).suits hsuits
  abandon hsuits := Suits.abandon hsuits

end Suits

end Handler

namespace Session

variable (c : Client) (l : Limits) (server : Server) (events : List (Event Call))

/-- The connection is always such as the caller inside may find it. -/
theorem suits_after :
    Handler.SuitsInside (after c l server events).inside?
      (after c l server events).state.connection := by
  have hopened : Handler.SuitsInside (after c l server []).inside?
      (after c l server []).state.connection := rfl
  exact (Handler.keeps_suitsInside c).run (Turnstile.orderly_opened _) hopened events

variable {c l server events} in
/-- The caller inside finds the connection as it can be for its call. -/
theorem suits_of_inside {id : Caller} {p : Pending}
    (hstage : (after c l server events).stage id = some (.inside p)) :
    Handler.Suits p.call p.held (after c l server events).state.connection := by
  have hsuits := suits_after c l server events
  rw [(orderly_after c l server events).inside?_of_inside hstage] at hsuits
  exact hsuits

/-- A call that is decided finds the connection as it can be for it. -/
theorem Decides.suits {c : Client} {l : Limits} {server : Server} {events : List (Event Call)}
    {id : Caller} {call : Call} {held : Option Text} {h : Handler} {answered : Except Error Reply}
    (hdecides : Decides c l (after c l server events) id call held h answered) :
    Handler.Suits call held h.connection := by
  have hw := orderly_after c l server events
  have hsuits := suits_after c l server events
  generalize after c l server events = w at hdecides hw hsuits
  cases hdecides with
  | @waiting p h answered hstage hhear =>
    have hheard := Handler.connection_hear c w.now w.state p
    rw [hhear] at hheard
    rw [hw.inside?_of_inside hstage] at hsuits
    exact hheard ▸ hsuits
  | @unsent call pace key held h' h e hin hadmits hissue =>
    have hissued := Handler.connection_issue w.now h' (call.request c) key
    rw [hissue] at hissued
    rw [hin.inside? hw] at hsuits
    exact hissued ▸ hadmits.suits hsuits
  | @atOnce call pace key held h' h'' h t answered hin hadmits hissue hhear =>
    have hissued := Handler.connection_issue w.now h' (call.request c) key
    have hheard := Handler.connection_hear c w.now h'' ⟨call, held, t, w.now + c.requestTimeout⟩
    rw [hissue] at hissued
    rw [hhear] at hheard
    rw [hin.inside? hw] at hsuits
    exact (hheard.trans hissued) ▸ hadmits.suits hsuits

end Session

end AnidbClient
