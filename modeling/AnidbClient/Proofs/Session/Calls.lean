import AnidbClient.Session.Handler

/-!
# What a call does to the handler

The service of a handler is opened here once, so that later proofs need not look into it.

* `SameWire` relates handlers that differ in their session alone.  Only sending a command and
  reading replies touch the tags and the network.
* The connection after each change of the session.
* `Admits` and `Refuses` list what a caller that is let in can find.
* `Heeds` is what reading brings, and `Enters` puts the parts together: a caller that is let in is
  refused, or cannot send its command, or sends it and reads for the first time.
-/

namespace AnidbClient

/-- The code says that the server knows no session of the client any more. -/
def ReturnCode.endsSession (code : ReturnCode) : Bool :=
  code.isSessionInvalid || code.isBanned

/-- The command takes a reply with this code for the loss of the session. -/
def Request.losesSession (r : Request) (code : ReturnCode) : Bool :=
  !r.accepted.contains code && code.endsSession

/-- The call sends a command that goes with the key of the session. -/
def Call.isBound : Call → Bool
  | .send r => r.requiresSession
  | _ => false

namespace Handler

/-! ## Changes of the session leave tags and network alone -/

/-- The tags given out and the network are the same. -/
structure SameWire (h h' : Handler) : Prop where
  nextTag : h'.nextTag = h.nextTag
  network : h'.network = h.network

theorem SameWire.refl (h : Handler) : SameWire h h := ⟨rfl, rfl⟩

theorem SameWire.trans {h h' h'' : Handler} (first : SameWire h h') (second : SameWire h' h'') :
    SameWire h h'' :=
  ⟨second.nextTag.trans first.nextTag, second.network.trans first.network⟩

section SameWire

variable (c : Client) (now : Instant) (h : Handler)

theorem sameWire_disconnect : SameWire h h.disconnect := ⟨rfl, rfl⟩

theorem sameWire_loseSession : SameWire h h.loseSession := by
  unfold loseSession
  split
  · exact sameWire_disconnect h
  · exact .refl h

theorem sameWire_unsettle : SameWire h h.unsettle := by
  unfold unsettle
  split
  · exact sameWire_disconnect h
  · exact sameWire_disconnect h
  · exact .refl h

theorem sameWire_release (held : Option Text) : SameWire h (h.release held) := by
  unfold release
  split
  · exact ⟨rfl, rfl⟩
  · exact .refl h

theorem sameWire_checkSession : SameWire h (h.checkSession c now).1 := by
  unfold checkSession
  split
  · exact .refl h
  · split
    · exact sameWire_disconnect h
    · exact .refl h

theorem sameWire_screen (r : Request) (reply : Reply) : SameWire h (h.screen r reply).1 := by
  unfold screen
  split
  · exact .refl h
  · split
    · exact sameWire_loseSession h
    · exact sameWire_loseSession h
    · exact .refl h
    · exact .refl h

theorem sameWire_finishLogin (r : Except Error Reply) :
    SameWire h (finishLogin c now h r).1 := by
  unfold finishLogin
  split
  · exact sameWire_disconnect h
  · split
    · exact sameWire_unsettle h
    · exact ⟨rfl, rfl⟩

theorem sameWire_conclude (call : Call) (held : Option Text) (r : Except Error Reply) :
    SameWire h (conclude c now call held h r).1 := by
  have hscreen : ∀ reply, SameWire h (h.screen (call.request c) reply).1 := sameWire_screen h _
  cases call with
  | login =>
    cases r with
    | ok reply => exact (hscreen reply).trans (sameWire_finishLogin c now _ _)
    | error e => exact sameWire_finishLogin c now h (.error e)
  | logout =>
    cases r with
    | ok reply => exact (hscreen reply).trans (sameWire_disconnect _)
    | error e => exact sameWire_disconnect h
  | ping =>
    cases r with
    | ok reply => exact (hscreen reply).trans (sameWire_release _ held)
    | error e => exact sameWire_release h held
  | send request =>
    cases r with
    | ok reply => exact (hscreen reply).trans (sameWire_release _ held)
    | error e => exact sameWire_release h held

theorem sameWire_abandon (p : Pending) : SameWire h (h.abandon p) := by
  unfold abandon
  split
  · exact sameWire_unsettle h
  · exact sameWire_unsettle h
  · exact sameWire_release h p.held
  · exact sameWire_release h p.held

theorem sameWire_arrive (call : Call) : SameWire h (arrive c now call h).1 := by
  unfold arrive
  split
  · exact .refl h
  · exact .refl h
  · exact .refl h
  · split
    · have hcheck := sameWire_checkSession c now h
      split
      · rename_i heq
        rw [heq] at hcheck
        exact hcheck
      · rename_i heq
        rw [heq] at hcheck
        exact hcheck
    · exact .refl h

end SameWire

/-! ## The connection after a change of the session -/

section Connection

variable (c : Client) (now : Instant) (h : Handler)

@[simp] theorem connection_disconnect : h.disconnect.connection = .disconnected := rfl

theorem connection_loseSession :
    h.loseSession.connection =
      if h.connection.isAuthenticated then .disconnected else h.connection := by
  unfold loseSession
  split <;> rfl

theorem connection_release_none : (h.release none).connection = h.connection := rfl

theorem connection_release_of_sending {held key : Text} (hconn : h.connection = .sending key) :
    (h.release (some held)).connection = .authenticated held := by
  unfold release
  rw [hconn]

theorem connection_release_of_disconnected {held : Option Text}
    (hconn : h.connection = .disconnected) : (h.release held).connection = .disconnected := by
  unfold release
  split
  · rename_i hsending
    rw [hconn] at hsending
    cases hsending
  · exact hconn

/-- A login or logout that is called away leaves no session behind. -/
theorem connection_unsettle (hconn : h.connection = .connecting ∨ h.connection = .loggingOut) :
    h.unsettle.connection = .disconnected := by
  unfold unsettle
  rcases hconn with hconn | hconn <;> rw [hconn] <;> rfl

theorem screen_fst (r : Request) (reply : Reply) :
    (h.screen r reply).1 = if r.losesSession reply.code then h.loseSession else h := by
  unfold screen Request.losesSession ReturnCode.endsSession ReturnCode.isSessionInvalid
    ReturnCode.isBanned
  by_cases haccepted : reply.code ∈ r.accepted
  · simp [haccepted]
  · cases hcategory : reply.code.category <;> simp [haccepted]

/-- A session that was silent for too long ends when a newcomer wants to use it, whatever it is
used for at that moment. -/
theorem arrive_fst (call : Call) :
    (arrive c now call h).1 =
      if call.isBound = true ∧ h.connection.isAuthenticated = true ∧
          c.sessionTimeout < h.idle now then h.disconnect
      else h := by
  unfold arrive checkSession
  split
  · simp [Call.isBound]
  · simp [Call.isBound]
  · simp [Call.isBound]
  · rename_i r
    by_cases hbound : r.requiresSession = true
    · by_cases hauth : h.connection.isAuthenticated = true
      · by_cases hidle : c.sessionTimeout < h.idle now
        · simp [Call.isBound, hbound, hauth, hidle]
        · simp [Call.isBound, hbound, hauth, hidle]
      · simp [Call.isBound, hbound, hauth]
    · simp [Call.isBound, hbound]

/-- A newcomer with a command gets in line, or is turned away for want of a session. -/
theorem arrive_send_cases (r : Request) :
    arrive c now (.send r) h = (h, none) ∨
      h.connection.isAuthenticated = false ∧
        arrive c now (.send r) h = (h, some (.error .notAuthenticated)) ∨
      arrive c now (.send r) h = (h.disconnect, some (.error (expired (h.idle now)))) := by
  unfold arrive checkSession
  by_cases hbound : r.requiresSession = true
  · by_cases hauth : h.connection.isAuthenticated = true
    · by_cases hidle : c.sessionTimeout < h.idle now
      · exact .inr (.inr (by simp [hbound, hauth, hidle]))
      · exact .inl (by simp [hbound, hauth, hidle])
    · exact .inr (.inl ⟨Bool.eq_false_iff.2 hauth, by simp [hbound, hauth]⟩)
  · exact .inl (by simp [hbound])

end Connection

/-! ## Sending and reading -/

section Exchange

variable (c : Client) (now : Instant) (h : Handler)

/-- The tag with a number. -/
def tagOf (n : Nat) : Text :=
  't' :: Text.digits n

/-- The tag of the next command. -/
def tag (h : Handler) : Text :=
  tagOf h.nextTag

variable (r : Request) (key : Option Text)

@[simp] theorem connection_issue : (h.issue now r key).1.connection = h.connection := by
  unfold issue
  dsimp only
  split <;> rfl

@[simp] theorem nextTag_issue : (h.issue now r key).1.nextTag = h.nextTag + 1 := by
  unfold issue
  dsimp only
  split <;> rfl

/-- A command that can be packed is sent, and one that cannot is not. -/
theorem network_issue :
    (h.issue now r key).1.network =
      if (Wire.pack (r.line key (some h.tag))).isOk then
        (h.network.post now (r.line key (some h.tag)) h.tag).1
      else h.network := by
  unfold issue tag tagOf
  dsimp only
  split
  · rename_i hpack
    rw [hpack]
    rfl
  · rename_i hpack
    rw [hpack]
    rfl

/-- A command that was sent has the tag that was next. -/
theorem issue_snd_of_ok {t : Text} (hok : (h.issue now r key).2 = .ok t) : t = h.tag := by
  unfold issue at hok
  dsimp only at hok
  split at hok
  · cases hok
  · generalize (h.network.post now (r.line key (some ('t' :: Text.digits h.nextTag)))
      ('t' :: Text.digits h.nextTag)).2 = posted at hok
    cases posted with
    | error e => cases hok
    | ok u => exact (Except.ok.inj hok).symm

theorem sent_post (line t : Text) (n : Network) :
    (n.post now line t).1.sent = n.sent ++ [(now, line)] := by
  unfold Network.post
  dsimp only
  split <;> rfl

theorem sent_issue :
    (h.issue now r key).1.network.sent = h.network.sent ∨
      (h.issue now r key).1.network.sent =
        h.network.sent ++ [(now, r.line key (some h.tag))] := by
  rw [network_issue]
  split
  · exact .inr (sent_post now _ _ h.network)
  · exact .inl rfl

variable (p : Pending)

@[simp] theorem connection_hear : (h.hear c now p).1.connection = h.connection := rfl

@[simp] theorem sent_hear : (h.hear c now p).1.network.sent = h.network.sent := rfl

end Exchange

/-! ## A caller that is let in -/

section Entering

variable (c : Client) (now : Instant) (h : Handler)

/-- The caller may send its command, with this key and holding the connection with that one. -/
inductive Admits : Call → Option Text → Option Text → Handler → Prop where
  | login (hconn : h.connection = .disconnected) :
      Admits .login none none { h with connection := .connecting }
  | logout {key : Text} (hconn : h.connection = .authenticated key) :
      Admits .logout (some key) none { h with connection := .loggingOut }
  | ping : Admits .ping none none h
  /-- Commands without a session need nothing. -/
  | free {r : Request} (hfree : r.requiresSession = false) : Admits (.send r) none none h
  | bound {r : Request} {key : Text} (hbound : r.requiresSession = true)
      (hconn : h.connection = .authenticated key) (hidle : h.idle now ≤ c.sessionTimeout) :
      Admits (.send r) (some key) (some key) { h with connection := .sending key }

/-- The caller is turned away with this error. -/
inductive Refuses : Call → Error → Handler → Prop where
  | login (hconn : h.connection ≠ .disconnected) :
      Refuses .login (.invalidState h.connection.name Connection.connecting.name) h
  | logout (hconn : h.connection.isAuthenticated = false) : Refuses .logout .notAuthenticated h
  | logoutBusy {key : Text} (hconn : h.connection = .sending key) :
      Refuses .logout (.invalidState h.connection.name Connection.loggingOut.name) h
  | unauthenticated {r : Request} (hbound : r.requiresSession = true)
      (hconn : h.connection.isAuthenticated = false) : Refuses (.send r) .notAuthenticated h
  | expired {r : Request} (hbound : r.requiresSession = true)
      (hconn : h.connection.isAuthenticated = true) (hidle : c.sessionTimeout < h.idle now) :
      Refuses (.send r) (expired (h.idle now)) h.disconnect
  | busy {r : Request} {key : Text} (hbound : r.requiresSession = true)
      (hconn : h.connection = .sending key) (hidle : h.idle now ≤ c.sessionTimeout) :
      Refuses (.send r) .notAuthenticated h

/-- What reading brings to a caller whose command is on its way: it waits, or its call ends. -/
inductive Heeds (p : Pending) : Handler × Turn Pending (Except Error Success) → Prop where
  | waits {h' : Handler} (hhear : h.hear c now p = (h', none)) : Heeds p (h', .staying p)
  | ends {h' : Handler} {r : Except Error Reply} (hhear : h.hear c now p = (h', some r)) :
      Heeds p ((conclude c now p.call p.held h' r).1,
        .leaving (conclude c now p.call p.held h' r).2)

theorem heeds_resume (p : Pending) : Heeds c now h p (h.resume c now p) := by
  unfold resume
  split
  · rename_i hhear
    exact .waits hhear
  · rename_i hhear
    exact .ends hhear

/-- What becomes of a caller that is let in. -/
inductive Enters (call : Call) : Handler × Turn Pending (Except Error Success) → Prop where
  | refused {e : Error} {h' : Handler} (hrefuse : Refuses c now h call e h') :
      Enters call (h', .leaving (.error e))
  /-- The command could not be sent. -/
  | unsent {key held : Option Text} {h' h'' : Handler} {e : Error}
      (hadmits : Admits c now h call key held h')
      (hissue : h'.issue now (call.request c) key = (h'', .error e)) :
      Enters call ((conclude c now call held h'' (.error e)).1,
        .leaving (conclude c now call held h'' (.error e)).2)
  /-- The command was sent, and what is there already is read. -/
  | sent {key held : Option Text} {h' h'' : Handler} {t : Text}
      {turn : Handler × Turn Pending (Except Error Success)}
      (hadmits : Admits c now h call key held h')
      (hissue : h'.issue now (call.request c) key = (h'', .ok t))
      (hheed : Heeds c now h'' ⟨call, held, t, now + c.requestTimeout⟩ turn) : Enters call turn

variable {c now h}

theorem Admits.enters_engage {call : Call} {key held : Option Text} {h' : Handler}
    (hadmits : Admits c now h call key held h') :
    Enters c now h call (engage c now call key held h') := by
  unfold engage
  split
  · rename_i hissue
    exact .unsent hadmits hissue
  · rename_i hissue
    exact .sent hadmits hissue (heeds_resume c now _ _)

/-! ### The functions behind the relations -/

private theorem become_connecting {source : Connection} (hne : source ≠ .disconnected) :
    source.become .connecting = .error (.invalidState source.name Connection.connecting.name) := by
  cases source with
  | disconnected => exact absurd rfl hne
  | _ => rfl

private theorem checkSession_of_unauthenticated (hconn : h.connection.isAuthenticated = false) :
    h.checkSession c now = (h, .error .notAuthenticated) := by
  simp [checkSession, hconn]

private theorem checkSession_of_expired (hconn : h.connection.isAuthenticated = true)
    (hidle : c.sessionTimeout < h.idle now) :
    h.checkSession c now = (h.disconnect, .error (expired (h.idle now))) := by
  simp [checkSession, hconn, hidle]

private theorem checkSession_of_live (hconn : h.connection.isAuthenticated = true)
    (hidle : h.idle now ≤ c.sessionTimeout) : h.checkSession c now = (h, .ok ()) := by
  simp [checkSession, hconn, Nat.not_lt.2 hidle]

theorem hold_of_authenticated {key : Text} (hconn : h.connection = .authenticated key) :
    h.hold = ({ h with connection := .sending key }, .ok key) := by
  simp [hold, hconn, Connection.become, Connection.canBecome]

private theorem hold_of_sending {key : Text} (hconn : h.connection = .sending key) :
    h.hold = (h, .error .notAuthenticated) := by
  simp [hold, hconn]

theorem Admits.meet_eq {call : Call} {key held : Option Text} {h' : Handler}
    (hadmits : Admits c now h call key held h') : h.meet c now call = (h', .ok (key, held)) := by
  cases hadmits with
  | login hconn => simp [meet, look, take, hconn, Connection.become, Connection.canBecome]
  | logout hconn =>
    simp [meet, look, take, hconn, Connection.session?, Connection.become, Connection.canBecome]
  | ping => rfl
  | free hfree => simp [meet, look, take, Call.request, hfree]
  | bound hbound hconn hidle =>
    have hlive := checkSession_of_live (c := c) (by rw [hconn]; rfl) hidle
    simp [meet, look, take, Call.request, hbound, hlive, hold_of_authenticated hconn]

theorem Refuses.meet_eq {call : Call} {e : Error} {h' : Handler}
    (hrefuse : Refuses c now h call e h') : h.meet c now call = (h', .error e) := by
  cases hrefuse with
  | login hconn => simp [meet, look, take, become_connecting hconn]
  | logout hconn =>
    have hnone : h.connection.session? = none := by
      revert hconn
      cases h.connection <;> simp [Connection.session?, Connection.isAuthenticated]
    simp [meet, look, hnone]
  | logoutBusy hconn =>
    simp [meet, look, take, hconn, Connection.session?, Connection.become, Connection.canBecome]
  | unauthenticated hbound hconn =>
    simp [meet, look, Call.request, hbound, checkSession_of_unauthenticated hconn]
  | expired hbound hconn hidle =>
    simp [meet, look, Call.request, hbound, checkSession_of_expired hconn hidle]
  | busy hbound hconn hidle =>
    have hlive := checkSession_of_live (c := c) (by rw [hconn]; rfl) hidle
    simp [meet, look, take, Call.request, hbound, hlive, hold_of_sending hconn]

/-- A caller that is admitted goes on to send. -/
theorem Admits.enter_eq {call : Call} {key held : Option Text} {h' : Handler}
    (hadmits : Admits c now h call key held h') :
    enter c now call h = engage c now call key held h' := by
  unfold enter
  rw [hadmits.meet_eq]
  rfl

/-- A caller that is refused leaves. -/
theorem Refuses.enter_eq {call : Call} {e : Error} {h' : Handler}
    (hrefuse : Refuses c now h call e h') : enter c now call h = (h', .leaving (.error e)) := by
  unfold enter
  rw [hrefuse.meet_eq]
  rfl

/-- Every caller that is let in is admitted or refused. -/
theorem admits_or_refuses (c : Client) (now : Instant) (h : Handler) (call : Call) :
    (∃ key held h', Admits c now h call key held h') ∨ ∃ e h', Refuses c now h call e h' := by
  cases call with
  | login =>
    by_cases hconn : h.connection = .disconnected
    · exact .inl ⟨_, _, _, .login hconn⟩
    · exact .inr ⟨_, _, .login hconn⟩
  | logout =>
    cases hconn : h.connection with
    | authenticated key => exact .inl ⟨_, _, _, .logout hconn⟩
    | sending key => exact .inr ⟨_, _, .logoutBusy hconn⟩
    | _ => exact .inr ⟨_, _, .logout (by rw [hconn]; rfl)⟩
  | ping => exact .inl ⟨_, _, _, .ping⟩
  | send r =>
    by_cases hbound : r.requiresSession = true
    · by_cases hauth : h.connection.isAuthenticated = true
      · rcases Nat.lt_or_ge c.sessionTimeout (h.idle now) with hidle | hidle
        · exact .inr ⟨_, _, .expired hbound hauth hidle⟩
        · cases hconn : h.connection with
          | authenticated key => exact .inl ⟨_, _, _, .bound hbound hconn hidle⟩
          | sending key => exact .inr ⟨_, _, .busy hbound hconn hidle⟩
          | _ =>
            rw [hconn] at hauth
            cases hauth
      · exact .inr ⟨_, _, .unauthenticated hbound (Bool.eq_false_iff.2 hauth)⟩
    · exact .inl ⟨_, _, _, .free (Bool.eq_false_iff.2 hbound)⟩

variable (c now h)

theorem enters_enter (call : Call) : Enters c now h call (enter c now call h) := by
  rcases admits_or_refuses c now h call with ⟨key, held, h', hadmits⟩ | ⟨e, h', hrefuse⟩
  · rw [hadmits.enter_eq]
    exact hadmits.enters_engage
  · rw [hrefuse.enter_eq]
    exact .refused hrefuse

variable {c now h}

theorem Admits.sameWire {call : Call} {key held : Option Text} {h' : Handler}
    (hadmits : Admits c now h call key held h') : SameWire h h' := by
  cases hadmits <;> exact ⟨rfl, rfl⟩

theorem Refuses.sameWire {call : Call} {e : Error} {h' : Handler}
    (hrefuse : Refuses c now h call e h') : SameWire h h' := by
  cases hrefuse <;> exact ⟨rfl, rfl⟩

/-! ### What is sent -/

theorem SameWire.tag_eq {h' : Handler} (hsame : SameWire h h') : h'.tag = h.tag := by
  unfold tag
  rw [hsame.nextTag]

/-- Nobody sends while reading. -/
theorem Heeds.sent_eq {p : Pending} {turn : Handler × Turn Pending (Except Error Success)}
    (hheed : Heeds c now h p turn) : turn.1.network.sent = h.network.sent := by
  have hheard := sent_hear c now h p
  cases hheed with
  | waits hhear =>
    rw [hhear] at hheard
    exact hheard
  | @ends h' r hhear =>
    rw [hhear] at hheard
    rw [(sameWire_conclude c now h' p.call p.held r).network]
    exact hheard

/-- A caller that is let in sends at most once, and at once. -/
theorem Enters.sent_cases {call : Call} {turn : Handler × Turn Pending (Except Error Success)}
    (henter : Enters c now h call turn) :
    turn.1.network.sent = h.network.sent ∨
      ∃ key held h', Admits c now h call key held h' ∧
        turn.1.network.sent =
          h.network.sent ++ [(now, (call.request c).line key (some h.tag))] := by
  cases henter with
  | refused hrefuse => exact .inl (by rw [hrefuse.sameWire.network])
  | @unsent key held h' h'' e hadmits hissue =>
    have hsent := sent_issue now h' (call.request c) key
    rw [hissue, hadmits.sameWire.network, hadmits.sameWire.tag_eq] at hsent
    rw [(sameWire_conclude c now h'' call held (.error e)).network]
    exact hsent.imp_right fun hgrown => ⟨key, held, h', hadmits, hgrown⟩
  | @sent key held h' h'' t turn hadmits hissue hheed =>
    have hsent := sent_issue now h' (call.request c) key
    rw [hissue, hadmits.sameWire.network, hadmits.sameWire.tag_eq] at hsent
    rw [hheed.sent_eq]
    exact hsent.imp_right fun hgrown => ⟨key, held, h', hadmits, hgrown⟩

end Entering

end Handler

end AnidbClient
