import AnidbClient.Proofs.Session.States

/-!
# What a call brings

The result of a call depends on what decided it, and on nothing else: `Call.outcome` is the result
that a reply or an error means for a call, and `conclude_snd` says that a call ends with it.

A command that cannot be sent brings an error that says so (`isUnsent_of_issue`), and the call ends
with that very error (`outcome_of_error`).  What reading brings was in the inbox, or is the end of
the wait (`exists_of_hear`, `eq_timeout_or_exists_of_hear`).
-/

namespace AnidbClient

/-- The error tells of no reply: nothing was sent, or nothing was received. -/
def Error.isUnanswered : Error → Bool
  | .transport _ | .timeout _ | .notAuthenticated | .invalidState .. | .encoding _
  | .packetTooLarge .. => true
  | _ => false

/-- The command could not be sent. -/
def Error.isUnsent : Error → Bool
  | .transport _ | .encoding _ | .packetTooLarge .. => true
  | _ => false

theorem Error.isUnanswered_of_isUnsent {e : Error} (he : e.isUnsent = true) :
    e.isUnanswered = true := by
  cases e with
  | transport => rfl
  | encoding => rfl
  | packetTooLarge => rfl
  | _ => cases he

/-- The reply to a command, or the error that its code is where it concerns the session. -/
def Request.judge (r : Request) (reply : Reply) : Except Error Reply :=
  if reply.code ∈ r.accepted then .ok reply
  else
    match reply.code.category with
    | .sessionInvalid | .banned => .error (.sessionInvalidated reply.code reply.message)
    | .retryable => .error (.serverBusy reply.code)
    | _ => .ok reply

/-- A reply that ends the session is an error to the command. -/
theorem Request.judge_of_losesSession {r : Request} {reply : Reply}
    (hlost : r.losesSession reply.code = true) :
    r.judge reply = .error (.sessionInvalidated reply.code reply.message) := by
  unfold losesSession ReturnCode.endsSession ReturnCode.isSessionInvalid
    ReturnCode.isBanned at hlost
  unfold judge
  by_cases haccepted : reply.code ∈ r.accepted
  · simp [haccepted] at hlost
  · cases hcategory : reply.code.category <;> simp_all

/-- What a call brings when this decided it. -/
def Call.outcome (c : Client) (call : Call) (answered : Except Error Reply) :
    Except Error Success :=
  let judged := answered.bind (call.request c).judge
  match call with
  | .login =>
    match judged.bind (Handler.loginResult c) with
    | .ok result => .ok (.loggedIn result)
    | .error e => .error (Handler.refusal e)
  | .logout =>
    match judged.bind (Request.logout.answer c.today) with
    | .ok _ => .ok .loggedOut
    | .error e =>
      match e with
      | .sessionInvalidated .. => if e.isBan then .error e else .ok .loggedOut
      | _ => .error e
  | .ping | .send _ =>
    (judged.bind ((call.request c).answer c.today)).map (Handler.success call)

namespace Handler

section Outcome

variable {c : Client} {now : Instant} {h : Handler} {call : Call} {held : Option Text}

theorem screen_snd (h : Handler) (r : Request) (reply : Reply) :
    (h.screen r reply).2 = r.judge reply := by
  unfold screen Request.judge
  split
  · rfl
  · cases reply.code.category <;> rfl

theorem finishLogin_snd (c : Client) (now : Instant) (hconn : h.connection = .connecting)
    (answered : Except Error Reply) :
    (finishLogin c now h answered).2 =
      match answered.bind (loginResult c) with
      | .ok result => .ok (.loggedIn result)
      | .error e => .error (refusal e) := by
  unfold finishLogin
  cases answered.bind (loginResult c) with
  | error e => rfl
  | ok result =>
    rw [hconn]
    rfl

/-- A call ends with what decided it means. -/
theorem conclude_snd (hsuits : Suits call held h.connection) (answered : Except Error Reply) :
    (conclude c now call held h answered).2 = call.outcome c answered := by
  cases call with
  | login =>
    have hconn : h.connection = .connecting := hsuits.eq_connecting
    cases answered with
    | error e => exact finishLogin_snd c now hconn (.error e)
    | ok reply =>
      have hscreen : (h.screen (.auth c.auth) reply).1.connection = .connecting := by
        rw [screen_fst, loseSession_of_connecting h hconn, ite_self]
        exact hconn
      show (finishLogin c now (h.screen (.auth c.auth) reply).1
        (h.screen (.auth c.auth) reply).2).2 = _
      rw [finishLogin_snd c now hscreen, screen_snd]
      rfl
  | logout =>
    cases answered with
    | error e => rfl
    | ok reply =>
      show (finishLogout c (h.screen .logout reply).1 (h.screen .logout reply).2).2 = _
      rw [screen_snd]
      rfl
  | ping =>
    cases answered with
    | error e => rfl
    | ok reply =>
      show (((h.screen (.ping c.auth.nat) reply).2).bind _).map (success .ping) = _
      rw [screen_snd]
      rfl
  | send r =>
    cases answered with
    | error e => rfl
    | ok reply =>
      show (((h.screen r reply).2).bind _).map (success (.send r)) = _
      rw [screen_snd]
      rfl

/-- A call ends with the error that came instead of a reply. -/
theorem outcome_of_error {e : Error} (hno : e.isUnanswered = true) :
    call.outcome c (.error e) = .error e := by
  cases call with
  | login =>
    show Except.error (refusal e) = _
    cases e with
    | unexpectedResponse => cases hno
    | _ => rfl
  | logout =>
    cases e with
    | sessionInvalidated => cases hno
    | _ => rfl
  | ping => rfl
  | send r => rfl

end Outcome

/-! ## What reading brings -/

section Hear

variable {c : Client} {now : Instant} {h : Handler} {tag : Text} {inbox : List Arrival}

/-- An error that decides was read. -/
theorem exists_of_listen_error {e : Error}
    (herror : (listen tag now inbox).verdict = some (.error e)) :
    ∃ a ∈ inbox, a.delivery.read = .error e := by
  induction inbox with
  | nil => cases herror
  | cons a rest ih =>
    unfold listen at herror
    split at herror
    · cases herror
    · split at herror
      · rename_i hread
        obtain rfl := Except.error.inj (Option.some.inj herror)
        exact ⟨a, List.mem_cons_self, hread⟩
      · split at herror
        · cases herror
        · obtain ⟨b, hb, hfound⟩ := ih herror
          exact ⟨b, List.mem_cons_of_mem a hb, hfound⟩

/-- A reply that decides was read, and answers the tag. -/
theorem exists_of_listen {reply : Reply}
    (hok : (listen tag now inbox).verdict = some (.ok reply)) :
    ∃ a ∈ inbox, a.delivery.read = .ok reply ∧ reply.answers tag = true := by
  induction inbox with
  | nil => cases hok
  | cons a rest ih =>
    unfold listen at hok
    split at hok
    · cases hok
    · split at hok
      · cases hok
      · rename_i hread
        split at hok
        · rename_i hanswers
          obtain rfl := Except.ok.inj (Option.some.inj hok)
          exact ⟨a, List.mem_cons_self, hread, hanswers⟩
        · obtain ⟨b, hb, hfound⟩ := ih hok
          exact ⟨b, List.mem_cons_of_mem a hb, hfound⟩

theorem rest_sublist (tag : Text) (now : Instant) (inbox : List Arrival) :
    (listen tag now inbox).rest.Sublist inbox := by
  induction inbox with
  | nil => exact List.Sublist.refl _
  | cons a rest ih =>
    unfold listen
    split
    · exact List.Sublist.refl _
    · split
      · exact List.sublist_cons_self a rest
      · split
        · exact List.sublist_cons_self a rest
        · exact ih.cons a

theorem hear_snd (c : Client) (now : Instant) (h : Handler) (p : Pending) :
    (h.hear c now p).2 =
      match (listen p.tag now h.network.inbox).verdict with
      | some answered => some answered
      | none => if p.deadline ≤ now then some (.error (.timeout c.requestTimeout)) else none := by
  unfold hear
  dsimp only
  cases (listen p.tag now h.network.inbox).verdict <;> rfl

/-- An error that decided is the end of the wait, or was read. -/
theorem eq_timeout_or_exists_of_hear {p : Pending} {e : Error}
    (hhear : (h.hear c now p).2 = some (.error e)) :
    e = .timeout c.requestTimeout ∨ ∃ a ∈ h.network.inbox, a.delivery.read = .error e := by
  rw [hear_snd] at hhear
  split at hhear
  · rename_i hverdict
    rw [Option.some.inj hhear] at hverdict
    exact .inr (exists_of_listen_error hverdict)
  · split at hhear
    · exact .inl (Except.error.inj (Option.some.inj hhear)).symm
    · cases hhear

/-- A reply that decided is one that was read and has the tag of the command, or none. -/
theorem exists_of_hear {p : Pending} {reply : Reply}
    (hhear : (h.hear c now p).2 = some (.ok reply)) :
    ∃ a ∈ h.network.inbox, a.delivery.read = .ok reply ∧ reply.answers p.tag = true := by
  rw [hear_snd] at hhear
  split at hhear
  · rename_i hverdict
    rw [Option.some.inj hhear] at hverdict
    exact exists_of_listen hverdict
  · split at hhear
    · cases Option.some.inj hhear
    · cases hhear

end Hear

/-! ## Commands that cannot be sent -/

section Send

variable {now : Instant} {h : Handler} {tag : Text}

theorem isUnsent_of_pack {line : Text} {e : Error} (hpack : Wire.pack line = .error e) :
    e.isUnsent = true := by
  unfold Wire.pack at hpack
  split at hpack
  · obtain rfl := Except.error.inj hpack
    rfl
  · dsimp only at hpack
    split at hpack
    · obtain rfl := Except.error.inj hpack
      rfl
    · cases hpack

theorem isUnsent_of_post {line : Text} {n : Network} {e : Error}
    (hpost : (n.post now line tag).2 = .error e) : e.isUnsent = true := by
  unfold Network.post at hpost
  dsimp only at hpost
  split at hpost
  · obtain rfl := Except.error.inj hpost
    rfl
  · cases hpost

theorem isUnsent_of_issue {r : Request} {key : Option Text} {e : Error}
    (hissue : (h.issue now r key).2 = .error e) : e.isUnsent = true := by
  unfold issue at hissue
  dsimp only at hissue
  split at hissue
  · rename_i hpack
    obtain rfl := Except.error.inj hissue
    exact isUnsent_of_pack hpack
  · cases hpost : (h.network.post now (r.line key (some ('t' :: Text.digits h.nextTag)))
      ('t' :: Text.digits h.nextTag)).2 with
    | error e' =>
      rw [hpost] at hissue
      obtain rfl := Except.error.inj hissue
      exact isUnsent_of_post hpost
    | ok u =>
      rw [hpost] at hissue
      cases hissue

end Send

end Handler

end AnidbClient
