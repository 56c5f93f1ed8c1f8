import AnidbClient.Proofs.Session.Actions
import AnidbClient.Proofs.Session.Trails

/-!
# Logging in

A login that finds a session is refused and changes nothing.  One that finds none is `connecting`
until it ends, and what it ends with is what the handler says afterwards: the session that a reply
granted, or no session and an error.

`Reply.Grants` tells which replies grant a session, and `loginError` what is wrong with the others.
`LoginBrings` puts the result beside the handler, and `brings_conclude_login` is the step for one
reply.  `login_settles` follows the login from the moment at which it has its turn.
-/

namespace AnidbClient

/-- The reply grants a session with this key, the first word of its first line.  The word `LOGIN`
starts the status message, so there is no key in front of it. -/
structure Reply.Grants (reply : Reply) (key : Text) : Prop where
  code : reply.code.number = 200 ∨ reply.code.number = 201
  word : (Text.words (Text.firstLine reply.body)).head? = some key
  notStatus : key ≠ "LOGIN"

/-- What a login fails with whose reply grants no session. -/
def loginError (reply : Reply) : Error :=
  if reply.code.number = 200 ∨ reply.code.number = 201 then
    .malformedField "AUTH" reply.code "session" reply.body
  else
    match reply.code.category with
    | .sessionInvalid | .banned => .sessionInvalidated reply.code (Text.firstLine reply.body)
    | .retryable => .serverBusy reply.code
    | .fatal => .authenticationFailed reply.code (Text.firstLine reply.body)
    | _ => .unexpectedResponse "AUTH" reply.code reply.body

/-- The result of a login with this reply, and the handler after it. -/
structure LoginBrings (reply : Reply) (result : Except Error Success) (h : Handler) : Prop where
  ok_iff : (∃ success, result = .ok success) ↔ ∃ key, reply.Grants key
  session : ∀ success, result = .ok success → ∃ granted : AuthResult,
    success = .loggedIn granted ∧ reply.Grants granted.session ∧
      h.connection = .authenticated granted.session
  error : ∀ e, result = .error e → e = loginError reply ∧ h.IsOut
  isBan : ∀ e, result = .error e → (e.isBan = true ↔ reply.code.category = .banned)

section Brings

variable {reply : Reply}

theorem mem_accepted_auth_iff (hcode : reply.code = .ofNumber reply.code.number)
    (a : AuthRequest) :
    reply.code ∈ (Request.auth a).accepted ↔
      reply.code.number = 200 ∨ reply.code.number = 201 := by
  simp only [Request.accepted, List.mem_cons, List.not_mem_nil, or_false]
  rw [ReturnCode.eq_iff_number_eq hcode rfl, ReturnCode.eq_iff_number_eq hcode rfl]
  rfl

/-- The reply to a login is read for a key, and there is none exactly if the reply grants none. -/
theorem AuthResult.read_cases (hcode : reply.code.number = 200 ∨ reply.code.number = 201) :
    (∃ granted, AuthResult.read reply.code reply.body = .ok granted ∧
        reply.Grants granted.session) ∨
      AuthResult.read reply.code reply.body = .error "session" ∧ ∀ key, ¬ reply.Grants key := by
  unfold AuthResult.read
  dsimp only
  cases hword : (Text.words (Text.firstLine reply.body)).head? with
  | none =>
    refine .inr ⟨rfl, fun key hgrants => ?_⟩
    cases hword.symm.trans hgrants.word
  | some word =>
    by_cases hstatus : word = "LOGIN"
    · refine .inr ⟨by rw [hstatus]; rfl, fun key hgrants => ?_⟩
      obtain rfl := Option.some.inj (hword.symm.trans hgrants.word)
      exact hgrants.notStatus hstatus
    · have hkey : (some word).filter (· ≠ ("LOGIN" : Text)) = some word :=
        if_pos (by simpa using hstatus)
      rw [hkey]
      exact .inl ⟨_, rfl, hcode, hword, hstatus⟩

namespace Handler

variable {c : Client}

theorem loginResult_of_mem (hmem : reply.code ∈ (Request.auth c.auth).accepted) :
    loginResult c reply = (AuthResult.read reply.code reply.body).mapError fun field =>
      .malformedField "AUTH" reply.code field reply.body := by
  unfold loginResult Request.answer Request.payload Request.read
  rw [if_pos hmem]
  cases AuthResult.read reply.code reply.body <;> rfl

theorem loginResult_of_not_mem (hmem : reply.code ∉ (Request.auth c.auth).accepted) :
    loginResult c reply = .error (.unexpectedResponse "AUTH" reply.code reply.body) := by
  unfold loginResult Request.answer
  rw [if_neg hmem]
  rfl

/-- A reply grants a session, or the login fails with what is wrong with it. -/
theorem judged_login_cases (c : Client) (hcode : reply.code = .ofNumber reply.code.number) :
    (∃ granted, ((Request.auth c.auth).judge reply).bind (loginResult c) = .ok granted ∧
        reply.Grants granted.session) ∨
      (∃ e, ((Request.auth c.auth).judge reply).bind (loginResult c) = .error e ∧
        refusal e = loginError reply) ∧ ∀ key, ¬ reply.Grants key := by
  have hmem := mem_accepted_auth_iff hcode c.auth
  unfold Request.judge loginError
  by_cases hnumber : reply.code.number = 200 ∨ reply.code.number = 201
  · rw [if_pos (hmem.2 hnumber), if_pos hnumber]
    show (∃ granted, loginResult c reply = .ok granted ∧ _) ∨
      (∃ e, loginResult c reply = .error e ∧ _) ∧ _
    rw [loginResult_of_mem (hmem.2 hnumber)]
    rcases AuthResult.read_cases hnumber with ⟨granted, hread, hgrants⟩ | ⟨hread, hnone⟩
    · exact .inl ⟨granted, by rw [hread]; rfl, hgrants⟩
    · exact .inr ⟨⟨_, by rw [hread]; rfl, rfl⟩, hnone⟩
  · have hnot : reply.code ∉ (Request.auth c.auth).accepted := fun h => hnumber (hmem.1 h)
    -- The code is screened, and what passes the screen is an answer that no login takes.
    rw [if_neg hnot, if_neg hnumber]
    refine .inr ⟨?_, fun key hgrants => hnumber hgrants.code⟩
    cases hcategory : reply.code.category with
    | sessionInvalid => exact ⟨_, rfl, rfl⟩
    | banned => exact ⟨_, rfl, rfl⟩
    | retryable => exact ⟨_, rfl, rfl⟩
    | fatal => exact ⟨_, loginResult_of_not_mem hnot, if_pos hcategory⟩
    | _ => exact ⟨_, loginResult_of_not_mem hnot, if_neg (by rw [hcategory]; decide)⟩

/-- A login that fails for what is wrong with its reply is banned exactly if the code says so. -/
theorem isBan_loginError (hcode : reply.code = .ofNumber reply.code.number) :
    (loginError reply).isBan = true ↔ reply.code.category = .banned := by
  unfold loginError
  split
  · rename_i hnumber
    have hsuccess : reply.code.category = .success := by
      rw [hcode]
      rcases hnumber with hnumber | hnumber <;> rw [hnumber] <;> rfl
    simp [Error.isBan, hsuccess]
  · cases hcategory : reply.code.category with
    | sessionInvalid => simp [Error.isBan, ReturnCode.isBanned, hcategory]
    | banned => simp [Error.isBan, ReturnCode.isBanned, hcategory]
    | fatal => simp [Error.isBan, ReturnCode.isBanned, hcategory]
    | _ => simp [Error.isBan]

/-- What a login with this reply ends with. -/
theorem brings_conclude_login (now : Instant) {held : Option Text} {h : Handler}
    (hconn : h.connection = .connecting) (hcode : reply.code = .ofNumber reply.code.number) :
    LoginBrings reply (conclude c now .login held h (.ok reply)).2
      (conclude c now .login held h (.ok reply)).1 := by
  have hscreened : screened c .login h (.ok reply) = h := by
    show (h.screen (.auth c.auth) reply).1 = h
    rw [screen_fst, loseSession_of_connecting h hconn, ite_self]
  have hconclude : conclude c now .login held h (.ok reply) =
      finishLogin c now h ((Request.auth c.auth).judge reply) := by
    rw [conclude_login, hscreened, ← screen_snd h]
    rfl
  rw [hconclude]
  unfold finishLogin
  rcases judged_login_cases c hcode with ⟨granted, hresult, hgrants⟩ | ⟨⟨e, hresult, he⟩, hnone⟩
  · rw [hresult, hconn]
    refine ⟨⟨fun _ => ⟨_, hgrants⟩, fun _ => ⟨_, rfl⟩⟩, ?_, ?_, ?_⟩
    · intro success hok
      exact ⟨granted, (Except.ok.inj hok).symm, hgrants, rfl⟩
    · intro e herror
      cases herror
    · intro e herror
      cases herror
  · rw [hresult]
    dsimp only
    rw [he]
    refine ⟨⟨?_, ?_⟩, ?_, ?_, ?_⟩
    · rintro ⟨success, hok⟩
      cases hok
    · rintro ⟨key, hgrants⟩
      exact absurd hgrants (hnone key)
    · intro success hok
      cases hok
    · intro e' herror
      exact ⟨(Except.error.inj herror).symm, isOut_disconnect h⟩
    · intro e' herror
      rw [← Except.error.inj herror]
      exact isBan_loginError hcode

end Handler

end Brings

/-! ## The law -/

namespace Session

open Turnstile Handler

variable {c : Client} {l : Limits} {server : Server} {before : List (Event Call)} {id : Caller}

/-- A login that has its turn.  If there is a session the login is refused, and nothing is sent or
changed.  If there is none the login is on its way until it settles: by a reply, which grants the
session that there is then or is the error; by an error in place of a reply; or by being called
away.  Unless a session was granted, there is none. -/
theorem login_settles {pace : Pace}
    (hin : GoesIn (service c) l (after c l server before) id .login pace) :
    let start := after c l server before
    (∃ key, start.state.connection = .authenticated key ∧
        (after c l server (before ++ [.poll id])).stage id =
          some (.left (.result (.error (.invalidState "Authenticated" "Connecting")))) ∧
        (after c l server (before ++ [.poll id])).state = start.state) ∨
      start.state.connection = .disconnected ∧ ∀ later,
        Unsettled c l (after c l server (before ++ .poll id :: later)) id .login .connecting
            (start.now + c.requestTimeout) LoginBrings ∨
          ∃ mid e rest, .poll id :: later = mid ++ e :: rest ∧
            Settles c l (after c l server (before ++ mid)) id .login LoginBrings e
              (after c l server (before ++ mid ++ [e])) := by
  intro start
  rcases disconnected_or_authenticated hin with hnone | ⟨key, hkey⟩
  · refine .inr ⟨hnone, fun later => ?_⟩
    exact unsettled_or_settled (.inl rfl) Suits.eq_connecting
      (fun hsuits hcode => brings_conclude_login _ hsuits.eq_connecting hcode) hin (.login hnone)
      later
  · have hne : start.state.connection ≠ .disconnected := by
      rw [hkey]
      exact Connection.noConfusion
    refine .inl ⟨key, hkey, ?_⟩
    have hrefused := step_of_refuses hin (.login hne)
    rw [hkey] at hrefused
    rw [after_concat]
    exact hrefused

/-- A server that takes a second to say that the client is banned. -/
def banningServer : Server :=
  .scripted [.respond [⟨.ofSecs 1, .reply .own "504 CLIENT BANNED - LEECHING"⟩]]

/-- A login that hears of a ban is over, and says so. -/
theorem login_settles_of_ban :
    let w := after .plain Settings.default.spacing.limits banningServer
      [.call 0 (.job .login), .poll 0, .tick (.ofSecs 1), .poll 0]
    w.stage 0 = some (.left (.result (.error
        (.sessionInvalidated .clientBanned "CLIENT BANNED - LEECHING".toList)))) ∧
      w.state.IsOut ∧
      ∃ mid e rest, [.poll 0, .tick (.ofSecs 1), .poll 0] = mid ++ e :: rest ∧
        Settles .plain Settings.default.spacing.limits
          (after .plain Settings.default.spacing.limits banningServer
            ([.call 0 (.job .login)] ++ mid)) 0 .login LoginBrings e
          (after .plain Settings.default.spacing.limits banningServer
            ([.call 0 (.job .login)] ++ mid ++ [e])) := by
  intro w
  have hleft : w.stage 0 = some (.left (.result (.error
      (.sessionInvalidated .clientBanned "CLIENT BANNED - LEECHING".toList)))) := by
    decide +kernel
  have hwaits : (after .plain Settings.default.spacing.limits banningServer
      [.call 0 (.job .login)]).stage 0 = some (.waiting (.job .login)) := by
    decide +kernel
  have hturn : ((after .plain Settings.default.spacing.limits banningServer
      [.call 0 (.job .login)]).pace.nextTurn Settings.default.spacing.limits
        (after .plain Settings.default.spacing.limits banningServer
          [.call 0 (.job .login)]).now false).2 = none := by
    decide +kernel
  have hin : GoesIn (service .plain) Settings.default.spacing.limits
      (after .plain Settings.default.spacing.limits banningServer [.call 0 (.job .login)]) 0
      .login _ :=
    .atOnce hwaits (by decide +kernel) (Prod.ext rfl hturn)
  refine ⟨hleft, ⟨by decide +kernel, by decide +kernel⟩, ?_⟩
  rcases login_settles hin with ⟨key, hkey, _⟩ | ⟨_, hlater⟩
  · have hnone : (after .plain Settings.default.spacing.limits banningServer
        [.call 0 (.job .login)]).state.connection = .disconnected := by
      decide +kernel
    cases hkey.symm.trans hnone
  · rcases hlater [.tick (.ofSecs 1), .poll 0] with hunsettled | hsettled
    · obtain ⟨p, hinside, _⟩ := hunsettled.waits
      cases hinside.symm.trans hleft
    · exact hsettled

end Session

end AnidbClient
