import AnidbClient.Proofs.Session.Keys
import AnidbClient.Proofs.Session.Outcome

/-!
# When the server ends the session

A reply with a code of a lost session or of a ban, or the reply 203 to a logout, says that the
server knows no session of the client any more.  Every call that is answered so leaves the client
without a session, and the key goes out with no later command, with one exception: a `send` of a
logout takes the codes 203 and 403 for answers like any other, and gives the connection back as it
found it (`session_after_ending`).  `logout` does not share the fault.
-/

namespace AnidbClient

/-- Commands other than a logout take no code that ends the session. -/
theorem Request.endsSession_of_accepted {r : Request} (hr : r ≠ .logout) :
    ∀ code ∈ r.accepted, code.endsSession = false := by
  cases r with
  | logout => exact absurd rfl hr
  | _ =>
    simp [accepted, ReturnCode.endsSession, ReturnCode.isSessionInvalid, ReturnCode.isBanned,
      ReturnCode.category]

theorem Request.losesSession_of_endsSession {r : Request} (hr : r ≠ .logout) {code : ReturnCode}
    (hends : code.endsSession = true) : r.losesSession code = true := by
  have hnot : code ∉ r.accepted := by
    intro haccepted
    rw [endsSession_of_accepted hr code haccepted] at hends
    cases hends
  simp [losesSession, hnot, hends]

namespace Handler

section Ending

variable {c : Client} {now : Instant} {h : Handler} {call : Call} {held : Option Text}
  {reply : Reply}

/-- A call other than the `send` of a logout leaves no session behind when the server ended it. -/
theorem connection_conclude_of_ending (hsuits : Suits call held h.connection)
    (hends : reply.code.endsSession = true ∨
      call.request c = .logout ∧ reply.code = .loggedOut)
    (hcall : call ≠ .send .logout) :
    (conclude c now call held h (.ok reply)).1.connection = .disconnected := by
  cases call with
  | login =>
    have hconn : h.connection = .connecting := hsuits.eq_connecting
    have hcode : reply.code.endsSession = true :=
      hends.resolve_right fun hlogout => by cases hlogout.1
    have hlost : (Request.auth c.auth).losesSession reply.code = true :=
      Request.losesSession_of_endsSession (by simp) hcode
    have hscreen : ((Except.ok reply).bind fun reply => (h.screen (.auth c.auth) reply).2) =
        .error (.sessionInvalidated reply.code reply.message) :=
      (screen_snd h _ reply).trans (Request.judge_of_losesSession hlost)
    rw [connection_conclude_login c now h hconn, hscreen]
    rfl
  | logout => exact connection_conclude_logout c now h held (.ok reply)
  | ping =>
    have hcode : reply.code.endsSession = true :=
      hends.resolve_right fun hlogout => by cases hlogout.1
    have hconn : h.connection.isAuthenticated = true ∨ h.connection = .disconnected :=
      authenticated_or_disconnected hsuits.isSettled_of_ping.2
    rw [conclude_ping_fst]
    exact connection_release_of_loses hconn
      (Request.losesSession_of_endsSession (by simp) hcode)
  | send r =>
    have hr : r ≠ .logout := by
      rintro rfl
      exact hcall rfl
    have hcode : reply.code.endsSession = true := hends.resolve_right fun hlogout => hr hlogout.1
    rw [conclude_send_fst]
    exact connection_release_of_loses hsuits.send_authenticated
      (Request.losesSession_of_endsSession hr hcode)

/-- A `send` of a logout gives the connection back exactly if its code is one that it takes. -/
theorem connection_conclude_send_logout (hsuits : Suits (.send .logout) held h.connection)
    (hends : reply.code.endsSession = true ∨ reply.code = .loggedOut) (key : Text) :
    (conclude c now (.send .logout) held h (.ok reply)).1.connection = .authenticated key ↔
      reply.code ∈ Request.logout.accepted ∧ h.connection = .sending key := by
  rw [conclude_send_fst]
  generalize hconn : h.connection = conn at hsuits
  cases hsuits with
  | free hfree => cases hfree
  | @bound r key' =>
    rw [connection_release_heed hconn]
    by_cases haccepted : reply.code ∈ Request.logout.accepted
    · simp [Request.losesSession, haccepted]
    · have hcode : reply.code.endsSession = true := by
        refine hends.resolve_right fun hout => haccepted ?_
        rw [hout]
        exact List.mem_cons_self
      simp [Request.losesSession, haccepted, hcode]
  | @lost r key' =>
    have hheed : (h.heed .logout (.ok reply)).connection = .disconnected := by
      unfold heed
      dsimp only
      split
      · rw [connection_loseSession, hconn]
        rfl
      · exact hconn
    rw [connection_release_of_disconnected _ hheed]
    simp

end Ending

end Handler

/-! ## The law, and its exception -/

namespace Session

open Turnstile Handler

/-- When a reply that ends the session answers a call, the call ends, and the session survives
exactly if the call is the `send` of a logout, its connection is still there, and the code is one
that a logout takes.  Otherwise there is no session, and no later command carries a key that was
not granted after that. -/
theorem session_after_ending {c : Client} {l : Limits} {server : Server}
    (events : List (Event Call)) {id : Caller} {call : Call} {held : Option Text} {h : Handler}
    {reply : Reply} (hdecides : Decides c l (after c l server events) id call held h (.ok reply))
    (hends : reply.code.endsSession = true ∨
      call.request c = .logout ∧ reply.code = .loggedOut) :
    let ended := after c l server (events ++ [.poll id])
    (∃ result, ended.stage id = some (.left (.result result))) ∧
      (∀ key, ended.state.connection = .authenticated key ↔
        call = .send .logout ∧ reply.code ∈ Request.logout.accepted ∧
          h.connection = .sending key) ∧
      ((∀ key, ended.state.connection ≠ .authenticated key) →
        ended.state.connection = .disconnected ∧ ended.state.connection.session? = none ∧
          ∀ later, ∃ more,
            (after c l server (events ++ [.poll id] ++ later)).state.network.sent =
              ended.state.network.sent ++ more ∧
            ∀ entry ∈ more, CarriesGranted ended
              (after c l server (events ++ [.poll id] ++ later)) entry.2) := by
  intro ended
  have hw := orderly_after c l server events
  have hsuits := hdecides.suits
  have hended : ended = (after c l server events).step (service c) l (.poll id) :=
    after_concat c l server events (.poll id)
  have hconn : ended.state.connection =
      (conclude c (after c l server events).now call held h (.ok reply)).1.connection := by
    rw [hended, hdecides.state_eq]
  have hlost : (∀ key, ended.state.connection ≠ .authenticated key) →
      ended.state.connection = .disconnected := by
    intro hnot
    have hsettled : ended.state.connection.isSettled = true := by
      rw [hconn]
      exact hsuits.conclude (.ok reply)
    exact (eq_of_isSettled hsettled).resolve_right fun ⟨key, hkey⟩ => hnot key hkey
  refine ⟨⟨_, hended ▸ hdecides.stage_eq⟩, ?_, ?_⟩
  · intro key
    by_cases hcall : call = .send .logout
    · subst hcall
      rw [hconn, connection_conclude_send_logout hsuits (hends.imp_right And.right)]
      simp
    · rw [hconn, connection_conclude_of_ending hsuits hends hcall]
      simp [hcall]
  · intro hnot
    have hdisconnected := hlost hnot
    have hnone : ended.state.connection.session? = none := by
      rw [hdisconnected]
      rfl
    refine ⟨hdisconnected, hnone, fun later => ?_⟩
    have hinside : ended.inside? = none := by
      rw [hended]
      exact hdecides.inside?_eq hw
    have hsince := keysSince_run (c := c) (l := l) (orderly_after c l server _) hinside hnone later
    rw [← after_append] at hsince
    exact hsince.carried

/-- A server that takes the login and a second later knows nothing of it. -/
def forgetfulServer : Server :=
  .scripted [.respond [⟨0, .reply .own "200 abc12 LOGIN ACCEPTED"⟩],
    .respond [⟨.ofSecs 1, .reply .own "506 INVALID SESSION"⟩]]

/-- A sign of life has been on its way for a second. -/
def lateSignOfLife : List (Event Call) :=
  [.call 0 (.job .login), .poll 0, .tick (.ofSecs 3), .call 1 (.job .ping), .poll 1,
    .tick (.ofSecs 1)]

theorem session_after_forgetting :
    (after .plain Settings.default.spacing.limits forgetfulServer
        lateSignOfLife).state.connection = .authenticated "abc12".toList ∧
      (after .plain Settings.default.spacing.limits forgetfulServer
        (lateSignOfLife ++ [.poll 1])).state.connection = .disconnected := by
  refine ⟨by decide +kernel, ?_⟩
  have hstage : (after .plain Settings.default.spacing.limits forgetfulServer
      lateSignOfLife).stage 1 =
        some (.inside ⟨.ping, none, "t2".toList, Duration.ofSecs 33⟩) := by
    decide +kernel
  have hhear : ((after .plain Settings.default.spacing.limits forgetfulServer
      lateSignOfLife).state.hear .plain (Duration.ofSecs 4)
        ⟨.ping, none, "t2".toList, Duration.ofSecs 33⟩).2 =
          some (.ok ⟨some "t2".toList, .invalidSession, "INVALID SESSION".toList⟩) := by
    decide +kernel
  have hnow : (after .plain Settings.default.spacing.limits forgetfulServer
      lateSignOfLife).now = Duration.ofSecs 4 := by
    decide +kernel
  have hdecides := Decides.waiting (c := .plain) (l := Settings.default.spacing.limits) hstage
    (Prod.ext rfl (hnow ▸ hhear))
  obtain ⟨_, hiff, hlost⟩ := session_after_ending lateSignOfLife hdecides (.inl (by decide))
  have hnot : ∀ key, (after .plain Settings.default.spacing.limits forgetfulServer
      (lateSignOfLife ++ [.poll 1])).state.connection ≠ .authenticated key := by
    intro key hkey
    cases ((hiff key).1 hkey).1
  exact (hlost hnot).1

/-- A server that takes the login and the logout. -/
def politeServer : Server :=
  .scripted [.respond [⟨0, .reply .own "200 abc12 LOGIN ACCEPTED"⟩],
    .respond [⟨0, .reply .own "203 LOGGED OUT"⟩]]

/-- A login, and a logout that is sent like any other command. -/
def sentLogout : List (Event Call) :=
  [.call 0 (.job .login), .poll 0, .tick (.ofSecs 3), .call 1 (.job (.send .logout)), .poll 1]

/-- The server said that the client is logged out, and the next command still has the key. -/
theorem sentLogout_keeps_session :
    (after .plain Settings.default.spacing.limits politeServer sentLogout).stage 1 =
        some (.left (.result (.ok (.answered ⟨.loggedOut, none⟩)))) ∧
      (after .plain Settings.default.spacing.limits politeServer sentLogout).state.connection =
        .authenticated "abc12".toList ∧
      (after .plain Settings.default.spacing.limits politeServer
        (sentLogout ++ [.tick (.ofSecs 3), .call 2 (.job (.send .calendar)),
          .poll 2])).state.network.sent.getLast? =
        some (Duration.ofSecs 6, "CALENDAR s=abc12&tag=t3".toList) := by
  decide +kernel

end Session

end AnidbClient
