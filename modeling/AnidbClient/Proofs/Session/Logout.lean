import AnidbClient.Proofs.Session.Actions
import AnidbClient.Proofs.Session.Aftermath
import AnidbClient.Proofs.Session.Trails

/-!
# Logging out

A logout that has its turn and finds a session lets go of it, whatever the server does: there is no
session when it ends.  What the caller is told is another matter.  It succeeds where the server
confirms the logout, or knows of no session (`LogoutBrings`), and a ban is reported as one.

`brings_conclude_logout` is the step for one reply, and `logout_lets_go` the law.  A logout that is
called away before its turn has done nothing yet.
-/

namespace AnidbClient

/-- What a logout fails with whose reply neither confirms it nor tells of a lost session. -/
def logoutError (reply : Reply) : Error :=
  match reply.code.category with
  | .banned => .sessionInvalidated reply.code (Text.firstLine reply.body)
  | .retryable => .serverBusy reply.code
  | _ => .unexpectedResponse "LOGOUT" reply.code reply.body

/-- The result of a logout with this reply, and the handler after it. -/
structure LogoutBrings (reply : Reply) (result : Except Error Success) (h : Handler) : Prop where
  ok_iff : result = .ok .loggedOut ↔ reply.code.number ∈ ([203, 403, 501, 506] : List UInt16)
  error : reply.code.number ∉ ([203, 403, 501, 506] : List UInt16) →
    result = .error (logoutError reply)
  isBan : ∀ e, result = .error e → (e.isBan = true ↔ reply.code.category = .banned)
  out : h.IsOut

theorem ReturnCode.category_eq_sessionInvalid_iff {code : ReturnCode} :
    code.category = .sessionInvalid ↔
      code = .notLoggedIn ∨ code = .loginFirst ∨ code = .invalidSession := by
  cases code with
  | other n =>
    -- By their hundreds numbers without a name are fatal, retryable or unknown.
    simp only [category, reduceCtorEq, or_self, iff_false]
    split
    · decide
    · split <;> decide
  | _ => simp [category]

section Brings

variable {reply : Reply}

/-- The codes of a logout that succeeds. -/
theorem number_mem_iff (hcode : reply.code = .ofNumber reply.code.number) :
    reply.code.number ∈ ([203, 403, 501, 506] : List UInt16) ↔
      reply.code ∈ Request.logout.accepted ∨ reply.code.category = .sessionInvalid := by
  simp only [Request.accepted, List.mem_cons, List.not_mem_nil, or_false,
    ReturnCode.category_eq_sessionInvalid_iff]
  rw [ReturnCode.eq_iff_number_eq hcode rfl, ReturnCode.eq_iff_number_eq hcode rfl,
    ReturnCode.eq_iff_number_eq hcode rfl, ReturnCode.eq_iff_number_eq hcode rfl]
  show _ ↔ (_ = 203 ∨ _ = 403) ∨ _ = 403 ∨ _ = 501 ∨ _ = 506
  tauto

theorem isBan_logoutError (reply : Reply) :
    (logoutError reply).isBan = true ↔ reply.code.category = .banned := by
  unfold logoutError
  cases hcategory : reply.code.category with
  | banned => simp [Error.isBan, ReturnCode.isBanned, hcategory]
  | _ => simp [Error.isBan]

/-- A logout succeeds with its reply, or fails with what is wrong with it. -/
theorem outcome_logout (c : Client) (hcode : reply.code = .ofNumber reply.code.number) :
    Call.logout.outcome c (.ok reply) =
      if reply.code.number ∈ ([203, 403, 501, 506] : List UInt16) then .ok .loggedOut
      else .error (logoutError reply) := by
  have hjudged : ((Except.ok reply).bind Request.logout.judge).bind
      (Request.logout.answer c.today) = Request.logout.verdict c.today reply :=
    Request.bind_judge_answer c.today .logout reply
  unfold Call.outcome
  dsimp only [Call.request]
  rw [hjudged, if_congr (number_mem_iff hcode) rfl rfl]
  unfold Request.verdict logoutError
  by_cases haccepted : reply.code ∈ Request.logout.accepted
  · rw [if_pos haccepted, if_pos (.inl haccepted)]
    rfl
  · rw [if_neg haccepted]
    cases hcategory : reply.code.category with
    | sessionInvalid => simp [Error.isBan, ReturnCode.isBanned, hcategory]
    | banned => simp [Error.isBan, ReturnCode.isBanned, hcategory, haccepted]
    | _ => exact (if_neg (by simp [haccepted])).symm

namespace Handler

/-- What a logout with this reply ends with. -/
theorem brings_conclude_logout {c : Client} {now : Instant} {held : Option Text} {h : Handler}
    (hsuits : Suits .logout held h.connection)
    (hcode : reply.code = .ofNumber reply.code.number) :
    LogoutBrings reply (conclude c now .logout held h (.ok reply)).2
      (conclude c now .logout held h (.ok reply)).1 := by
  rw [conclude_snd hsuits, outcome_logout c hcode, conclude_logout_fst]
  by_cases hnumber : reply.code.number ∈ ([203, 403, 501, 506] : List UInt16)
  · rw [if_pos hnumber]
    refine ⟨⟨fun _ => hnumber, fun _ => rfl⟩, fun hnot => absurd hnumber hnot, ?_,
      isOut_disconnect _⟩
    intro e herror
    cases herror
  · rw [if_neg hnumber]
    refine ⟨⟨?_, fun hmem => absurd hmem hnumber⟩, fun _ => rfl, ?_, isOut_disconnect _⟩
    · intro hok
      cases hok
    · intro e herror
      obtain rfl := Except.error.inj herror
      exact isBan_logoutError reply

end Handler

end Brings

/-! ## The law -/

namespace Session

open Turnstile Handler

variable (c : Client) (l : Limits) (server : Server) (before : List (Event Call)) (id : Caller)

/-- A logout that is called away before its turn has changed nothing, and sent nothing.  When it
has its turn and there is no session, it says so, and nothing is sent or changed.  If there is a
session the logout is on its way until it settles: by a reply, by an error in place of a reply, or
by being called away; and whichever it is, there is no session then. -/
theorem logout_lets_go :
    let start := after c l server before
    let dropped := after c l server (before ++ [.drop id])
    let looked := after c l server (before ++ [.poll id])
    (start.stage id = some (.waiting (.job .logout)) →
        dropped.stage id = some .gone ∧ dropped.state = start.state ∧
          dropped.pace = start.pace) ∧
      (∀ ready, start.stage id = some (.pacing .logout ready) →
        dropped.stage id = some .gone ∧ dropped.state = start.state) ∧
      ∀ pace, GoesIn (service c) l start id .logout pace →
        (start.state.connection.session? = none ∧
          looked.stage id = some (.left (.result (.error .notAuthenticated))) ∧
          looked.state = start.state) ∨
        (∃ key, start.state.connection = .authenticated key) ∧ ∀ later,
          Unsettled c l (after c l server (before ++ .poll id :: later)) id .logout .loggingOut
              (start.now + c.requestTimeout) LogoutBrings ∨
            ∃ mid e rest, .poll id :: later = mid ++ e :: rest ∧
              Settles c l (after c l server (before ++ mid)) id .logout LogoutBrings e
                (after c l server (before ++ mid ++ [e])) := by
  intro start dropped looked
  have hdropped : dropped = start.drop (service c) id := after_concat c l server before (.drop id)
  have hlooked : looked = start.step (service c) l (.poll id) :=
    after_concat c l server before (.poll id)
  refine ⟨?_, ?_, ?_⟩
  · intro hstage
    rw [hdropped, drop_of_waiting (service c) hstage]
    exact ⟨stage_setStage_self _ _ _, rfl, rfl⟩
  · intro ready hstage
    rw [hdropped, drop_of_pacing (service c) hstage]
    exact ⟨stage_setStage_self _ _ _, rfl⟩
  · intro pace hin
    rcases disconnected_or_authenticated hin with hnone | ⟨key, hkey⟩
    · have hrefuse : Refuses c start.now start.state .logout .notAuthenticated start.state :=
        .logout (by rw [hnone]; rfl)
      rw [hlooked]
      exact .inl ⟨by rw [hnone]; rfl, step_of_refuses hin hrefuse⟩
    · refine .inr ⟨⟨key, hkey⟩, fun later => ?_⟩
      exact unsettled_or_settled (.inr rfl) Suits.eq_loggingOut brings_conclude_logout hin
        (.logout hkey) later

/-- Someone logs in, and wants to log out when its delay is over. -/
def wantsOut : List (Event Call) :=
  loggedIn ++ [.call 1 (.job .logout)]

/-- A logout that is called away in line leaves the session, and one that is called away a second
after it was sent leaves none. -/
theorem logout_lets_go_of_silence :
    (after .plain Settings.default.spacing.limits silentServer
        (wantsOut ++ [.drop 1])).state.connection = .authenticated "abc12".toList ∧
      (after .plain Settings.default.spacing.limits silentServer
        (wantsOut ++ [.poll 1, .tick (.ofSecs 1), .drop 1])).state.IsOut ∧
      ∃ mid e rest, [.poll 1, .tick (.ofSecs 1), .drop 1] = mid ++ e :: rest ∧
        Settles .plain Settings.default.spacing.limits
          (after .plain Settings.default.spacing.limits silentServer (wantsOut ++ mid)) 1 .logout
          LogoutBrings e
          (after .plain Settings.default.spacing.limits silentServer
            (wantsOut ++ mid ++ [e])) := by
  have hkey : (after .plain Settings.default.spacing.limits silentServer
      wantsOut).state.connection = .authenticated "abc12".toList := by
    decide +kernel
  have hwaits : (after .plain Settings.default.spacing.limits silentServer wantsOut).stage 1 =
      some (.waiting (.job .logout)) := by
    decide +kernel
  have hturn : ((after .plain Settings.default.spacing.limits silentServer
      wantsOut).pace.nextTurn Settings.default.spacing.limits
        (after .plain Settings.default.spacing.limits silentServer wantsOut).now false).2 =
      none := by
    decide +kernel
  have hgone : (after .plain Settings.default.spacing.limits silentServer
      (wantsOut ++ [.poll 1, .tick (.ofSecs 1), .drop 1])).stage 1 = some .gone := by
    decide +kernel
  obtain ⟨hline, _, hturns⟩ :=
    logout_lets_go .plain Settings.default.spacing.limits silentServer wantsOut 1
  refine ⟨by rw [(hline hwaits).2.1, hkey], ⟨by decide +kernel, by decide +kernel⟩, ?_⟩
  rcases hturns _ (.atOnce hwaits (by decide +kernel) (Prod.ext rfl hturn)) with
    ⟨hnone, _⟩ | ⟨_, hlater⟩
  · rw [hkey] at hnone
    cases hnone
  · rcases hlater [.tick (.ofSecs 1), .drop 1] with hunsettled | hsettled
    · obtain ⟨p, hinside, _⟩ := hunsettled.waits
      cases hinside.symm.trans hgone
    · exact hsettled

end Session

end AnidbClient
