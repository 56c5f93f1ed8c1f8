import AnidbClient.Proofs.Session.Runs
import AnidbClient.Proofs.Turnstile.Spacing
import AnidbClient.Session.Host

/-!
# No two commands are too close

The log of the spacing law is the list of commands that were handed to the network.  A call sends
at most once, and only when it is let in (`logs_service`), so what holds of every turnstile holds
of the commands.  Valid settings make the delays what the protocol asks for, and the server never
sees two commands within its two seconds (`sent_spaced`).  Nobody connects with other settings, so
this is so for everyone who does (`spaced_of_connect`).
-/

namespace AnidbClient

/-! ## The log of a handler -/

namespace Handler

/-- When commands were handed to the network. -/
def sentTimes (h : Handler) : List Instant :=
  h.network.sent.map Prod.fst

theorem logs_service (c : Client) : (service c).Logs sentTimes where
  arrive now call h :=
    congrArg (fun n => n.sent.map Prod.fst) (sameWire_arrive c now h call).network
  enter now call h := by
    unfold sentTimes
    rcases (enters_enter c now h call).sent_cases with hsame | ⟨_, _, _, _, hgrown⟩
    · exact .inl (congrArg (List.map Prod.fst) hsame)
    · refine .inr ?_
      show ((enter c now call h).1.network.sent).map Prod.fst = _
      rw [hgrown, List.map_append, List.map_singleton]
  resume now p h := congrArg (List.map Prod.fst) (heeds_resume c now h p).sent_eq
  abandon _ p h := congrArg (fun n => n.sent.map Prod.fst) (sameWire_abandon h p).network

end Handler

/-! ## Valid settings -/

namespace Settings

/-- The short delay of valid settings is no shorter than the protocol allows. -/
theorem IsValid.floor_le {s : Settings} (hs : s.IsValid) :
    Protocol.shortDelayFloor.toNat ≤ s.spacing.shortDelayMs.toNat := by
  have hrule := hs _ List.mem_cons_self
  exact UInt64.le_iff_toNat_le.1 (of_decide_eq_true hrule)

/-- The long delay of valid settings is no shorter than the short one. -/
theorem IsValid.shortDelay_le {s : Settings} (hs : s.IsValid) :
    s.spacing.limits.shortDelay ≤ s.spacing.limits.longDelay := by
  have hrule := hs _ (List.mem_cons_of_mem _ List.mem_cons_self)
  exact Nat.mul_le_mul_right _ (UInt64.le_iff_toNat_le.1 (of_decide_eq_true hrule))

end Settings

/-! ## The law -/

/-- Moments that keep a gap span as many gaps as lie between them. -/
theorem span_of_pairwise {gap : Nat} {first last : Instant × Text} {mid : List (Instant × Text)}
    (h : (first :: (mid ++ [last])).Pairwise fun a b => a.1 + gap < b.1) :
    first.1 + (mid.length + 1) * gap < last.1 := by
  induction mid generalizing first with
  | nil =>
    rw [List.nil_append, List.pairwise_cons] at h
    have hlast := h.1 last (List.mem_singleton.2 rfl)
    simpa using hlast
  | cons next mid ih =>
    rw [List.cons_append, List.pairwise_cons] at h
    have hnext := h.1 next List.mem_cons_self
    have hrest := ih h.2
    calc first.1 + ((next :: mid).length + 1) * gap
        = (first.1 + gap) + (mid.length + 1) * gap := by
          rw [List.length_cons, Nat.succ_mul (mid.length + 1), Nat.add_right_comm, Nat.add_assoc]
      _ < next.1 + (mid.length + 1) * gap := Nat.add_lt_add_right hnext _
      _ < last.1 := hrest

namespace Session

/-- Valid settings keep any two commands further apart than their short delay. -/
theorem pairwise_sent {s : Settings} (hs : s.IsValid) {c : Client}
    (hclock : c.clock.Keeps (s.spacing.limits.longDelay + safetyMargin)) (server : Server)
    (events : List (Event Call)) :
    (after c s.spacing.limits server events).state.network.sent.Pairwise
      fun a b => a.1 + Duration.ofMillis s.spacing.shortDelayMs.toNat < b.1 := by
  have hspaced := Turnstile.spaced_run hs.shortDelay_le hclock (Handler.logs_service c)
    (Turnstile.orderly_opened (Handler.opened server))
    (Turnstile.spaced_opened s.spacing.limits.shortDelay rfl) events
  exact List.pairwise_map.1 hspaced.pairwise

/-- What is further apart than the short delay of valid settings is further apart than two
seconds. -/
theorem pairwise_floor {s : Settings} (hs : s.IsValid) {sent : List (Instant × Text)}
    (hsent : sent.Pairwise fun a b =>
      a.1 + Duration.ofMillis s.spacing.shortDelayMs.toNat < b.1) :
    sent.Pairwise fun a b => a.1 + Duration.ofMillis 2000 < b.1 := by
  have hfloor : Duration.ofMillis 2000 ≤ Duration.ofMillis s.spacing.shortDelayMs.toNat :=
    Nat.mul_le_mul_right _ hs.floor_le
  exact hsent.imp fun hlt => Nat.lt_of_le_of_lt (Nat.add_le_add_left hfloor _) hlt

/-- Whoever connects keeps any two commands more than two seconds apart. -/
theorem spaced_of_connect {s : Settings} {host : Host} {server : Server} {clock : Clock}
    {today : Date} {link : Link} (hlink : s.connect host server clock today = .ok link)
    (hclock : clock.Keeps (link.limits.longDelay + safetyMargin)) (events : List (Event Call)) :
    ((Turnstile.opened link.handler).run (Handler.service link.client) link.limits
      events).state.network.sent.Pairwise fun a b => a.1 + Duration.ofMillis 2000 < b.1 := by
  obtain ⟨hvalid, -, rfl⟩ := Settings.connect_eq_ok_iff.1 hlink
  exact pairwise_floor hvalid
    (pairwise_sent (c := s.client clock today) hvalid hclock server events)

/-- With valid settings any two commands are further apart than the short delay of the settings,
hence than two seconds, and so many commands take so much time, whatever callers and the server
do. -/
theorem sent_spaced (s : Settings) (hs : s.check = .ok ()) (c : Client)
    (hclock : c.clock.Keeps (s.spacing.limits.longDelay + safetyMargin)) (server : Server)
    (events : List (Event Call)) :
    let sent := (after c s.spacing.limits server events).state.network.sent
    (sent.Pairwise fun a b => a.1 + Duration.ofMillis s.spacing.shortDelayMs.toNat < b.1) ∧
      (sent.Pairwise fun a b => a.1 + Duration.ofMillis 2000 < b.1) ∧
      ∀ first mid last, (first :: (mid ++ [last])).Sublist sent →
        first.1 + (mid.length + 1) * Duration.ofMillis 2000 < last.1 := by
  intro sent
  have hvalid : s.IsValid := Settings.check_eq_ok_iff.1 hs
  have hshort : sent.Pairwise fun a b =>
      a.1 + Duration.ofMillis s.spacing.shortDelayMs.toNat < b.1 :=
    pairwise_sent hvalid hclock server events
  have htwo : sent.Pairwise fun a b => a.1 + Duration.ofMillis 2000 < b.1 :=
    pairwise_floor hvalid hshort
  exact ⟨hshort, htwo, fun first mid last hsub => span_of_pairwise (htwo.sublist hsub)⟩

/-- Two signs of life that nobody answers, by a client with the default settings. -/
theorem sent_spaced_of_pings :
    Settings.default.check = .ok () ∧
      Clock.standard.Keeps (Settings.default.spacing.limits.longDelay + safetyMargin) ∧
      let sent := (after .plain Settings.default.spacing.limits (.scripted [])
        [.call 0 (.job .ping), .poll 0, .tick (.ofSecs 30), .poll 0,
          .call 1 (.job .ping), .poll 1, .tick (.ofMillis 2550), .poll 1]).state.network.sent
      sent.map Prod.fst = [0, Duration.ofMillis 32550] ∧
        sent.Pairwise fun a b => a.1 + Duration.ofMillis 2000 < b.1 := by
  have hcheck : Settings.default.check = .ok () := by
    rw [Settings.check_eq_ok_iff]
    decide
  have hclock : Clock.standard.Keeps (Settings.default.spacing.limits.longDelay + safetyMargin) :=
    fun d hd => Clock.bounded_keeps Clock.longestSleep d (Nat.le_trans hd (by decide))
  refine ⟨hcheck, hclock, by decide +kernel, ?_⟩
  exact (sent_spaced Settings.default hcheck .plain hclock (.scripted []) _).2.1

end Session

end AnidbClient
