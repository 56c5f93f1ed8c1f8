import AnidbClient.Proofs.Limiter
import AnidbClient.Proofs.Turnstile.Order

/-!
# Nobody comes too early

A service may write down the moments at which something happens inside.  If it does so at most
once for a caller, and only when the caller goes in, then two moments in its log are further
apart than the short delay, whatever callers do and however they are called away.

* `Service.Logs` is the condition on the service.
* `Spaced` is the invariant.  Its heart are the last two fields: while nobody is inside, the pace
  remembers a moment that no entry of the log is later than; and whoever keeps a delay keeps it
  until every entry is further away than the gap.
* `spaced_run` is the law.  It needs a long delay that is no shorter than the short one, and a
  clock that ends no sleep early (`Clock.Keeps`).
-/

namespace AnidbClient

/-- No sleep of up to the given length ends early. -/
def Clock.Keeps (c : Clock) (longest : Duration) : Prop :=
  ∀ d ≤ longest, d ≤ c.lasts d

theorem Clock.bounded_keeps (longest : Duration) : (Clock.bounded longest).Keeps longest :=
  fun _ h => Nat.le_of_eq (bounded_lasts_of_le h).symm

variable {State Job Stay Result : Type}

/-- The log of a service grows when a caller goes in, by that moment and at most once. -/
structure Service.Logs (sv : Service State Job Stay Result) (log : State → List Instant) :
    Prop where
  arrive : ∀ now j t, log (sv.arrive now j t).1 = log t
  enter : ∀ now j t, log (sv.enter now j t).1 = log t ∨ log (sv.enter now j t).1 = log t ++ [now]
  resume : ∀ now y t, log (sv.resume now y t).1 = log t
  abandon : ∀ now y t, log (sv.abandon now y t) = log t

namespace Turnstile

/-- The entries of the log are further apart than the gap, and will stay so. -/
structure Spaced (gap : Duration) (log : State → List Instant)
    (w : Turnstile State Job Stay Result) : Prop where
  pairwise : (log w.state).Pairwise fun a b => a + gap < b
  past : ∀ a ∈ log w.state, a ≤ w.now
  stamped : ∀ last, w.pace.lastRequest = some last → last ≤ w.now
  remembered : w.inside? = none → ∀ a ∈ log w.state,
    ∃ last, w.pace.lastRequest = some last ∧ a ≤ last
  ready : ∀ id j at', w.stage id = some (.pacing j at') → ∀ a ∈ log w.state, a + gap < at'

section Kept

variable {gap : Duration} {log : State → List Instant} {w w' : Turnstile State Job Stay Result}

/-- Moves that write nothing down and start no delay.  Either nobody gets out, or the moment is
remembered. -/
theorem Spaced.of_same_log (h : w.Spaced gap log) (hlog : log w'.state = log w.state)
    (hnow : w.now ≤ w'.now)
    (hpace : w'.pace.lastRequest = some w'.now ∨
      w'.pace.lastRequest = w.pace.lastRequest ∧ (w'.inside? = none → w.inside? = none))
    (hready : ∀ id j at', w'.stage id = some (.pacing j at') →
      w.stage id = some (.pacing j at')) : w'.Spaced gap log := by
  refine ⟨hlog ▸ h.pairwise, ?_, ?_, ?_, ?_⟩
  · intro a ha
    rw [hlog] at ha
    exact Nat.le_trans (h.past a ha) hnow
  · intro last hlast
    rcases hpace with hstamp | ⟨hsame, _⟩
    · rw [hstamp, Option.some.injEq] at hlast
      exact Nat.le_of_eq hlast.symm
    · exact Nat.le_trans (h.stamped last (hsame ▸ hlast)) hnow
  · intro hnone a ha
    rw [hlog] at ha
    rcases hpace with hstamp | ⟨hsame, hinside⟩
    · exact ⟨w'.now, hstamp, Nat.le_trans (h.past a ha) hnow⟩
    · obtain ⟨last, hlast, hle⟩ := h.remembered (hinside hnone) a ha
      exact ⟨last, hsame ▸ hlast, hle⟩
  · intro id j at' hstage a ha
    rw [hlog] at ha
    exact h.ready id j at' (hready id j at' hstage) a ha

/-- A silence longer than the delay keeps the gap. -/
private theorem lt_of_silence {a last now gap delay : Nat} (hle : a ≤ last)
    (hdelay : delay < now - last) (hgap : gap ≤ delay) : a + gap < now := by
  omega

/-- A sleep that makes up for the rest of the delay keeps the gap. -/
private theorem lt_of_sleep {a last now gap delay margin sleep : Nat} (hle : a ≤ last)
    (hstamped : last ≤ now) (hsilence : now - last ≤ delay) (hgap : gap ≤ delay)
    (hmargin : 0 < margin) (hsleep : delay - (now - last) + margin ≤ sleep) :
    a + gap < now + sleep := by
  omega

variable {sv : Service State Job Stay Result} {l : Limits} {id : Caller}

/-- Whoever is let in comes later than every entry by more than the short delay. -/
theorem Spaced.lt_of_goesIn (h : w.Spaced l.shortDelay log) (hw : w.Orderly)
    (hl : l.shortDelay ≤ l.longDelay) {j : Job} {p : Pace} (hin : GoesIn sv l w id j p) :
    ∀ a ∈ log w.state, a + l.shortDelay < w.now := by
  have hnone := hin.inside? hw
  intro a ha
  cases hin with
  | atOnce _ _ hturn =>
    obtain ⟨last, hlast, hle⟩ := h.remembered hnone a ha
    have hdelay := Pace.currentDelay_lt_of_nextTurn hturn hlast
    exact lt_of_silence hle hdelay (Pace.shortDelay_le_currentDelay hl)
  | paced hstage hready => exact Nat.lt_of_lt_of_le (h.ready _ _ _ hstage a ha) hready

/-- Whoever starts to keep a delay keeps it until every entry is further away than the short
delay. -/
theorem Spaced.lt_of_wait (h : w.Spaced l.shortDelay log) (hl : l.shortDelay ≤ l.longDelay)
    (hclock : sv.clock.Keeps (l.longDelay + safetyMargin)) {ticket : Ticket Job}
    (hstage : w.stage id = some (.waiting ticket)) (hhead : w.line.head? = some id) {short : Bool}
    {p : Pace} {wait : Duration} (hturn : w.pace.nextTurn l w.now short = (p, some wait)) :
    ∀ a ∈ log w.state, a + l.shortDelay < w.now + sv.clock.lasts wait := by
  intro a ha
  obtain ⟨last, hlast, hle⟩ := h.remembered (inside?_of_head_waiting hhead hstage) a ha
  obtain ⟨last', hlast', hsilence, hwait⟩ := Pace.exists_of_nextTurn_some hturn
  obtain rfl : last = last' := Option.some.inj (hlast.symm.trans hlast')
  have hlong : w.pace.currentDelay l w.now short ≤ l.longDelay :=
    Pace.currentDelay_le_longDelay hl
  have hsleep : wait ≤ sv.clock.lasts wait := by
    apply hclock
    rw [hwait]
    exact Nat.add_le_add_right (Nat.le_trans (Nat.sub_le _ _) hlong) _
  exact lt_of_sleep hle (h.stamped last hlast) hsilence (Pace.shortDelay_le_currentDelay hl)
    (by decide : 0 < safetyMargin) (hwait ▸ hsleep)

/-- A caller that is let in writes down at most the present moment. -/
theorem Spaced.enter (h : w.Spaced l.shortDelay log) (hw : w.Orderly)
    (hl : l.shortDelay ≤ l.longDelay) (hlog : sv.Logs log) {j : Job} {p : Pace}
    (hin : GoesIn sv l w id j p) :
    ({ w with pace := p }.settle id (sv.enter w.now j w.state)).Spaced l.shortDelay log := by
  have hlt := h.lt_of_goesIn hw hl hin
  have hp : p.lastRequest = w.pace.lastRequest := by
    cases hin with
    | atOnce _ _ hturn =>
      rw [← Pace.lastRequest_nextTurn l w.pace w.now (sv.keepsShort j), hturn]
    | paced _ _ => rfl
  have hhead := hin.head? hw
  have hpaced : ({ w with pace := p } : Turnstile State Job Stay Result).Orderly :=
    hw.congr rfl rfl
  have hinside := hpaced.inside?_settle hhead (sv.enter w.now j w.state)
  generalize hturn : sv.enter w.now j w.state = turn at hinside ⊢
  have hnew := hlog.enter w.now j w.state
  rw [hturn] at hnew
  -- The log of a caller that was let in holds nothing later than now.
  have hmem : ∀ a ∈ log turn.1, a ≤ w.now := by
    intro a ha
    rcases hnew with hsame | hgrown
    · exact h.past a (hsame ▸ ha)
    · rw [hgrown, List.mem_append, List.mem_singleton] at ha
      exact ha.elim (h.past a) Nat.le_of_eq
  refine ⟨?_, ?_, ?_, ?_, ?_⟩
  · rw [state_settle]
    rcases hnew with hsame | hgrown
    · exact hsame ▸ h.pairwise
    · rw [hgrown, List.pairwise_append]
      refine ⟨h.pairwise, List.pairwise_singleton _ _, ?_⟩
      intro a ha b hb
      rw [List.mem_singleton] at hb
      exact hb ▸ hlt a ha
  · rw [state_settle, now_settle]
    exact hmem
  · obtain ⟨t, y | r⟩ := turn
    · intro last hlast
      exact h.stamped last (hp ▸ hlast)
    · intro last hlast
      exact Nat.le_of_eq (Option.some.inj hlast).symm
  · obtain ⟨t, y | r⟩ := turn
    · rw [hinside]
      intro hnone
      cases hnone
    · intro _ a ha
      exact ⟨w.now, rfl, hmem a ha⟩
  · intro k j' at' hstage
    have hk : k ≠ id := by
      rintro rfl
      obtain ⟨t, y | r⟩ := turn
      · rw [settle_staying, stage_setStage_self] at hstage
        cases hstage
      · rw [settle_leaving, stage_setStage_self] at hstage
        cases hstage
    rw [stage_settle_of_ne _ _ _ hk] at hstage
    have hk' := hpaced.head?_of_pacing hstage
    rw [hhead, Option.some.injEq] at hk'
    exact absurd hk'.symm hk

theorem Spaced.move (h : w.Spaced l.shortDelay log) (hw : w.Orderly)
    (hl : l.shortDelay ≤ l.longDelay) (hclock : sv.clock.Keeps (l.longDelay + safetyMargin))
    (hlog : sv.Logs log) {e : Event Job} (hm : Move sv l w e w') :
    w'.Spaced l.shortDelay log := by
  have hw' : w'.Orderly := hw.move hm
  cases hm with
  | rest => exact h
  | tick d =>
    exact h.of_same_log rfl (Nat.le_add_right w.now d) (.inr ⟨rfl, id⟩) (fun _ _ _ => id)
  | ask hnew =>
    refine h.of_same_log rfl (Nat.le_refl _) (.inr ⟨rfl, ?_⟩)
      (fun _ _ _ => stage_of_setStage rfl (by simp))
    rw [hw.inside?_setStage hw' rfl (by simp [hnew]) (by simp)]
    exact fun hnone => hnone
  | @refuse k j t r hnew harrive =>
    refine h.of_same_log ?_ (Nat.le_refl _) (.inr ⟨rfl, ?_⟩)
      (fun _ _ _ => stage_of_setStage rfl (by simp))
    · have hj := hlog.arrive w.now j w.state
      rw [harrive] at hj
      exact hj
    · rw [hw.inside?_setStage hw' rfl (by simp [hnew]) (by simp)]
      exact fun hnone => hnone
  | @queue k j t hnew harrive =>
    refine h.of_same_log ?_ (Nat.le_refl _) (.inr ⟨rfl, ?_⟩)
      (fun _ _ _ => stage_of_setStage rfl (by simp))
    · have hj := hlog.arrive w.now j w.state
      rw [harrive] at hj
      exact hj
    · rw [hw.inside?_setStage hw' rfl (by simp [hnew]) (by simp)]
      exact fun hnone => hnone
  | tell hstage _ =>
    refine h.of_same_log rfl (Nat.le_refl _) (.inr ⟨rfl, ?_⟩)
      (fun _ _ _ => stage_of_setStage rfl (by simp))
    rw [hw.inside?_setStage hw' rfl (by simp [hstage]) (by simp)]
    exact fun hnone => hnone
  | @pace k j p wait hstage hhead hturn =>
    have hlt := h.lt_of_wait hl hclock hstage hhead hturn
    have hp : p.lastRequest = w.pace.lastRequest := by
      rw [← Pace.lastRequest_nextTurn l w.pace w.now (sv.keepsShort j), hturn]
    refine ⟨h.pairwise, h.past, fun last hlast => h.stamped last (hp ▸ hlast), ?_, ?_⟩
    · intro _ a ha
      obtain ⟨last, hlast, hle⟩ := h.remembered (inside?_of_head_waiting hhead hstage) a ha
      exact ⟨last, hp.trans hlast, hle⟩
    · intro k' j' at' hk' a ha
      rw [stage_setStage] at hk'
      split at hk'
      · cases hk'
        exact hlt a ha
      · exact h.ready k' j' at' hk' a ha
  | enter hin => exact h.enter hw hl hlog hin
  | @resume k y hstage =>
    have hinside := hw.inside?_settle (hw.head?_of_inside hstage) (sv.resume w.now y w.state)
    have hsame := hlog.resume w.now y w.state
    generalize sv.resume w.now y w.state = turn at hinside hsame hw' ⊢
    obtain ⟨t, y' | r⟩ := turn
    · refine h.of_same_log hsame (Nat.le_refl _) (.inr ⟨rfl, ?_⟩)
        (fun _ _ _ => stage_of_setStage rfl (by simp))
      rw [hinside]
      intro hnone
      cases hnone
    · exact h.of_same_log hsame (Nat.le_refl _) (.inl rfl)
        (fun _ _ _ => stage_of_setStage rfl (by simp))
  | dropWaiting hstage =>
    refine h.of_same_log rfl (Nat.le_refl _) (.inr ⟨rfl, ?_⟩)
      (fun _ _ _ => stage_of_setStage rfl (by simp))
    rw [hw.inside?_setStage hw' rfl (by simp [hstage]) (by simp)]
    exact fun hnone => hnone
  | dropPacing hstage =>
    exact h.of_same_log rfl (Nat.le_refl _) (.inl rfl)
      (fun _ _ _ => stage_of_setStage rfl (by simp))
  | @dropInside k y hstage =>
    exact h.of_same_log (hlog.abandon w.now y w.state) (Nat.le_refl _) (.inl rfl)
      (fun _ _ _ => stage_of_setStage rfl (by simp))

end Kept

/-- Before anyone came there is nothing that could be too close. -/
theorem spaced_opened (gap : Duration) {log : State → List Instant} {t : State}
    (hlog : log t = []) : (opened t : Turnstile State Job Stay Result).Spaced gap log where
  pairwise := by
    show (log t).Pairwise _
    rw [hlog]
    exact List.Pairwise.nil
  past a ha := by simp [opened, hlog] at ha
  stamped last hlast := by simp [opened, Pace.fresh] at hlast
  remembered _ a ha := by simp [opened, hlog] at ha
  ready id j at' hstage := by simp [opened] at hstage

/-- Whatever callers do, two entries of the log are further apart than the short delay. -/
theorem spaced_run {sv : Service State Job Stay Result} {l : Limits}
    {log : State → List Instant} (hl : l.shortDelay ≤ l.longDelay)
    (hclock : sv.clock.Keeps (l.longDelay + safetyMargin)) (hlog : sv.Logs log)
    {w : Turnstile State Job Stay Result} (hw : w.Orderly) (h : w.Spaced l.shortDelay log)
    (events : List (Event Job)) : (w.run sv l events).Spaced l.shortDelay log := by
  have hboth : (w.run sv l events).Orderly ∧ (w.run sv l events).Spaced l.shortDelay log :=
    run_induction sv l (P := fun v => v.Orderly ∧ v.Spaced l.shortDelay log) ⟨hw, h⟩
      (fun hv hm => ⟨hv.1.move hm, hv.2.move hv.1 hl hclock hlog hm⟩) events
  exact hboth.2

end Turnstile

end AnidbClient
